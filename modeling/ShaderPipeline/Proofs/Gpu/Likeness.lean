import ShaderPipeline.Gpu.Tracker
import ShaderPipeline.Proofs.Gpu.AssemblyTraces

/-!
# Scripts on devices that are alike

Devices can be alike without giving the same replies: a creation that fails has another text, there
are other logs, or a location is another number. Two scripts are `Alike` if they go on in the same
way after replies that are related, whatever the relation is, and then what they do on such devices
is alike too (`Alike.run_eq`, `Alike.flatMap_exchanges`). The operations of a tracker are alike to
themselves for any relation, and so is an assembly for one that does not relate too much
(`Likeness.Bounds`, `assemble_alike`).

`Likeness` says which differences there are in creations, logs and locations. Verdicts may differ as
well if they are related by the parameter `verdict`. Where the logs are not the same, the events
that report them are not compared. A log is only asked of a stage that was created before, and the
relation of scripts keeps these stages, since devices need not be alike in what they say of other
stages.
-/

namespace ShaderPipeline.Gpu

variable {S P T σ τ α β γ δ : Type}

/-! ## Replies -/

/-- A relation of the replies to the same call on two devices. -/
abbrev ReplyRelation (S P T : Type) := (c : Call S P T) → c.Reply → c.Reply → Prop

/-- The differences between two devices: the location that the other one gives for a location, the
texts with which creations fail on them, and whether their logs are the same. -/
structure Likeness where
  location : Int → Int
  location_unresolved : location unresolvedLocation = unresolvedLocation
  text : String → String → Prop
  logs : Prop

namespace Likeness

/-- There are no differences, except in the logs unless these are the same. -/
def upToLogs (logs : Prop) : Likeness where
  location := id
  location_unresolved := rfl
  text := Eq
  logs := logs

variable (L : Likeness)

/-- Both devices create the same, or neither creates anything. -/
inductive Created {H : Type} : Except String H → Except String H → Prop
  | ok {handle : H} : Created (.ok handle) (.ok handle)
  | error {text other : String} (htext : L.text text other) : Created (.error text) (.error other)

variable {L} in
/-- The same creation is alike if the same texts are. -/
theorem Created.refl {H : Type} (htext : ∀ text, L.text text text) (created : Except String H) :
    L.Created created created := by
  cases created with
  | error text => exact .error (htext text)
  | ok handle => exact .ok

/-- Two replies to a call are alike. -/
def Reply : (c : Call S P T) → c.Reply → c.Reply → Prop
  | .createStage _, reply, other => L.Created (H := S) reply other
  | .createProgram, reply, other => L.Created (H := P) reply other
  | .stageLog _, reply, other | .programLog _, reply, other => L.logs → other = reply
  | .uniformLocation _ _, (reply : Option Int), (other : Option Int) =>
    other.getD unresolvedLocation = L.location (reply.getD unresolvedLocation)
  | _, reply, other => other = reply

end Likeness

/-- The stage whose log a call asks for. -/
def Call.logStage? : Call S P T → Option S
  | .stageLog stage => some stage
  | _ => none

/-- The stages that are known after an exchange. -/
def Exchange.knownAfter (known : List S) (exchange : Exchange (graphics S P T)) : List S :=
  exchange.createdStage?.toList ++ known

/-! ## Scripts -/

/-- Two scripts go on in the same way after replies that are related, and end alike. Logs are only
asked of stages that are known, and events are compared if the logs are the same. -/
inductive Alike (replies : ReplyRelation S P T) (logs : Prop) (same : α → β → Prop) :
    List S → Script (graphics S P T) α → Script (graphics S P T) β → Prop
  | done {known : List S} {result : α} {other : β} (hsame : same result other) :
      Alike replies logs same known (.done result) (.done other)
  | call {known : List S} {c : Call S P T} {next : c.Reply → Script (graphics S P T) α}
      {other : c.Reply → Script (graphics S P T) β}
      (hlog : ∀ stage ∈ c.logStage?, stage ∈ known)
      (hnext : ∀ reply answer, replies c reply answer →
        Alike replies logs same (Exchange.knownAfter known ⟨c, reply⟩) (next reply)
          (other answer)) :
      Alike replies logs same known (.call c next) (.call c other)
  | log {known : List S} {event : Event} {rest : Script (graphics S P T) α}
      {other : Script (graphics S P T) β} (hrest : Alike replies logs same known rest other) :
      Alike replies logs same known (.log event rest) (.log event other)
  | logFirst {known : List S} {event : Event} {rest : Script (graphics S P T) α}
      {other : Script (graphics S P T) β} (hlogs : ¬logs)
      (hrest : Alike replies logs same known rest other) :
      Alike replies logs same known (.log event rest) other
  | logSecond {known : List S} {event : Event} {rest : Script (graphics S P T) α}
      {other : Script (graphics S P T) β} (hlogs : ¬logs)
      (hrest : Alike replies logs same known rest other) :
      Alike replies logs same known rest (.log event other)

/-- Two devices give replies that are related as long as their states are related. -/
structure Lockstep (replies : ReplyRelation S P T) (device : Device (graphics S P T) σ)
    (other : Device (graphics S P T) τ) (related : List S → σ → τ → Prop) : Prop where
  reply : ∀ {known state otherState}, related known state otherState →
    ∀ c, (∀ stage ∈ c.logStage?, stage ∈ known) →
      replies c (device.answer c state).1 (other.answer c otherState).1
  state : ∀ {known state otherState}, related known state otherState →
    ∀ c, related (Exchange.knownAfter known ⟨c, (device.answer c state).1⟩)
      (device.answer c state).2 (other.answer c otherState).2

namespace Alike

variable {replies : ReplyRelation S P T} {logs : Prop} {same : α → β → Prop} {last : γ → δ → Prop}
  {known more : List S} {first : Script (graphics S P T) α} {second : Script (graphics S P T) β}

/-- Scripts stay alike when more stages are known. -/
theorem mono (h : Alike replies logs same known first second) (hmore : known ⊆ more) :
    Alike replies logs same more first second := by
  induction h generalizing more with
  | done hsame => exact .done hsame
  | call hlog _ ih =>
    refine .call (fun stage hstage => hmore (hlog stage hstage)) ?_
    intro reply answer halike
    exact ih reply answer halike (List.append_subset.2
      ⟨List.subset_append_left .., List.Subset.trans hmore (List.subset_append_right ..)⟩)
  | log _ ih => exact .log (ih hmore)
  | logFirst hlogs _ ih => exact .logFirst hlogs (ih hmore)
  | logSecond hlogs _ ih => exact .logSecond hlogs (ih hmore)

/-- Scripts in turn are alike if the first ones are and the next ones are after what they give. -/
theorem bind {next : α → Script (graphics S P T) γ} {other : β → Script (graphics S P T) δ}
    (h : Alike replies logs same known first second)
    (hnext : ∀ result outcome, same result outcome →
      Alike replies logs last known (next result) (other outcome)) :
    Alike replies logs last known (first.bind next) (second.bind other) := by
  induction h with
  | done hsame => exact hnext _ _ hsame
  | call hlog _ ih =>
    refine .call hlog ?_
    intro reply answer halike
    exact ih reply answer halike fun result outcome hsame =>
      (hnext result outcome hsame).mono (List.subset_append_right ..)
  | log _ ih => exact .log (ih hnext)
  | logFirst hlogs _ ih => exact .logFirst hlogs (ih hnext)
  | logSecond hlogs _ ih => exact .logSecond hlogs (ih hnext)

/-- Scripts stay alike when events are reported first, which may differ unless the logs are the
same. -/
theorem foldr_log {events events' : List Event} (h : Alike replies logs same known first second)
    (hevents : logs → events' = events) :
    Alike replies logs same known (events.foldr .log first) (events'.foldr .log second) := by
  by_cases hlogs : logs
  · rw [hevents hlogs]
    clear hevents
    induction events with
    | nil => exact h
    | cons event events ih => exact .log ih
  · clear hevents
    have hsecond : Alike replies logs same known first (events'.foldr .log second) := by
      induction events' with
      | nil => exact h
      | cons event events' ih => exact .logSecond hlogs ih
    induction events with
    | nil => exact hsecond
    | cons event events ih => exact .logFirst hlogs ih

variable {device : Device (graphics S P T) σ} {other : Device (graphics S P T) τ}
  {related : List S → σ → τ → Prop} {state : σ} {otherState : τ}

/-- What scripts that are alike do on devices that are alike. -/
theorem run_eq (h : Alike replies logs same known first second) (hstep : Lockstep replies device other related)
    (hstate : related known state otherState) :
    same (first.run device state).result (second.run other otherState).result ∧
      (second.run other otherState).calls = (first.run device state).calls ∧
      (logs → (second.run other otherState).events = (first.run device state).events) ∧
      ∃ after,
        related after (first.run device state).state (second.run other otherState).state := by
  induction h generalizing state otherState with
  | done hsame => exact ⟨hsame, rfl, fun _ => rfl, _, hstate⟩
  | @call known c next other hlog _ ih =>
    obtain ⟨hresult, hcalls, hevents, hafter⟩ :=
      ih _ _ (hstep.reply hstate c hlog) (hstep.state hstate c)
    exact ⟨hresult, congrArg (c :: ·) hcalls, hevents, hafter⟩
  | @log known event _ _ _ ih =>
    obtain ⟨hresult, hcalls, hevents, hafter⟩ := ih hstate
    exact ⟨hresult, hcalls, fun hlogs => congrArg (event :: ·) (hevents hlogs), hafter⟩
  | logFirst hlogs _ ih =>
    obtain ⟨hresult, hcalls, -, hafter⟩ := ih hstate
    exact ⟨hresult, hcalls, fun h => absurd h hlogs, hafter⟩
  | logSecond hlogs _ ih =>
    obtain ⟨hresult, hcalls, -, hafter⟩ := ih hstate
    exact ⟨hresult, hcalls, fun h => absurd h hlogs, hafter⟩

/-- What is read off the exchanges of scripts that are alike is the same if it is the same for
replies that are related. -/
theorem flatMap_exchanges (h : Alike replies logs same known first second)
    (hstep : Lockstep replies device other related) (hstate : related known state otherState)
    {read : Exchange (graphics S P T) → List γ}
    (hread : ∀ c reply answer, replies c reply answer → read ⟨c, answer⟩ = read ⟨c, reply⟩) :
    (second.exchanges other otherState).flatMap read =
      (first.exchanges device state).flatMap read := by
  induction h generalizing state otherState with
  | done => rfl
  | @call known c next other hlog _ ih =>
    have hreply := hstep.reply hstate c hlog
    simp only [Script.exchanges, List.flatMap_cons]
    rw [hread c _ _ hreply, ih _ _ hreply (hstep.state hstate c)]
  | log _ ih => exact ih hstate
  | logFirst _ _ ih => exact ih hstate
  | logSecond _ _ ih => exact ih hstate

end Alike

/-! ## An assembly is alike to itself -/

/-- A relation of replies relates no more than what may differ: creations, logs and locations
differ as `L` says, and verdicts as `verdict` says. -/
structure Likeness.Bounds (L : Likeness) (verdict : Bool → Bool → Prop)
    (replies : ReplyRelation S P T) : Prop where
  createStage : ∀ {kind reply other}, replies (.createStage kind) reply other →
    L.Created (H := S) reply other
  createProgram : ∀ {reply other}, replies .createProgram reply other →
    L.Created (H := P) reply other
  stageCompiled : ∀ {stage reply other}, replies (.stageCompiled stage) reply other →
    verdict reply other
  programLinked : ∀ {program reply other}, replies (.programLinked program) reply other →
    verdict reply other
  stageLog : ∀ {stage log other}, replies (.stageLog stage) log other → L.logs → other = log
  programLog : ∀ {program log other}, replies (.programLog program) log other →
    L.logs → other = log
  uniformLocation : ∀ {program name} {reply other : Option Int},
    replies (.uniformLocation program name) reply other →
      other.getD unresolvedLocation = L.location (reply.getD unresolvedLocation)
  /-- Where the logs are the same, the verdicts are. -/
  verdict_eq : L.logs → ∀ {succeeded other}, verdict succeeded other → other = succeeded

open Assembly in
/-- How two assemblies can end: with programs that have the same handle and alike locations, where
verdicts may differ, or with alike failures. -/
inductive Likeness.Ended (L : Likeness) (verdict : Bool → Bool → Prop) :
    Except AssemblyError (LinkedProgram P) → Except AssemblyError (LinkedProgram P) → Prop
  | ok {handle : P} {locations : List Int} {linked other vertex vertex' fragment fragment' : Bool}
      (hlinked : verdict linked other) (hvertex : verdict vertex vertex')
      (hfragment : verdict fragment fragment') :
      L.Ended verdict
        (.ok ⟨handle, locations, linkStatus linked, failedStages vertex fragment⟩)
        (.ok ⟨handle, locations.map L.location, linkStatus other,
          failedStages vertex' fragment'⟩)
  | tooLong {attributes uniforms : Nat} :
      L.Ended verdict (.error (.capacity attributes uniforms))
        (.error (.capacity attributes uniforms))
  | refused {text other : String} (htext : L.text text other) :
      L.Ended verdict (.error (.backend text)) (.error (.backend other))

namespace Assembly

section

variable {replies : ReplyRelation S P T} {logs : Prop} {known : List S}

/-- Sending calls that ask for no logs. -/
theorem sendAll_alike {calls : List (Call S P T)} (h : ∀ c ∈ calls, c.logStage? = none) :
    Alike replies logs Eq known (sendAll calls) (sendAll calls) := by
  induction calls generalizing known with
  | nil => exact .done rfl
  | cons c calls ih =>
    rw [List.forall_mem_cons] at h
    refine .call ?_ fun _ _ _ => ih h.2
    simp [h.1]

/-- Binding attributes. -/
theorem bindAll_alike (program : P) (attributes : List (Nat × String)) :
    Alike replies logs Eq known
      (sendAll (attributes.map fun entry => .bindAttribute program entry.1 entry.2))
      (sendAll (attributes.map fun entry => .bindAttribute program entry.1 entry.2)) := by
  apply sendAll_alike
  rw [List.forall_mem_map]
  exact fun _ _ => rfl

/-- Reporting verdicts. The events may differ unless the verdicts are the same. -/
theorem concluding_alike {same : α → β → Prop} (verdict other : Verdict)
    {failure report : String → Event} {bad good : α} {bad' good' : β}
    (hlogs : logs → other = verdict)
    (hsame : same (if verdict.succeeded then good else bad)
      (if other.succeeded then good' else bad')) :
    Alike replies logs same known (concluding verdict failure report bad good)
      (concluding other failure report bad' good') := by
  rw [concluding_eq, concluding_eq]
  exact (Alike.done hsame).foldr_log fun h => by rw [hlogs h]

end

variable {L : Likeness} {verdict : Bool → Bool → Prop} {replies : ReplyRelation S P T}
  {known : List S}

/-- Compiling a stage that is known. -/
theorem compileStage_alike (h : L.Bounds verdict replies) (source : ProgramSource)
    (kind : StageKind) {stage : S} (hstage : stage ∈ known) :
    Alike replies L.logs verdict known (compileStage source kind stage)
      (compileStage source kind stage) := by
  refine .call (by simp [Call.logStage?]) fun _ _ _ => ?_
  refine .call (by simp [Call.logStage?]) fun (compiled other : Bool) hcompiled => ?_
  have hverdict := h.stageCompiled hcompiled
  refine .call ?_ fun log otherLog hlog =>
    concluding_alike ⟨compiled, log⟩ ⟨other, otherLog⟩ (fun hlogs => ?_) ?_
  · intro asked hasked
    obtain rfl := Option.some.inj hasked
    exact hstage
  · rw [h.verdict_eq hlogs hverdict, h.stageLog hlog hlogs]
  · rwa [ite_self, ite_self]

/-- Linking a program. -/
theorem linkProgram_alike (h : L.Bounds verdict replies) (program : P) :
    Alike replies L.logs
      (fun status other => ∃ linked linked', verdict linked linked' ∧ status = linkStatus linked ∧
        other = linkStatus linked')
      known (linkProgram program) (linkProgram program) := by
  refine .call (by simp [Call.logStage?]) fun _ _ _ => ?_
  refine .call (by simp [Call.logStage?]) fun linked other hlinked => ?_
  have hverdict := h.programLinked hlinked
  refine .call (by simp [Call.logStage?]) fun log otherLog hlog =>
    concluding_alike ⟨linked, log⟩ ⟨other, otherLog⟩ (fun hlogs => ?_)
      ⟨linked, other, hverdict, rfl, rfl⟩
  rw [h.verdict_eq hlogs hverdict, h.programLog hlog hlogs]

/-- Asking for locations. -/
theorem locations_alike (h : L.Bounds verdict replies) (program : P)
    (uniforms : List (Option String)) :
    Alike replies L.logs (fun resolved other => other = resolved.map L.location) known
      (locations program uniforms) (locations program uniforms) := by
  induction uniforms generalizing known with
  | nil => exact .done rfl
  | cons entry uniforms ih =>
    cases entry with
    | none =>
      refine ih.bind fun resolved other hresolved => .done ?_
      rw [hresolved, List.map_cons, L.location_unresolved]
    | some name =>
      refine .call (by simp [Call.logStage?]) fun location answer hlocation => ?_
      refine ih.bind fun resolved other hresolved => .done ?_
      rw [hresolved, List.map_cons]
      exact congrArg (· :: resolved.map L.location) (h.uniformLocation hlocation)

/-- Finishing a program. -/
theorem finish_alike (h : L.Bounds verdict replies) (source : ProgramSource) (vertex fragment : S)
    (failed failed' : List StageKind) (program : P) :
    Alike replies L.logs
      (fun made other => ∃ linked linked' resolved, verdict linked linked' ∧
        made = ⟨program, resolved, linkStatus linked, failed⟩ ∧
        other = ⟨program, resolved.map L.location, linkStatus linked', failed'⟩)
      known (finish source vertex fragment failed program)
      (finish source vertex fragment failed' program) := by
  refine (sendAll_alike (by simp [Call.logStage?])).bind fun _ _ _ => ?_
  refine (bindAll_alike program source.namedAttributes).bind fun _ _ _ => ?_
  refine (linkProgram_alike h program).bind fun status other hstatus => ?_
  refine (locations_alike h program source.uniforms).bind fun resolved _ hresolved => ?_
  refine (sendAll_alike (by simp [Call.logStage?])).bind fun _ _ _ => .done ?_
  obtain ⟨linked, linked', hlinked, rfl, rfl⟩ := hstatus
  obtain rfl := hresolved
  exact ⟨linked, linked', resolved, hlinked, rfl, rfl⟩

/-- Making a program of two stages that are known. -/
theorem link_alike (h : L.Bounds verdict replies) (source : ProgramSource) {vertex fragment : S}
    (hvertex : vertex ∈ known) (hfragment : fragment ∈ known) :
    Alike replies L.logs (L.Ended verdict) known (link source vertex fragment)
      (link source vertex fragment) := by
  refine (compileStage_alike h source .vertex hvertex).bind fun _ _ hvertexCompiled => ?_
  refine (compileStage_alike h source .fragment hfragment).bind fun _ _ hfragmentCompiled => ?_
  refine .call (by simp [Call.logStage?]) fun created answer hcreated => ?_
  cases h.createProgram hcreated with
  | error htext =>
    exact (sendAll_alike (by simp [Call.logStage?])).bind fun _ _ _ => .done (.refused htext)
  | ok =>
    refine (finish_alike h ..).bind fun made other hmade => .done ?_
    obtain ⟨linked, linked', resolved, hlinked, rfl, rfl⟩ := hmade
    exact .ok hlinked hvertexCompiled hfragmentCompiled

end Assembly

/-- An assembly is alike to itself on devices whose replies differ within the bounds. -/
theorem assemble_alike {L : Likeness} {verdict : Bool → Bool → Prop}
    {replies : ReplyRelation S P T} (h : L.Bounds verdict replies) (source : ProgramSource) :
    Alike replies L.logs (L.Ended verdict) [] (assemble source) (assemble source) := by
  unfold assemble
  split
  · refine .call (by simp [Call.logStage?]) fun created answer hcreated => ?_
    cases h.createStage hcreated with
    | error htext => exact .done (.refused htext)
    | ok =>
      refine .call (by simp [Call.logStage?]) fun created answer hcreated => ?_
      cases h.createStage hcreated with
      | error htext =>
        exact (Assembly.sendAll_alike (by simp [Call.logStage?])).bind fun _ _ _ =>
          .done (.refused htext)
      | ok =>
        exact Assembly.link_alike h source (List.mem_cons_of_mem _ List.mem_cons_self)
          List.mem_cons_self
  · exact .done .tooLong

/-! ## Assemblies with the same verdicts -/

/-- Replies that are alike differ within the bounds, with the same verdicts. -/
theorem Likeness.bounds_reply (L : Likeness) : L.Bounds (fun succeeded other => other = succeeded)
    (L.Reply : ReplyRelation S P T) where
  createStage := id
  createProgram := id
  stageCompiled := id
  programLinked := id
  stageLog := id
  programLog := id
  uniformLocation := id
  verdict_eq := fun _ _ _ => id

/-- A program with its locations seen in another way. -/
def LinkedProgram.relocated (program : LinkedProgram P) (location : Int → Int) : LinkedProgram P :=
  { program with locations := program.locations.map location }

/-- Two results of an assembly are alike. -/
inductive Likeness.Assembled (L : Likeness) :
    Except AssemblyError (LinkedProgram P) → Except AssemblyError (LinkedProgram P) → Prop
  | ok {program : LinkedProgram P} : L.Assembled (.ok program) (.ok (program.relocated L.location))
  | tooLong {attributes uniforms : Nat} :
      L.Assembled (.error (.capacity attributes uniforms)) (.error (.capacity attributes uniforms))
  | refused {text other : String} (htext : L.text text other) :
      L.Assembled (.error (.backend text)) (.error (.backend other))

/-- Assemblies with the same verdicts end up to the text of a refusal and the locations. -/
theorem Likeness.Ended.assembled {L : Likeness} {made other : Except AssemblyError (LinkedProgram P)}
    (h : L.Ended (fun succeeded other => other = succeeded) made other) :
    L.Assembled made other := by
  cases h with
  | ok hlinked hvertex hfragment =>
    rw [hlinked, hvertex, hfragment]
    exact .ok
  | tooLong => exact .tooLong
  | refused htext => exact .refused htext

/-! ## The operations of a tracker are alike to themselves -/

/-- A last call that asks for no log and whose reply is not used. -/
theorem Alike.last {replies : ReplyRelation S P T} {logs : Prop} {known : List S} {c : Call S P T}
    (h : c.logStage? = none) (result : α) :
    Alike replies logs Eq known (.call c fun _ => .done result) (.call c fun _ => .done result) :=
  .call (by simp [h]) fun _ _ _ => .done rfl

namespace BindingTracker

variable {replies : ReplyRelation S P T} {logs : Prop} {known : List S}
  (tracker : BindingTracker P T)

/-- Putting a program in use. -/
theorem activate_alike [DecidableEq P] (program : P) :
    Alike replies logs Eq known (tracker.activate program) (tracker.activate program) := by
  unfold activate
  split
  · exact .done rfl
  · exact .last rfl _

/-- Taking the program out of use. -/
theorem deactivate_alike : Alike replies logs Eq known tracker.deactivate tracker.deactivate := by
  unfold deactivate
  split
  · exact .last rfl _
  · exact .done rfl

/-- Making a unit the active one. -/
theorem select_alike (unit : Nat) :
    Alike replies logs Eq known (tracker.select unit) (tracker.select unit) := by
  unfold select
  split
  · exact .done rfl
  · exact .last rfl _

/-- Binding a texture. -/
theorem bind_alike [DecidableEq T] (unit : Nat) (texture : T) :
    Alike replies logs Eq known (tracker.bind unit texture) (tracker.bind unit texture) := by
  unfold BindingTracker.bind
  split
  · split
    · exact .done rfl
    · refine (tracker.select_alike unit).bind fun selected _ hselected => ?_
      subst hselected
      exact .last rfl _
  · exact .done rfl

/-- Deleting a program. -/
theorem delete_alike [DecidableEq P] (program : P) :
    Alike replies logs Eq known (tracker.delete program) (tracker.delete program) :=
  .last rfl _

end BindingTracker

end ShaderPipeline.Gpu
