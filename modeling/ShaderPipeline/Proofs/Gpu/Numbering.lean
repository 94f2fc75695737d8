import ShaderPipeline.Proofs.Gpu.Traces

/-!
# Handles told apart by their creation

A device may return the same handle from two creations, and then calls on one object look like
calls on the other. `Device.numbered` is the device with a number on every handle that it returns,
which is the number of creations before it. A script that works with any handles cannot see the
numbers: `Erases` says so for two scripts that differ only in them, and then what one does on the
numbered device is what the other does on the device (`Erases.exchanges_eq`, `Erases.run_eq`).

Creations that fail are counted too. Textures are not created by scripts and stay as they are.
-/

namespace ShaderPipeline.Gpu

variable {S P T σ α β : Type}

/-- A handle with the number of the creation that returned it. -/
structure Handle (H : Type) where
  creation : Nat
  raw : H
deriving DecidableEq

namespace Call

/-- Whether a call creates something. -/
def creates : Call S P T → Bool
  | .createStage _ | .createProgram => true
  | _ => false

/-- A call without the numbers of its handles. -/
def raw : Call (Handle S) (Handle P) T → Call S P T
  | .createStage kind => .createStage kind
  | .compileStage stage text => .compileStage stage.raw text
  | .stageCompiled stage => .stageCompiled stage.raw
  | .stageLog stage => .stageLog stage.raw
  | .deleteStage stage => .deleteStage stage.raw
  | .createProgram => .createProgram
  | .attachStage program stage => .attachStage program.raw stage.raw
  | .detachStage program stage => .detachStage program.raw stage.raw
  | .bindAttribute program slot name => .bindAttribute program.raw slot name
  | .linkProgram program => .linkProgram program.raw
  | .programLinked program => .programLinked program.raw
  | .programLog program => .programLog program.raw
  | .uniformLocation program name => .uniformLocation program.raw name
  | .deleteProgram program => .deleteProgram program.raw
  | .useProgram program => .useProgram (program.map Handle.raw)
  | .activeTexture unit => .activeTexture unit
  | .bindTexture texture => .bindTexture texture

/-- A reply without the numbers of its handles. -/
def rawReply : (c : Call (Handle S) (Handle P) T) → c.Reply → c.raw.Reply
  | .createStage _, created => Except.map Handle.raw created
  | .createProgram, created => Except.map Handle.raw created
  | .stageCompiled _, reply | .programLinked _, reply | .stageLog _, reply
  | .programLog _, reply | .uniformLocation _ _, reply | .compileStage _ _, reply
  | .deleteStage _, reply | .attachStage _ _, reply | .detachStage _ _, reply
  | .bindAttribute _ _ _, reply | .linkProgram _, reply | .deleteProgram _, reply
  | .useProgram _, reply | .activeTexture _, reply | .bindTexture _, reply => reply

/-- A reply with a number on the handle that it has. -/
def numberReply (number : Nat) : (c : Call (Handle S) (Handle P) T) → c.raw.Reply → c.Reply
  | .createStage _, created => Except.map (Handle.mk number) created
  | .createProgram, created => Except.map (Handle.mk number) created
  | .stageCompiled _, reply | .programLinked _, reply | .stageLog _, reply
  | .programLog _, reply | .uniformLocation _ _, reply | .compileStage _ _, reply
  | .deleteStage _, reply | .attachStage _ _, reply | .detachStage _ _, reply
  | .bindAttribute _ _ _, reply | .linkProgram _, reply | .deleteProgram _, reply
  | .useProgram _, reply | .activeTexture _, reply | .bindTexture _, reply => reply

/-- The number of a reply can be taken off again. -/
theorem rawReply_numberReply (number : Nat) (c : Call (Handle S) (Handle P) T)
    (reply : c.raw.Reply) : c.rawReply (c.numberReply number reply) = reply := by
  cases c with
  | createStage kind => cases reply <;> rfl
  | createProgram => cases reply <;> rfl
  | _ => rfl

end Call

/-- A device with a number on every handle that it returns. -/
def Device.numbered (device : Device (graphics S P T) σ) :
    Device (graphics (Handle S) (Handle P) T) (σ × Nat) where
  answer c state :=
    let (reply, after) := device.answer c.raw state.1
    (c.numberReply state.2 reply, after, if c.creates then state.2 + 1 else state.2)

/-- An exchange without the numbers of its handles. -/
def Exchange.raw (exchange : Exchange (graphics (Handle S) (Handle P) T)) :
    Exchange (graphics S P T) :=
  ⟨exchange.call.raw, exchange.call.rawReply exchange.reply⟩

/-- A run without the numbers of its handles, of which the result is seen in a given way. -/
def Run.raw (view : α → β) (run : Run (graphics (Handle S) (Handle P) T) (σ × Nat) α) :
    Run (graphics S P T) σ β :=
  ⟨view run.result, run.calls.map Call.raw, run.events, run.state.1⟩

/-! ## Scripts that do not see the numbers -/

/-- Two scripts are one up to the numbers of handles. -/
inductive Erases (view : α → β) :
    Script (graphics (Handle S) (Handle P) T) α → Script (graphics S P T) β → Prop
  | done {result : α} : Erases view (.done result) (.done (view result))
  | call {c : Call (Handle S) (Handle P) T}
      {next : c.Reply → Script (graphics (Handle S) (Handle P) T) α}
      {rawNext : c.raw.Reply → Script (graphics S P T) β}
      (hnext : ∀ reply, Erases view (next reply) (rawNext (c.rawReply reply))) :
      Erases view (.call c next) (.call c.raw rawNext)
  | log {event : Event} {rest : Script (graphics (Handle S) (Handle P) T) α}
      {rawRest : Script (graphics S P T) β} (hrest : Erases view rest rawRest) :
      Erases view (.log event rest) (.log event rawRest)

namespace Erases

variable {view : α → β} {script : Script (graphics (Handle S) (Handle P) T) α}
  {raw : Script (graphics S P T) β}

/-- Scripts in turn are one up to the numbers if each is. -/
theorem bind {γ δ : Type} {last : γ → δ}
    {next : α → Script (graphics (Handle S) (Handle P) T) γ}
    {rawNext : β → Script (graphics S P T) δ} (h : Erases view script raw)
    (hnext : ∀ result, Erases last (next result) (rawNext (view result))) :
    Erases last (script.bind next) (raw.bind rawNext) := by
  induction h with
  | done => exact hnext _
  | call _ ih => exact .call ih
  | log _ ih => exact .log ih

/-- The exchanges on the numbered device are those on the device. -/
theorem exchanges_eq (h : Erases view script raw) (device : Device (graphics S P T) σ) (state : σ)
    (number : Nat) :
    (script.exchanges device.numbered (state, number)).map Exchange.raw =
      raw.exchanges device state := by
  induction h generalizing state number with
  | done => rfl
  | @call c next rawNext _ ih =>
    have hreply := c.rawReply_numberReply number (device.answer c.raw state).1
    have hrest := ih (c.numberReply number (device.answer c.raw state).1)
      (device.answer c.raw state).2 (if c.creates then number + 1 else number)
    rw [hreply] at hrest
    exact congr (congrArg List.cons (congrArg (Exchange.mk c.raw) hreply)) hrest
  | log _ ih => exact ih state number

/-- The run on the numbered device is the run on the device. -/
theorem run_eq (h : Erases view script raw) (device : Device (graphics S P T) σ) (state : σ)
    (number : Nat) :
    (script.run device.numbered (state, number)).raw view = raw.run device state := by
  induction h generalizing state number with
  | done => rfl
  | @call c next rawNext _ ih =>
    have hrest := ih (c.numberReply number (device.answer c.raw state).1)
      (device.answer c.raw state).2 (if c.creates then number + 1 else number)
    rw [c.rawReply_numberReply] at hrest
    exact congrArg (fun run : Run _ σ _ => { run with calls := c.raw :: run.calls }) hrest
  | @log event _ _ _ ih =>
    exact congrArg (fun run : Run _ σ _ => { run with events := event :: run.events })
      (ih state number)

end Erases

/-! ## Numbers of creations -/

/-- The number of the handle that a creation returned. -/
def Exchange.number? (exchange : Exchange (graphics (Handle S) (Handle P) T)) : Option Nat :=
  (exchange.createdStage?.map Handle.creation).or (exchange.createdProgram?.map Handle.creation)

/-- The number in a reply is the one that was put on it, and only creations have one. -/
theorem number?_numberReply {number other : Nat} {c : Call (Handle S) (Handle P) T}
    {reply : c.raw.Reply}
    (h : Exchange.number? ⟨c, c.numberReply number reply⟩ = some other) :
    other = number ∧ c.creates = true := by
  cases c with
  | createStage kind =>
    cases reply with
    | error text => cases h
    | ok stage => exact ⟨(Option.some.inj h).symm, rfl⟩
  | createProgram =>
    cases reply with
    | error text => cases h
    | ok program => exact ⟨(Option.some.inj h).symm, rfl⟩
  | _ => cases h

/-- On a numbered device the numbers of creations increase, so no two of them are the same. -/
theorem numbers_increase (device : Device (graphics S P T) σ)
    (script : Script (graphics (Handle S) (Handle P) T) α) (state : σ) (number : Nat) :
    (∀ other ∈ (script.exchanges device.numbered (state, number)).filterMap Exchange.number?,
      number ≤ other) ∧
    ((script.exchanges device.numbered (state, number)).filterMap Exchange.number?).Pairwise
      (· < ·) := by
  induction script generalizing state number with
  | done result => exact ⟨by simp [Script.exchanges], .nil⟩
  | call c next ih =>
    obtain ⟨hlower, hpairwise⟩ := ih (c.numberReply number (device.answer c.raw state).1)
      (device.answer c.raw state).2 (if c.creates then number + 1 else number)
    have hexchanges : (Script.call c next).exchanges device.numbered (state, number) =
        ⟨c, c.numberReply number (device.answer c.raw state).1⟩ :: _ := rfl
    rw [hexchanges]
    cases hnumber : Exchange.number? ⟨c, c.numberReply number (device.answer c.raw state).1⟩ with
    | none =>
      rw [List.filterMap_cons_none hnumber]
      refine ⟨?_, hpairwise⟩
      intro other hother
      have hle := hlower other hother
      split at hle <;> omega
    | some created =>
      obtain ⟨rfl, hcreates⟩ := number?_numberReply hnumber
      rw [List.filterMap_cons_some hnumber, List.forall_mem_cons, List.pairwise_cons]
      refine ⟨⟨Nat.le_refl _, ?_⟩, ?_, hpairwise⟩
      · intro other hother
        have hle := hlower other hother
        rw [if_pos hcreates] at hle
        exact Nat.le_of_lt hle
      · intro other hother
        have hle := hlower other hother
        rw [if_pos hcreates] at hle
        exact hle
  | log event rest ih => exact ih state number

/-! ## An assembly does not see the numbers -/

/-- An assembled program without the number of its handle. -/
def LinkedProgram.raw (program : LinkedProgram (Handle P)) : LinkedProgram P :=
  ⟨program.handle.raw, program.locations, program.status, program.failedStages⟩

namespace Assembly

/-- Sending calls does not see the numbers. -/
theorem sendAll_erases (calls : List (Call (Handle S) (Handle P) T)) :
    Erases id (sendAll calls) (sendAll (calls.map Call.raw)) := by
  induction calls with
  | nil => exact .done
  | cons call calls ih => exact .call fun _ => ih

/-- Binding attributes does not see the numbers. -/
theorem bindAll_erases (program : Handle P) (attributes : List (Nat × String)) :
    Erases (S := S) (P := P) (T := T) id
      (sendAll (attributes.map fun entry => .bindAttribute program entry.1 entry.2))
      (sendAll (attributes.map fun entry => .bindAttribute program.raw entry.1 entry.2)) := by
  have h := sendAll_erases (S := S) (P := P) (T := T)
    (attributes.map fun entry => .bindAttribute program entry.1 entry.2)
  rw [List.map_map] at h
  exact h

/-- Reporting the driver's verdict does not see the numbers. -/
theorem verdict_erases {succeeded : Bool} {quiet : Prop} [Decidable quiet] {failure report : Event}
    {bad good : α} :
    Erases (S := S) (P := P) (T := T) id
      (if !succeeded then .log failure (.done bad)
        else if quiet then .done good else .log report (.done good))
      (if !succeeded then .log failure (.done bad)
        else if quiet then .done good else .log report (.done good)) := by
  split
  · exact .log .done
  · split
    · exact .done
    · exact .log .done

/-- Compiling a stage does not see the numbers. -/
theorem compileStage_erases (source : ProgramSource) (kind : StageKind) (stage : Handle S) :
    Erases (S := S) (P := P) (T := T) id (compileStage source kind stage)
      (compileStage source kind stage.raw) :=
  .call fun _ => .call fun _ => .call fun _ => verdict_erases

/-- Linking a program does not see the numbers. -/
theorem linkProgram_erases (program : Handle P) :
    Erases (S := S) (P := P) (T := T) id (linkProgram program) (linkProgram program.raw) :=
  .call fun _ => .call fun _ => .call fun _ => verdict_erases

/-- Asking for locations does not see the numbers. -/
theorem locations_erases (program : Handle P) (uniforms : List (Option String)) :
    Erases (S := S) (P := P) (T := T) id (locations program uniforms)
      (locations program.raw uniforms) := by
  induction uniforms with
  | nil => exact .done
  | cons entry uniforms ih =>
    cases entry with
    | none => exact ih.bind fun _ => .done
    | some name => exact .call fun _ => ih.bind fun _ => .done

/-- Finishing a program does not see the numbers. -/
theorem finish_erases (source : ProgramSource) (vertex fragment : Handle S)
    (failed : List StageKind) (program : Handle P) :
    Erases (S := S) (P := P) (T := T) LinkedProgram.raw
      (finish source vertex fragment failed program)
      (finish source vertex.raw fragment.raw failed program.raw) := by
  refine (sendAll_erases _).bind fun _ => ?_
  refine (bindAll_erases program source.namedAttributes).bind fun _ => ?_
  refine (linkProgram_erases program).bind fun _ => ?_
  refine (locations_erases program source.uniforms).bind fun _ => ?_
  exact (sendAll_erases _).bind fun _ => .done

/-- Making a program of two stages does not see the numbers. -/
theorem link_erases (source : ProgramSource) (vertex fragment : Handle S) :
    Erases (S := S) (P := P) (T := T) (Except.map LinkedProgram.raw)
      (link source vertex fragment) (link source vertex.raw fragment.raw) := by
  refine (compileStage_erases source .vertex vertex).bind fun _ => ?_
  refine (compileStage_erases source .fragment fragment).bind fun _ => ?_
  refine .call fun created => ?_
  cases created with
  | error text => exact (sendAll_erases _).bind fun _ => .done
  | ok program => exact (finish_erases ..).bind fun _ => .done

end Assembly

/-- An assembly does not see the numbers of its handles. -/
theorem assemble_erases (source : ProgramSource) :
    Erases (S := S) (P := P) (T := T) (Except.map LinkedProgram.raw) (assemble source)
      (assemble source) := by
  unfold assemble
  split
  · refine .call fun created => ?_
    cases created with
    | error text => exact .done
    | ok vertex =>
      refine .call fun created => ?_
      cases created with
      | error text => exact (Assembly.sendAll_erases _).bind fun _ => .done
      | ok fragment => exact Assembly.link_erases source vertex fragment
  · exact .done

end ShaderPipeline.Gpu
