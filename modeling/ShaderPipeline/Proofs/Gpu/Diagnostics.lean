import ShaderPipeline.Gpu.Simulated
import ShaderPipeline.Proofs.Gpu.Likeness
import ShaderPipeline.Proofs.Gpu.SlotCalls
import ShaderPipeline.Proofs.Text.Ends

/-!
# Diagnostics of a driver

A driver says of each stage whether it compiled and of a program whether it linked, and has a log of
each. `Diagnosed` says what becomes of this: the verdicts go into the result and the logs into the
events, each log that is not blank into one event. Nothing else depends on them. On two devices that
differ in these replies only, assemblies make the same calls and give the same handle and the same
locations (`assemble_undisturbed`).

The second part compares two runs, so it is shown of scripts: an assembly is alike to itself on two
devices that differ in this way (`bounds_sameReply`).
-/

namespace ShaderPipeline

/-- The log of a driver that an event carries. -/
def Event.log? : Event → Option String
  | .stageFailed _ log | .stageReport _ log | .linkFailed log | .linkReport log => some log
  | _ => none

namespace Gpu

open Assembly Text

variable {S P T σ τ α : Type}

/-! ## What is expected -/

namespace Exchange

/-- A stage that was asked whether it compiled, with the answer. -/
def stageVerdict? : Exchange (graphics S P T) → Option (S × Bool)
  | ⟨.stageCompiled stage, compiled⟩ => some (stage, compiled)
  | _ => none

/-- A stage that was asked for its log, with the log. -/
def stageLog? : Exchange (graphics S P T) → Option (S × String)
  | ⟨.stageLog stage, log⟩ => some (stage, log)
  | _ => none

/-- A program that was asked whether it linked, with the answer. -/
def linkVerdict? : Exchange (graphics S P T) → Option (P × Bool)
  | ⟨.programLinked program, linked⟩ => some (program, linked)
  | _ => none

/-- A program that was asked for its log, with the log. -/
def programLog? : Exchange (graphics S P T) → Option (P × String)
  | ⟨.programLog program, log⟩ => some (program, log)
  | _ => none

end Exchange

/-- There is nothing but blanks in a log. -/
def Blank (log : String) : Prop := ∀ c ∈ log.toList, isBlank c = true

/-- The events that report a verdict. A failure is reported in any case and on a level of its own, a
success only with a log that is not blank. -/
inductive Reports (failureLevel : Level) (failure report : String → Event) :
    Verdict → List Event → Prop
  | failed {log : String} (hlevel : (failure (trimmed log)).level = failureLevel) :
      Reports failureLevel failure report ⟨false, log⟩ [failure (trimmed log)]
  | noted {log : String} (hlog : ¬Blank log) (hlevel : (report (trimmed log)).level = .info) :
      Reports failureLevel failure report ⟨true, log⟩ [report (trimmed log)]
  | quiet {log : String} (hlog : Blank log) :
      Reports failureLevel failure report ⟨true, log⟩ []

/-- The verdicts and logs that a driver gave arrive in a program and in the events. -/
structure Diagnosed (source : ProgramSource) (program : LinkedProgram P)
    (exchanges : List (Exchange (graphics S P T))) (events : List Event) (stage : StageKind → S)
    (verdict : StageKind → Verdict) (linkVerdict : Verdict) : Prop where
  /-- A stage of each kind was created, and the program. -/
  created : exchanges.filter (·.call.creates) =
    StageKind.all.map (fun kind => creatingStage kind (.ok (stage kind))) ++
      [creatingProgram (.ok program.handle)]
  /-- Each stage was asked once whether it compiled. -/
  compiled : exchanges.filterMap Exchange.stageVerdict? =
    StageKind.all.map fun kind => (stage kind, (verdict kind).succeeded)
  /-- The program was asked once whether it linked. -/
  linked : exchanges.filterMap Exchange.linkVerdict? = [(program.handle, linkVerdict.succeeded)]
  /-- Each stage was asked once for its log. -/
  stageLogs : exchanges.filterMap Exchange.stageLog? =
    StageKind.all.map fun kind => (stage kind, (verdict kind).log)
  /-- The program was asked once for its log. -/
  programLog : exchanges.filterMap Exchange.programLog? = [(program.handle, linkVerdict.log)]
  /-- The failed stages are those that did not compile, in the order of the pipeline. -/
  failedStages_eq :
    program.failedStages = StageKind.all.filter fun kind => !(verdict kind).succeeded
  /-- The status is that of the link. -/
  status_iff : program.status = .linked ↔ linkVerdict.succeeded = true
  /-- A program is usable if nothing failed. -/
  usable_iff : program.usable = true ↔
    (∀ kind, (verdict kind).succeeded = true) ∧ linkVerdict.succeeded = true
  /-- There is a location for every uniform slot. -/
  locations_length : program.locations.length = source.uniforms.length
  /-- The stages are reported in order, and then the link. -/
  reported : ∃ (ofStage : StageKind → List Event) (ofLink : List Event),
    events = StageKind.all.flatMap ofStage ++ ofLink ∧
    (∀ kind, Reports .warn (.stageFailed kind) (.stageReport kind) (verdict kind) (ofStage kind)) ∧
    Reports .error .linkFailed .linkReport linkVerdict ofLink
  /-- Every log that is not blank is in one event, without the blanks around it. -/
  logs_eq : (events.filterMap Event.log?).filter (· ≠ "") =
    ((StageKind.all.map (fun kind => (verdict kind).log) ++ [linkVerdict.log]).map trimmed).filter
      (· ≠ "")

/-- Two replies to a call are the same, if they are no diagnoses. -/
def Call.SameReply : (c : Call S P T) → c.Reply → c.Reply → Prop
  | .stageCompiled _, _, _ | .stageLog _, _, _ => True
  | .programLinked _, _, _ | .programLog _, _, _ => True
  | _, reply, other => other = reply

/-- Two devices differ in diagnoses only as long as their states are related. -/
structure DifferInDiagnoses (device : Device (graphics S P T) σ) (other : Device (graphics S P T) τ)
    (related : σ → τ → Prop) : Prop where
  reply : ∀ {state otherState}, related state otherState →
    ∀ c : Call S P T, c.SameReply (device.answer c state).1 (other.answer c otherState).1
  state : ∀ {state otherState}, related state otherState →
    ∀ c : Call S P T, related (device.answer c state).2 (other.answer c otherState).2

/-! ## Reports -/

/-- Nothing is left of a blank log. -/
theorem trimmed_eq_empty_iff {log : String} : trimmed log = "" ↔ Blank log := by
  have hempty : trimmed log = "" ↔ trim log.toList = [] := by
    rw [trimmed, ← String.toList_inj, String.toList_ofList]
    rfl
  rw [hempty, trim, trimEnd, dropTrailing_eq_nil_iff]
  constructor
  · intro h c hc
    rw [← List.takeWhile_append_dropWhile (p := isBlank) (l := log.toList)] at hc
    rcases List.mem_append.1 hc with hfront | hback
    · exact List.mem_takeWhile_imp hfront
    · exact h c hback
  · intro h c hc
    exact h c ((List.dropWhile_sublist isBlank).subset hc)

/-- The events of a verdict report it. -/
theorem reports_events {failureLevel : Level} {failure report : String → Event}
    (hfailure : ∀ log, (failure log).level = failureLevel)
    (hreport : ∀ log, (report log).level = .info) {verdict : Verdict} :
    Reports failureLevel failure report verdict (verdict.events failure report) := by
  obtain ⟨succeeded, log⟩ := verdict
  cases succeeded with
  | false => exact .failed (hfailure _)
  | true =>
    by_cases hlog : trimmed log = ""
    · rw [Verdict.events, if_neg (by simp), if_pos hlog]
      exact .quiet (trimmed_eq_empty_iff.1 hlog)
    · rw [Verdict.events, if_neg (by simp), if_neg hlog]
      exact .noted (fun hblank => hlog (trimmed_eq_empty_iff.2 hblank)) (hreport _)

/-- The events of a verdict have its log, unless it is blank. -/
theorem logs_events {failure report : String → Event} (hfailure : ∀ log, (failure log).log? = log)
    (hreport : ∀ log, (report log).log? = log) (verdict : Verdict) :
    ((verdict.events failure report).filterMap Event.log?).filter (· ≠ "") =
      [trimmed verdict.log].filter (· ≠ "") := by
  unfold Verdict.events
  split
  · rw [List.filterMap_cons_some (hfailure _)]
    rfl
  · split
    · rename_i hlog
      rw [hlog]
      rfl
    · rw [List.filterMap_cons_some (hreport _)]
      rfl

/-! ## The program that is made -/

section

variable {source : ProgramSource} {vertex fragment : S} {program : P}
  {vertexVerdict fragmentVerdict verdict : Verdict} {answers : List (Option (String × Option Int))}

/-- What is read off an assembly from replies to other calls than those with slots. -/
theorem filterMap_assembled {read : Exchange (graphics S P T) → Option α}
    (hbinding : ∀ slot name, read ⟨.bindAttribute program slot name, ()⟩ = none)
    (hasking : ∀ name answer, read ⟨.uniformLocation program name, answer⟩ = none) :
    (beforeBinding source vertex fragment program vertexVerdict fragmentVerdict ++
        (binding program source.namedAttributes ++
          (linking program verdict ++
            (asking program answers ++ afterAsking vertex fragment program)))).filterMap read =
      (beforeBinding source vertex fragment program vertexVerdict fragmentVerdict).filterMap read ++
        (linking program verdict).filterMap read ++
        (afterAsking vertex fragment program).filterMap read := by
  have hbound : (binding program source.namedAttributes).filterMap read = [] := by
    rw [binding, List.filterMap_eq_nil_iff, List.forall_mem_map]
    exact fun entry _ => hbinding entry.1 entry.2
  have hasked : (asking program answers).filterMap read = [] := by
    rw [asking, List.filterMap_eq_nil_iff, List.forall_mem_map]
    exact fun answer _ => hasking answer.1 answer.2
  simp only [List.filterMap_append, hbound, hasked, List.nil_append, List.append_assoc]

/-- What there is for each stage. -/
def byStage (ofVertex ofFragment : α) : StageKind → α
  | .vertex => ofVertex
  | .fragment => ofFragment

/-- The diagnoses of an assembly that makes a program. -/
theorem diagnosed_assembled (hanswers : answers.map (Option.map Prod.fst) = source.uniforms) :
    Diagnosed (T := T) source
      ⟨program, answers.map answeredLocation, linkStatus verdict.succeeded,
        failedStages vertexVerdict.succeeded fragmentVerdict.succeeded⟩
      (beforeBinding source vertex fragment program vertexVerdict fragmentVerdict ++
        (binding program source.namedAttributes ++
          (linking program verdict ++
            (asking program answers ++ afterAsking vertex fragment program))))
      (compileEvents vertexVerdict fragmentVerdict ++ verdict.events .linkFailed .linkReport)
      (byStage vertex fragment) (byStage vertexVerdict fragmentVerdict) verdict where
  created := by
    rw [← assembled_eq]
    exact (Assembles.made_assembled ..).created
  compiled := filterMap_assembled (fun _ _ => rfl) fun _ _ => rfl
  linked := filterMap_assembled (fun _ _ => rfl) fun _ _ => rfl
  stageLogs := filterMap_assembled (fun _ _ => rfl) fun _ _ => rfl
  programLog := filterMap_assembled (fun _ _ => rfl) fun _ _ => rfl
  failedStages_eq := by
    cases hvertex : vertexVerdict.succeeded <;> cases hfragment : fragmentVerdict.succeeded <;>
      simp [failedStages, StageKind.all, byStage, hvertex, hfragment]
  status_iff := by cases verdict.succeeded <;> simp [linkStatus]
  usable_iff := by
    have hboth : (∀ kind, (byStage vertexVerdict fragmentVerdict kind).succeeded = true) ↔
        vertexVerdict.succeeded = true ∧ fragmentVerdict.succeeded = true :=
      ⟨fun h => ⟨h .vertex, h .fragment⟩, fun h kind => by cases kind <;> simp [byStage, h]⟩
    rw [hboth]
    cases vertexVerdict.succeeded <;> cases fragmentVerdict.succeeded <;>
      cases verdict.succeeded <;> simp [LinkedProgram.usable, linkStatus, failedStages]
  locations_length := by
    rw [List.length_map, ← hanswers, List.length_map]
  reported := by
    refine ⟨fun kind => (byStage vertexVerdict fragmentVerdict kind).events (.stageFailed kind)
      (.stageReport kind), verdict.events .linkFailed .linkReport, ?_, fun kind => ?_, ?_⟩
    · simp [compileEvents, StageKind.all, byStage]
    · apply reports_events <;> exact fun _ => rfl
    · apply reports_events <;> exact fun _ => rfl
  logs_eq := by
    simp only [compileEvents, List.filterMap_append, List.filter_append]
    rw [logs_events (fun _ => rfl) fun _ => rfl, logs_events (fun _ => rfl) fun _ => rfl,
      logs_events (fun _ => rfl) fun _ => rfl, ← List.filter_append, ← List.filter_append]
    rfl

end

/-- The diagnoses of an assembly in which nothing is refused. -/
theorem Assembles.diagnosed {source : ProgramSource} {exchanges : List (Exchange (graphics S P T))}
    {events : List Event} {result : Except AssemblyError (LinkedProgram P)}
    (h : Assembles source exchanges events result) (hcapacity : source.withinCapacity = true)
    (hcreated : ∀ exchange ∈ exchanges, exchange.refusal? = none) :
    ∃ program stage verdict linkVerdict, result = .ok program ∧
      Diagnosed source program exchanges events stage verdict linkVerdict := by
  obtain ⟨made, hmade⟩ := h.succeeds hcapacity hcreated
  cases h with
  | @assembled vertex fragment _ vertexVerdict fragmentVerdict verdict _ _ hanswers =>
    refine ⟨_, byStage vertex fragment, byStage vertexVerdict fragmentVerdict, verdict, rfl, ?_⟩
    rw [assembled_eq]
    exact diagnosed_assembled hanswers
  | _ => cases hmade

/-! ## Runs whose diagnoses differ -/

/-- The handle and the locations of a program. -/
def LinkedProgram.placed (program : LinkedProgram P) : P × List Int :=
  (program.handle, program.locations)

/-- Replies that are the same but for diagnoses differ in logs and verdicts only. -/
theorem bounds_sameReply :
    (Likeness.upToLogs False).Bounds (fun _ _ => True) (Call.SameReply : ReplyRelation S P T) where
  createStage := by
    rintro kind reply _ rfl
    exact .refl (fun _ => rfl) _
  createProgram := by
    rintro reply _ rfl
    exact .refl (fun _ => rfl) _
  stageCompiled := fun _ => trivial
  programLinked := fun _ => trivial
  stageLog := fun _ => False.elim
  programLog := fun _ => False.elim
  uniformLocation := congrArg (Option.getD · unresolvedLocation)
  verdict_eq := False.elim

/-- Devices that differ in diagnoses only are in lockstep, whatever stages are known. -/
theorem DifferInDiagnoses.lockstep {device : Device (graphics S P T) σ}
    {other : Device (graphics S P T) τ} {related : σ → τ → Prop}
    (h : DifferInDiagnoses device other related) :
    Lockstep Call.SameReply device other fun _ => related where
  reply := fun hstate c _ => h.reply hstate c
  state := fun hstate c => h.state hstate c

/-- Assemblies whose verdicts differ end with the same failure or with the same handle and
locations. -/
theorem Likeness.Ended.placed_eq {verdict : Bool → Bool → Prop}
    {made other : Except AssemblyError (LinkedProgram P)}
    (h : (Likeness.upToLogs False).Ended verdict made other) :
    other.map LinkedProgram.placed = made.map LinkedProgram.placed := by
  cases h with
  | @ok handle locations =>
    exact congrArg (fun located => Except.ok (handle, located)) (List.map_id locations)
  | tooLong => rfl
  | @refused text other htext =>
    obtain rfl : text = other := htext
    rfl

/-- What a driver says about stages and links is never fatal and changes nothing that is done. If
the slot tables fit and nothing is refused, then there is a program, and verdicts and logs arrive in
it and in the events. On another device that differs in diagnoses only, the same calls are made, and
the handle and the locations are the same. -/
theorem assemble_undisturbed (source : ProgramSource) (device : Device (graphics S P T) σ)
    (state : σ) :
    (source.attributes.length ≤ 8 → source.uniforms.length ≤ 32 →
      (∀ exchange ∈ (assemble source).exchanges device state, exchange.refusal? = none) →
        ∃ program stage verdict linkVerdict,
          ((assemble source).run device state).result = .ok program ∧
          Diagnosed source program ((assemble source).exchanges device state)
            ((assemble source).run device state).events stage verdict linkVerdict) ∧
    ∀ {τ : Type} (other : Device (graphics S P T) τ) (related : σ → τ → Prop),
      DifferInDiagnoses device other related → ∀ otherState, related state otherState →
        ((assemble source).run other otherState).calls =
          ((assemble source).run device state).calls ∧
        ((assemble source).run other otherState).result.map LinkedProgram.placed =
          ((assemble source).run device state).result.map LinkedProgram.placed := by
  constructor
  · intro hattributes huniforms hcreated
    exact (assembles_run source device state).diagnosed
      ((withinCapacity_iff source).2 ⟨hattributes, huniforms⟩) hcreated
  · intro τ other related hdevices otherState hstate
    obtain ⟨hended, hcalls, -⟩ :=
      (assemble_alike bounds_sameReply source).run_eq hdevices.lockstep hstate
    exact ⟨hcalls, hended.placed_eq⟩

/-! ## Simulated devices -/

/-- Two simulations behave alike but for diagnoses. -/
structure Simulation.SameButDiagnoses (first second : Simulation) : Prop where
  lastHandle_eq : second.lastHandle = first.lastHandle
  locations_eq : second.behaviour.locations = first.behaviour.locations
  refusedStages_eq : second.behaviour.refusedStages = first.behaviour.refusedStages
  refusesPrograms_eq : second.behaviour.refusesPrograms = first.behaviour.refusesPrograms

/-- Simulations that behave alike but for diagnoses differ in these replies only. -/
theorem differInDiagnoses_device :
    DifferInDiagnoses Simulation.device Simulation.device Simulation.SameButDiagnoses := by
  have hstage {first second : Simulation} (h : first.SameButDiagnoses second) (kind : StageKind) :
      (second.answer (.createStage kind)).1 = (first.answer (.createStage kind)).1 ∧
        (first.answer (.createStage kind)).2.SameButDiagnoses
          (second.answer (.createStage kind)).2 := by
    simp only [Simulation.answer, Simulation.createStage?, h.refusedStages_eq, h.lastHandle_eq]
    by_cases hrefused : kind ∈ first.behaviour.refusedStages
    · simp only [if_pos hrefused]
      exact ⟨rfl, h⟩
    · simp only [if_neg hrefused]
      exact ⟨rfl, rfl, h.locations_eq, h.refusedStages_eq, h.refusesPrograms_eq⟩
  have hprogram {first second : Simulation} (h : first.SameButDiagnoses second) :
      (second.answer .createProgram).1 = (first.answer .createProgram).1 ∧
        (first.answer .createProgram).2.SameButDiagnoses (second.answer .createProgram).2 := by
    simp only [Simulation.answer, Simulation.createProgram?, h.refusesPrograms_eq, h.lastHandle_eq]
    by_cases hrefused : first.behaviour.refusesPrograms
    · simp only [if_pos hrefused]
      exact ⟨rfl, h⟩
    · simp only [if_neg hrefused]
      exact ⟨rfl, rfl, h.locations_eq, h.refusedStages_eq, h.refusesPrograms_eq⟩
  constructor
  · intro first second h c
    cases c with
    | createStage kind => exact (hstage h kind).1
    | createProgram => exact (hprogram h).1
    | uniformLocation program name => exact congrArg (List.lookup name) h.locations_eq
    | stageCompiled | stageLog | programLinked | programLog => trivial
    | _ => rfl
  · intro first second h c
    cases c with
    | createStage kind => exact (hstage h kind).2
    | createProgram => exact (hprogram h).2
    | _ => exact h

/-- A device whose fragment stages do not compile and whose programs do not link, with a log of each
kind. -/
def brokenDevice : Simulation where
  behaviour :=
    { failingStages := [.fragment], failsLink := true, vertexLog := " ", fragmentLog := "",
      programLog := "no link\n" }

/-- A program source with a name in each table. -/
def namedSource : ProgramSource := ⟨"", "", [some "a"], [none, some "u"]⟩

/-- On a device where a stage and the link fail there is a program nevertheless, two logs are blank
and one of these is reported, and the calls are those on a device that has nothing to say. -/
theorem assemble_undisturbed_brokenDevice :
    let script : Script (graphics Nat Nat Nat) _ := assemble namedSource
    let run := script.run Simulation.device brokenDevice
    run.events = [.stageFailed .fragment "", .linkFailed "no link"] ∧
      (∃ program stage verdict linkVerdict, run.result = .ok program ∧ program.usable = false ∧
        Diagnosed namedSource program (script.exchanges Simulation.device brokenDevice) run.events
          stage verdict linkVerdict) ∧
      (script.run Simulation.device {}).calls = run.calls := by
  intro script run
  have hcreated : ∀ exchange ∈ script.exchanges Simulation.device brokenDevice,
      exchange.refusal? = none := by decide +kernel
  have husable : run.result.toOption.map LinkedProgram.usable = some false := by decide +kernel
  obtain ⟨hdiagnosed, hsame⟩ := assemble_undisturbed namedSource Simulation.device brokenDevice
  obtain ⟨program, stage, verdict, linkVerdict, hresult, hprogram⟩ :=
    hdiagnosed (by decide) (by decide) hcreated
  rw [hresult] at husable
  exact ⟨by decide +kernel, ⟨program, stage, verdict, linkVerdict, hresult, Option.some.inj husable,
    hprogram⟩, (hsame Simulation.device _ differInDiagnoses_device {} ⟨rfl, rfl, rfl, rfl⟩).1⟩

end Gpu

end ShaderPipeline
