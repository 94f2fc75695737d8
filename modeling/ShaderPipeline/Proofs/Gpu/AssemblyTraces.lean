import ShaderPipeline.Proofs.Gpu.Traces

/-!
# Traces of an assembly

What an assembly can do: `Assembles` has its traces, in five forms, one for each way in which an
assembly ends. The forms have the replies as parameters, so they say nothing about the device, and
no other trace is possible (`assembles_of_yields`). The result is a function of the replies.

The forms are put together from those of the pieces of an assembly, each of which has a lemma.
-/

namespace ShaderPipeline.Gpu

namespace Assembly

open Script

variable {S P T : Type}

/-- What the driver says about a stage or a link: whether it was a success, and a log. -/
structure Verdict where
  succeeded : Bool
  log : String

/-- The events that report a verdict. -/
def Verdict.events (verdict : Verdict) (failure report : String → Event) : List Event :=
  if !verdict.succeeded then [failure (trimmed verdict.log)]
  else if trimmed verdict.log = "" then []
  else [report (trimmed verdict.log)]

/-- A script that reports a verdict and ends. -/
def concluding {I : Interface} {α : Type} (verdict : Verdict) (failure report : String → Event)
    (bad good : α) : Script I α :=
  if !verdict.succeeded then .log (failure (trimmed verdict.log)) (.done bad)
  else if trimmed verdict.log = "" then .done good
  else .log (report (trimmed verdict.log)) (.done good)

/-- The creation of a stage. -/
def creatingStage (kind : StageKind) (created : Except String S) : Exchange (graphics S P T) :=
  ⟨.createStage kind, created⟩

/-- The creation of both stages. -/
def creatingStages (vertex fragment : S) : List (Exchange (graphics S P T)) :=
  [creatingStage .vertex (.ok vertex), creatingStage .fragment (.ok fragment)]

/-- The deletion of both stages. -/
def deletingStages (vertex fragment : S) : List (Exchange (graphics S P T)) :=
  [⟨.deleteStage vertex, ()⟩, ⟨.deleteStage fragment, ()⟩]

/-- The creation of a program. -/
def creatingProgram (created : Except String P) : Exchange (graphics S P T) :=
  ⟨.createProgram, created⟩

/-- The exchanges when a stage is compiled. -/
def compiling (source : ProgramSource) (kind : StageKind) (stage : S) (verdict : Verdict) :
    List (Exchange (graphics S P T)) :=
  [⟨.compileStage stage (source.stage kind), ()⟩, ⟨.stageCompiled stage, verdict.succeeded⟩,
    ⟨.stageLog stage, verdict.log⟩]

/-- The exchanges when both stages are compiled. -/
def compilingStages (source : ProgramSource) (vertex fragment : S)
    (vertexVerdict fragmentVerdict : Verdict) : List (Exchange (graphics S P T)) :=
  compiling source .vertex vertex vertexVerdict ++
    compiling source .fragment fragment fragmentVerdict

/-- The exchanges when attributes are bound. -/
def binding (program : P) (attributes : List (Nat × String)) : List (Exchange (graphics S P T)) :=
  attributes.map fun entry => ⟨.bindAttribute program entry.1 entry.2, ()⟩

/-- The exchanges when a program is linked. -/
def linking (program : P) (verdict : Verdict) : List (Exchange (graphics S P T)) :=
  [⟨.linkProgram program, ()⟩, ⟨.programLinked program, verdict.succeeded⟩,
    ⟨.programLog program, verdict.log⟩]

/-- The exchanges when uniform slots are resolved. Slots without a name have no answer. -/
def asking (program : P) (answers : List (Option (String × Option Int))) :
    List (Exchange (graphics S P T)) :=
  answers.reduceOption.map fun answer => ⟨.uniformLocation program answer.1, answer.2⟩

/-- The location of a uniform slot with an answer. -/
def answeredLocation (answer : Option (String × Option Int)) : Int :=
  (answer.bind Prod.snd).getD unresolvedLocation

/-- The exchanges when a program is made of two stages, up to the deletion of the stages. -/
def finishing (source : ProgramSource) (vertex fragment : S) (program : P) (verdict : Verdict)
    (answers : List (Option (String × Option Int))) : List (Exchange (graphics S P T)) :=
  [⟨.attachStage program vertex, ()⟩, ⟨.attachStage program fragment, ()⟩] ++
    binding program source.namedAttributes ++ linking program verdict ++ asking program answers ++
    [⟨.detachStage program vertex, ()⟩, ⟨.detachStage program fragment, ()⟩]

/-- The status of a program whose link was asked for. -/
def linkStatus (linked : Bool) : LinkStatus := if linked then .linked else .failed

/-- The stages that did not compile. -/
def failedStages (vertexCompiled fragmentCompiled : Bool) : List StageKind :=
  (if vertexCompiled then [] else [.vertex]) ++ (if fragmentCompiled then [] else [.fragment])

/-- The events when both stages were compiled. -/
def compileEvents (vertexVerdict fragmentVerdict : Verdict) : List Event :=
  vertexVerdict.events (.stageFailed .vertex) (.stageReport .vertex) ++
    fragmentVerdict.events (.stageFailed .fragment) (.stageReport .fragment)

section Members

variable {S P T : Type} {p : Exchange (graphics S P T) → Prop}

/-- What holds of all exchanges when both stages are compiled. -/
theorem forall_mem_compilingStages {source : ProgramSource} {vertex fragment : S}
    {vertexVerdict fragmentVerdict : Verdict} :
    (∀ exchange ∈ compilingStages source vertex fragment vertexVerdict fragmentVerdict,
        p exchange) ↔
      (p ⟨.compileStage vertex source.vertex, ()⟩ ∧
          p ⟨.stageCompiled vertex, vertexVerdict.succeeded⟩ ∧
          p ⟨.stageLog vertex, vertexVerdict.log⟩) ∧
        p ⟨.compileStage fragment source.fragment, ()⟩ ∧
          p ⟨.stageCompiled fragment, fragmentVerdict.succeeded⟩ ∧
          p ⟨.stageLog fragment, fragmentVerdict.log⟩ := by
  simp only [compilingStages, compiling, List.forall_mem_append, List.forall_mem_cons,
    List.not_mem_nil, false_implies, implies_true, and_true]
  rfl

/-- What holds of all exchanges when a program is made. -/
theorem forall_mem_finishing {source : ProgramSource} {vertex fragment : S} {program : P}
    {verdict : Verdict} {answers : List (Option (String × Option Int))} :
    (∀ exchange ∈ finishing source vertex fragment program verdict answers, p exchange) ↔
      (p ⟨.attachStage program vertex, ()⟩ ∧ p ⟨.attachStage program fragment, ()⟩) ∧
        (∀ entry ∈ source.namedAttributes, p ⟨.bindAttribute program entry.1 entry.2, ()⟩) ∧
        (p ⟨.linkProgram program, ()⟩ ∧ p ⟨.programLinked program, verdict.succeeded⟩ ∧
          p ⟨.programLog program, verdict.log⟩) ∧
        (∀ answer ∈ answers.reduceOption, p ⟨.uniformLocation program answer.1, answer.2⟩) ∧
        p ⟨.detachStage program vertex, ()⟩ ∧ p ⟨.detachStage program fragment, ()⟩ := by
  simp only [finishing, binding, linking, asking, List.forall_mem_append, List.forall_mem_cons,
    List.forall_mem_map, List.not_mem_nil, false_implies, implies_true, and_true, and_assoc]

end Members

end Assembly

open Assembly in
/-- The traces of an assembly. -/
inductive Assembles {S P T : Type} (source : ProgramSource) : List (Exchange (graphics S P T)) →
    List Event → Except AssemblyError (LinkedProgram P) → Prop
  | tooLong (hcapacity : source.withinCapacity = false) :
      Assembles source [] []
        (.error (.capacity source.attributes.length source.uniforms.length))
  | vertexRefused {text : String} (hcapacity : source.withinCapacity = true) :
      Assembles source [creatingStage .vertex (.error text)] [] (.error (.backend text))
  | fragmentRefused {vertex : S} {text : String} (hcapacity : source.withinCapacity = true) :
      Assembles source
        [creatingStage .vertex (.ok vertex), creatingStage .fragment (.error text),
          ⟨.deleteStage vertex, ()⟩]
        [] (.error (.backend text))
  | programRefused {vertex fragment : S} {vertexVerdict fragmentVerdict : Verdict} {text : String}
      (hcapacity : source.withinCapacity = true) :
      Assembles source
        (creatingStages vertex fragment ++
          (compilingStages source vertex fragment vertexVerdict fragmentVerdict ++
            [creatingProgram (.error text)]) ++
          deletingStages vertex fragment)
        (compileEvents vertexVerdict fragmentVerdict) (.error (.backend text))
  | assembled {vertex fragment : S} {program : P} {vertexVerdict fragmentVerdict verdict : Verdict}
      {answers : List (Option (String × Option Int))} (hcapacity : source.withinCapacity = true)
      (hanswers : answers.map (Option.map Prod.fst) = source.uniforms) :
      Assembles source
        (creatingStages vertex fragment ++
          (compilingStages source vertex fragment vertexVerdict fragmentVerdict ++
            creatingProgram (.ok program) ::
              finishing source vertex fragment program verdict answers) ++
          deletingStages vertex fragment)
        (compileEvents vertexVerdict fragmentVerdict ++ verdict.events .linkFailed .linkReport)
        (.ok ⟨program, answers.map answeredLocation, linkStatus verdict.succeeded,
          failedStages vertexVerdict.succeeded fragmentVerdict.succeeded⟩)

namespace Assembly

open Script

variable {S P T : Type} {source : ProgramSource} {exchanges : List (Exchange (graphics S P T))}
  {events : List Event}

/-- The trace of a call whose reply says nothing, and of the calls after it. -/
theorem of_sendAll_cons {call : Call S P T} {calls : List (Call S P T)} {result : Unit}
    (h : (sendAll (call :: calls)).Yields exchanges events result) :
    ∃ reply rest, exchanges = ⟨call, reply⟩ :: rest ∧ (sendAll calls).Yields rest events result :=
  h.of_call

/-- The trace of two calls whose replies say nothing. -/
theorem of_sendAll_two {first second : Call S P T} {result : Unit}
    (h : (sendAll [first, second]).Yields exchanges events result) :
    ∃ reply other, exchanges = [⟨first, reply⟩, ⟨second, other⟩] ∧ events = [] := by
  obtain ⟨reply, _, rfl, hsecond⟩ := of_sendAll_cons h
  obtain ⟨other, _, rfl, hdone⟩ := of_sendAll_cons hsecond
  obtain ⟨rfl, rfl, -⟩ := hdone.of_done
  exact ⟨reply, other, rfl, rfl⟩

/-- The trace when attributes are bound. -/
theorem of_bindAll {program : P} {attributes : List (Nat × String)} {result : Unit}
    (h : (sendAll (attributes.map fun entry =>
      (.bindAttribute program entry.1 entry.2 : Call S P T))).Yields exchanges events result) :
    exchanges = binding program attributes ∧ events = [] := by
  induction attributes generalizing exchanges with
  | nil =>
    obtain ⟨hexchanges, hevents, -⟩ := h.of_done
    exact ⟨hexchanges, hevents⟩
  | cons entry attributes ih =>
    obtain ⟨reply, rest, rfl, hrest⟩ := of_sendAll_cons h
    obtain ⟨rfl, rfl⟩ := ih hrest
    exact ⟨rfl, rfl⟩

/-- A verdict is reported by its events. -/
theorem concluding_eq {I : Interface} {α : Type} (verdict : Verdict)
    (failure report : String → Event) (bad good : α) :
    (concluding verdict failure report bad good : Script I α) =
      (verdict.events failure report).foldr .log
        (.done (if verdict.succeeded then good else bad)) := by
  unfold concluding Verdict.events
  cases verdict.succeeded with
  | false => rfl
  | true =>
    by_cases hquiet : trimmed verdict.log = ""
    · simp only [if_pos hquiet]
      rfl
    · simp only [if_neg hquiet]
      rfl

/-- The trace when the driver's verdict is reported. -/
theorem of_concluding {I : Interface} {α : Type} (verdict : Verdict)
    {failure report : String → Event} {bad good result : α} {exchanges : List (Exchange I)}
    (h : (concluding verdict failure report bad good).Yields exchanges events result) :
    exchanges = [] ∧ events = verdict.events failure report ∧
      result = if verdict.succeeded then good else bad := by
  rw [concluding_eq] at h
  obtain ⟨_, rfl, hdone⟩ := h.of_foldr_log
  obtain ⟨rfl, rfl, rfl⟩ := hdone.of_done
  exact ⟨rfl, List.append_nil _, rfl⟩

/-- The trace when a stage is compiled. -/
theorem of_compileStage {kind : StageKind} {stage : S} {compiled : Bool}
    (h : (compileStage source kind stage).Yields exchanges events compiled) :
    ∃ verdict, compiled = verdict.succeeded ∧ exchanges = compiling source kind stage verdict ∧
      events = verdict.events (.stageFailed kind) (.stageReport kind) := by
  obtain ⟨_, _, rfl, hsent⟩ := h.of_call
  obtain ⟨answer, _, rfl, hstatus⟩ := hsent.of_call
  obtain ⟨log, _, rfl, hlog⟩ := hstatus.of_call
  obtain ⟨rfl, hevents, hcompiled⟩ := of_concluding ⟨answer, log⟩ hlog
  exact ⟨⟨answer, log⟩, hcompiled.trans (ite_self answer), rfl, hevents⟩

/-- The trace when a program is linked. -/
theorem of_linkProgram {program : P} {status : LinkStatus}
    (h : (linkProgram program).Yields exchanges events status) :
    ∃ verdict : Verdict, exchanges = linking program verdict ∧
      events = verdict.events .linkFailed .linkReport ∧ status = linkStatus verdict.succeeded := by
  obtain ⟨_, _, rfl, hsent⟩ := h.of_call
  obtain ⟨linked, _, rfl, hstatus⟩ := hsent.of_call
  obtain ⟨log, _, rfl, hlog⟩ := hstatus.of_call
  obtain ⟨rfl, hevents, hresult⟩ := of_concluding ⟨linked, log⟩ hlog
  exact ⟨⟨linked, log⟩, rfl, hevents, hresult⟩

/-- The trace when uniform slots are resolved. -/
theorem of_locations {program : P} {uniforms : List (Option String)} {resolved : List Int}
    (h : (locations program uniforms).Yields exchanges events resolved) :
    ∃ answers, answers.map (Option.map Prod.fst) = uniforms ∧ exchanges = asking program answers ∧
      events = [] ∧ resolved = answers.map answeredLocation := by
  induction uniforms generalizing exchanges events resolved with
  | nil =>
    obtain ⟨rfl, rfl, rfl⟩ := h.of_done
    exact ⟨[], rfl, rfl, rfl, rfl⟩
  | cons entry uniforms ih =>
    cases entry with
    | none =>
      obtain ⟨_, _, _, _, _, rfl, rfl, hrest, hdone⟩ := Yields.of_bind h
      obtain ⟨answers, rfl, rfl, rfl, rfl⟩ := ih hrest
      obtain ⟨rfl, rfl, rfl⟩ := hdone.of_done
      exact ⟨none :: answers, rfl, List.append_nil _, rfl, rfl⟩
    | some name =>
      obtain ⟨answer, _, rfl, hmore⟩ := h.of_call
      obtain ⟨_, _, _, _, _, rfl, rfl, hrest, hdone⟩ := Yields.of_bind hmore
      obtain ⟨answers, rfl, rfl, rfl, rfl⟩ := ih hrest
      obtain ⟨rfl, rfl, rfl⟩ := hdone.of_done
      exact ⟨some (name, answer) :: answers, rfl, congrArg _ (List.append_nil _), rfl, rfl⟩

/-- The trace when a program of two stages is finished. -/
theorem of_finish {vertex fragment : S} {failed : List StageKind} {program : P}
    {result : LinkedProgram P}
    (h : (finish source vertex fragment failed program).Yields exchanges events result) :
    ∃ verdict answers, answers.map (Option.map Prod.fst) = source.uniforms ∧
      exchanges = finishing source vertex fragment program verdict answers ++
        deletingStages vertex fragment ∧
      events = verdict.events .linkFailed .linkReport ∧
      result =
        ⟨program, answers.map answeredLocation, linkStatus verdict.succeeded, failed⟩ := by
  obtain ⟨_, _, _, _, _, rfl, rfl, hattach, hattached⟩ := Yields.of_bind h
  obtain ⟨_, _, _, _, _, rfl, rfl, hbind, hbound⟩ := Yields.of_bind hattached
  obtain ⟨_, _, _, _, status, rfl, rfl, hlink, hlinked⟩ := Yields.of_bind hbound
  obtain ⟨_, _, _, _, resolved, rfl, rfl, hlocations, hresolved⟩ := Yields.of_bind hlinked
  obtain ⟨_, _, _, _, _, rfl, rfl, hdetach, hdone⟩ := Yields.of_bind hresolved
  obtain ⟨_, _, rfl, rfl⟩ := of_sendAll_two hattach
  obtain ⟨rfl, rfl⟩ := of_bindAll hbind
  obtain ⟨verdict, rfl, rfl, rfl⟩ := of_linkProgram hlink
  obtain ⟨answers, hanswers, rfl, rfl, rfl⟩ := of_locations hlocations
  obtain ⟨_, _, rfl, hother⟩ := of_sendAll_cons hdetach
  obtain ⟨_, _, rfl, hdelete⟩ := of_sendAll_cons hother
  obtain ⟨_, _, rfl, rfl⟩ := of_sendAll_two hdelete
  obtain ⟨rfl, rfl, rfl⟩ := hdone.of_done
  refine ⟨verdict, answers, hanswers, ?_, ?_, rfl⟩
  · simp only [finishing, List.append_assoc, List.append_nil]
    rfl
  · simp only [List.append_nil, List.nil_append]

/-- The trace when a program is made of two stages. -/
theorem of_link {vertex fragment : S} {result : Except AssemblyError (LinkedProgram P)}
    (hcapacity : source.withinCapacity = true)
    (h : (link source vertex fragment).Yields exchanges events result) :
    Assembles source (creatingStages vertex fragment ++ exchanges) events result := by
  obtain ⟨_, _, _, _, vertexCompiled, rfl, rfl, hvertex, hmore⟩ := Yields.of_bind h
  obtain ⟨_, _, _, _, fragmentCompiled, rfl, rfl, hfragment, hcreate⟩ := Yields.of_bind hmore
  obtain ⟨vertexVerdict, rfl, rfl, rfl⟩ := of_compileStage hvertex
  obtain ⟨fragmentVerdict, rfl, rfl, rfl⟩ := of_compileStage hfragment
  obtain ⟨created, rest, rfl, hcreated⟩ := hcreate.of_call
  cases created with
  | error text =>
    obtain ⟨_, _, _, _, _, rfl, rfl, hdelete, hdone⟩ := Yields.of_bind hcreated
    obtain ⟨_, _, rfl, rfl⟩ := of_sendAll_two hdelete
    obtain ⟨rfl, rfl, rfl⟩ := hdone.of_done
    simp only [List.append_nil]
    exact .programRefused hcapacity
  | ok program =>
    obtain ⟨_, _, _, _, _, rfl, rfl, hfinish, hdone⟩ := Yields.of_bind hcreated
    obtain ⟨verdict, answers, hanswers, rfl, rfl, rfl⟩ := of_finish hfinish
    obtain ⟨rfl, rfl, rfl⟩ := hdone.of_done
    simp only [List.append_nil]
    rw [← List.append_assoc (vertexVerdict.events ..)]
    exact .assembled hcapacity hanswers

end Assembly

/-- The traces of an assembly have one of the five forms. -/
theorem assembles_of_yields {S P T : Type} {source : ProgramSource}
    {exchanges : List (Exchange (graphics S P T))} {events : List Event}
    {result : Except AssemblyError (LinkedProgram P)}
    (h : (assemble source).Yields exchanges events result) :
    Assembles source exchanges events result := by
  unfold assemble at h
  by_cases hcapacity : source.withinCapacity
  · rw [if_pos hcapacity] at h
    obtain ⟨created, _, rfl, hvertex⟩ := h.of_call
    cases created with
    | error text =>
      obtain ⟨rfl, rfl, rfl⟩ := hvertex.of_done
      exact .vertexRefused hcapacity
    | ok vertex =>
      obtain ⟨created, _, rfl, hfragment⟩ := hvertex.of_call
      cases created with
      | error text =>
        obtain ⟨_, _, _, _, _, rfl, rfl, hdelete, hdone⟩ := Script.Yields.of_bind hfragment
        obtain ⟨_, _, rfl, hdeleted⟩ := Assembly.of_sendAll_cons hdelete
        obtain ⟨rfl, rfl, -⟩ := hdeleted.of_done
        obtain ⟨rfl, rfl, rfl⟩ := hdone.of_done
        exact .fragmentRefused hcapacity
      | ok fragment => exact Assembly.of_link hcapacity hfragment
  · rw [if_neg hcapacity] at h
    obtain ⟨rfl, rfl, rfl⟩ := h.of_done
    exact .tooLong (Bool.eq_false_iff.2 hcapacity)

/-- What an assembly does on a device has one of the five forms. -/
theorem assembles_run {S P T σ : Type} (source : ProgramSource) (device : Device (graphics S P T) σ)
    (state : σ) :
    Assembles source ((assemble source).exchanges device state)
      ((assemble source).run device state).events ((assemble source).run device state).result :=
  assembles_of_yields (Script.yields_run device (assemble source) state)

end ShaderPipeline.Gpu
