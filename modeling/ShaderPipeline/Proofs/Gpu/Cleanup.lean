import ShaderPipeline.Proofs.Gpu.Bindings
import ShaderPipeline.Proofs.Gpu.Numbering

/-!
# An assembly cleans up

An assembly creates up to three objects, and each creation can fail while others have succeeded.
`Clean` says what is to be expected of the calls whatever happens: stages are deleted once and not
used afterwards, a program is only made in the right order, and nothing but deletions follows a
failure. It is shown from the five forms of traces (`clean_of_assembles`), where the stages must be
different ones; so it holds on every device whose handles are told apart by their creation
(`assemble_clean`).

The program itself is left to the caller, who gets it in the result. Nothing is said about the
replies to queries, on which only the result and the events depend.
-/

namespace ShaderPipeline.Gpu

open Assembly

variable {S P T σ : Type}

namespace Call

/-- The stage that a call takes. -/
def stage? : Call S P T → Option S
  | .compileStage stage _ | .stageCompiled stage | .stageLog stage | .deleteStage stage
  | .attachStage _ stage | .detachStage _ stage => some stage
  | _ => none

/-- The program that a call takes. -/
def program? : Call S P T → Option P
  | .attachStage program _ | .detachStage program _ | .bindAttribute program _ _
  | .linkProgram program | .programLinked program | .programLog program
  | .uniformLocation program _ | .deleteProgram program => some program
  | .useProgram program => program
  | _ => none

/-- The stage and the text that a call compiles. -/
def upload? : Call S P T → Option (S × String)
  | .compileStage stage text => some (stage, text)
  | _ => none

/-- Whether a call binds an attribute. -/
def isBinding : Call S P T → Bool
  | .bindAttribute _ _ _ => true
  | _ => false

/-- Whether a call links a program. -/
def isLink : Call S P T → Bool
  | .linkProgram _ => true
  | _ => false

/-- Whether a call asks for the location of a uniform. -/
def isQuery : Call S P T → Bool
  | .uniformLocation _ _ => true
  | _ => false

/-- Whether a call detaches a stage. -/
def isDetach : Call S P T → Bool
  | .detachStage _ _ => true
  | _ => false

end Call

/-! ## What is expected -/

/-- A stage is created, later deleted once, and used neither before nor after that. -/
def Lifetime (stage : S) (exchanges : List (Exchange (graphics S P T))) : Prop :=
  ∃ front created middle back,
    exchanges = front ++ created :: (middle ++ ⟨.deleteStage stage, ()⟩ :: back) ∧
    created.createdStage? = some stage ∧
    (∀ exchange ∈ front, exchange.call.stage? ≠ some stage) ∧
    (∀ exchange ∈ middle, exchange.call ≠ .deleteStage stage) ∧
    ∀ exchange ∈ back, exchange.call.stage? ≠ some stage

/-- A program is made of two stages, with everything in order. -/
structure Made (source : ProgramSource) (vertex fragment : S) (program : P)
    (exchanges : List (Exchange (graphics S P T))) : Prop where
  /-- The stages and the program are all that is created. -/
  created : exchanges.filter (·.call.creates) =
    [creatingStage .vertex (.ok vertex), creatingStage .fragment (.ok fragment),
      creatingProgram (.ok program)]
  /-- Each stage is compiled once, with its own text. -/
  compiled : exchanges.filterMap (·.call.upload?) =
    [(vertex, source.vertex), (fragment, source.fragment)]
  /-- The stages are compiled and attached and the attributes bound before the only link, and
  locations are asked for after it and before a stage is detached. -/
  linked : ∃ before between after,
    exchanges = before ++ ⟨.linkProgram program, ()⟩ :: (between ++ after) ∧
    ⟨.compileStage vertex source.vertex, ()⟩ ∈ before ∧
    ⟨.compileStage fragment source.fragment, ()⟩ ∈ before ∧
    ⟨.attachStage program vertex, ()⟩ ∈ before ∧ ⟨.attachStage program fragment, ()⟩ ∈ before ∧
    (∀ exchange ∈ before, exchange.call.isLink = false ∧ exchange.call.isQuery = false ∧
      exchange.call.isDetach = false) ∧
    (∀ exchange ∈ between, exchange.call.isLink = false ∧ exchange.call.isBinding = false ∧
      exchange.call.isDetach = false) ∧
    ∀ exchange ∈ after, exchange.call.isLink = false ∧ exchange.call.isBinding = false ∧
      exchange.call.isQuery = false
  /-- Each stage is detached before it is deleted. -/
  detached : ∀ stage ∈ [vertex, fragment],
    [⟨.detachStage program stage, ()⟩, ⟨.deleteStage stage, ()⟩].Sublist exchanges

/-- What is expected of the calls of an assembly and of its result. -/
structure Clean (source : ProgramSource) (exchanges : List (Exchange (graphics S P T)))
    (result : Except AssemblyError (LinkedProgram P)) : Prop where
  /-- Slot tables that are too long are refused without a call. -/
  tooLong : 8 < source.attributes.length ∨ 32 < source.uniforms.length →
    result = .error (.capacity source.attributes.length source.uniforms.length) ∧ exchanges = []
  /-- Stages that were created are deleted once and not used afterwards. -/
  released : ∀ stage ∈ exchanges.filterMap Exchange.createdStage?, Lifetime stage exchanges
  /-- Other stages are not used. -/
  known : ∀ exchange ∈ exchanges, ∀ stage ∈ exchange.call.stage?,
    stage ∈ exchanges.filterMap Exchange.createdStage?
  /-- A program in the result was made in order, and it is not deleted. -/
  made : ∀ program, result = .ok program →
    ∃ vertex fragment, Made source vertex fragment program.handle exchanges
  /-- No program is deleted. -/
  kept : ∀ exchange ∈ exchanges, ∀ program, exchange.call ≠ .deleteProgram program
  /-- A backend error is the text of the only creation that failed. Only deletions of stages come
  after it, and there is no program. -/
  refused : ∀ text, result = .error (.backend text) →
    ∃ front failed back, exchanges = front ++ failed :: back ∧
      failed.refusal? = some text ∧
      (∀ exchange ∈ front ++ back, exchange.refusal? = none) ∧
      (∀ exchange ∈ back, ∃ stage, exchange.call = .deleteStage stage) ∧
      ∀ exchange ∈ exchanges, exchange.createdProgram? = none ∧ exchange.call.program? = none
  /-- If no creation fails and the slot tables are not too long, then there is a program. -/
  succeeds : source.attributes.length ≤ 8 → source.uniforms.length ≤ 32 →
    (∀ exchange ∈ exchanges, exchange.refusal? = none) → ∃ program, result = .ok program

/-! ## Two stages -/

/-- What is done with two stages while they exist. -/
structure Working (vertex fragment : S) (exchanges : List (Exchange (graphics S P T))) : Prop where
  /-- No other stages are created. -/
  createdStage?_eq : ∀ exchange ∈ exchanges, exchange.createdStage? = none
  /-- No stages are deleted. -/
  call_ne : ∀ exchange ∈ exchanges, ∀ stage, exchange.call ≠ .deleteStage stage
  /-- No other stages are used. -/
  stage?_mem : ∀ exchange ∈ exchanges, ∀ stage ∈ exchange.call.stage?, stage ∈ [vertex, fragment]

/-- The work until a program cannot be created. -/
theorem working_refused (source : ProgramSource) (vertex fragment : S)
    (vertexVerdict fragmentVerdict : Verdict) (text : String) :
    Working (P := P) (T := T) vertex fragment
      (compilingStages source vertex fragment vertexVerdict fragmentVerdict ++
        [creatingProgram (.error text)]) := by
  constructor
  · simp only [List.forall_mem_append, forall_mem_compilingStages]
    simp [creatingProgram, Exchange.createdStage?]
  · simp only [List.forall_mem_append, forall_mem_compilingStages]
    simp [creatingProgram]
  · simp only [List.forall_mem_append, forall_mem_compilingStages]
    simp [creatingProgram, Call.stage?]

/-- The work until a program is made. -/
theorem working_made (source : ProgramSource) (vertex fragment : S) (program : P)
    (vertexVerdict fragmentVerdict verdict : Verdict)
    (answers : List (Option (String × Option Int))) :
    Working (T := T) vertex fragment
      (compilingStages source vertex fragment vertexVerdict fragmentVerdict ++
        creatingProgram (.ok program) ::
          finishing source vertex fragment program verdict answers) := by
  constructor
  · simp only [List.forall_mem_append, List.forall_mem_cons, forall_mem_compilingStages,
      forall_mem_finishing]
    simp [creatingProgram, Exchange.createdStage?]
  · simp only [List.forall_mem_append, List.forall_mem_cons, forall_mem_compilingStages,
      forall_mem_finishing]
    simp [creatingProgram]
  · simp only [List.forall_mem_append, List.forall_mem_cons, forall_mem_compilingStages,
      forall_mem_finishing]
    simp [creatingProgram, Call.stage?]

namespace Working

variable {vertex fragment : S} {exchanges : List (Exchange (graphics S P T))}

/-- The stages that are created. -/
theorem createdStages (h : Working vertex fragment exchanges) :
    (creatingStages vertex fragment ++ exchanges ++ deletingStages vertex fragment).filterMap
      Exchange.createdStage? = [vertex, fragment] := by
  have hnone : exchanges.filterMap Exchange.createdStage? = [] :=
    List.filterMap_eq_nil_iff.2 h.createdStage?_eq
  rw [List.filterMap_append, List.filterMap_append, hnone]
  rfl

/-- Both stages have a lifetime if they are different ones. -/
theorem lifetime (h : Working vertex fragment exchanges) (hne : vertex ≠ fragment) {stage : S}
    (hstage : stage ∈ [vertex, fragment]) :
    Lifetime stage
      (creatingStages vertex fragment ++ exchanges ++ deletingStages vertex fragment) := by
  have hwork := fun exchange hmem => h.call_ne exchange hmem stage
  rw [List.mem_cons, List.mem_singleton] at hstage
  rcases hstage with rfl | rfl
  · refine ⟨[], creatingStage .vertex (.ok stage),
      creatingStage .fragment (.ok fragment) :: exchanges, [⟨.deleteStage fragment, ()⟩],
      List.append_assoc .., rfl, ?_, ?_, ?_⟩
    · simp
    · rw [List.forall_mem_cons]
      exact ⟨by simp [creatingStage], hwork⟩
    · simpa [Call.stage?] using hne.symm
  · refine ⟨[creatingStage .vertex (.ok vertex)], creatingStage .fragment (.ok stage),
      exchanges ++ [⟨.deleteStage vertex, ()⟩], [], ?_, rfl, ?_, ?_, ?_⟩
    · simp [creatingStages, deletingStages]
    · simp [creatingStage, Call.stage?]
    · rw [List.forall_mem_append]
      exact ⟨hwork, by simpa using hne⟩
    · simp

/-- No other stages are used. -/
theorem known (h : Working vertex fragment exchanges) :
    ∀ exchange ∈ creatingStages vertex fragment ++ exchanges ++ deletingStages vertex fragment,
      ∀ stage ∈ exchange.call.stage?, stage ∈ [vertex, fragment] := by
  rw [List.forall_mem_append, List.forall_mem_append]
  refine ⟨⟨?_, h.stage?_mem⟩, ?_⟩
  · simp [creatingStages, creatingStage, Call.stage?]
  · simp [deletingStages, Call.stage?]

end Working

/-! ## Each form is clean -/

/-- The limits of the slot tables. -/
theorem withinCapacity_iff (source : ProgramSource) :
    source.withinCapacity = true ↔ source.attributes.length ≤ 8 ∧ source.uniforms.length ≤ 32 := by
  rw [ProgramSource.withinCapacity, Bool.and_eq_true, decide_eq_true_iff, decide_eq_true_iff]
  rfl

namespace Assembles

variable {source : ProgramSource} {exchanges : List (Exchange (graphics S P T))}
  {events : List Event} {result : Except AssemblyError (LinkedProgram P)}

/-- Slot tables that are too long are refused without a call. -/
theorem tooLong_of_lt (h : Assembles source exchanges events result)
    (hlong : 8 < source.attributes.length ∨ 32 < source.uniforms.length) :
    result = .error (.capacity source.attributes.length source.uniforms.length) ∧
      exchanges = [] := by
  have hcapacity : source.withinCapacity ≠ true := by
    rw [Ne, withinCapacity_iff]
    omega
  cases h with
  | tooLong => exact ⟨rfl, rfl⟩
  | _ h => exact absurd h hcapacity

/-- Every stage that was created has a lifetime. -/
theorem released (h : Assembles source exchanges events result)
    (hnodup : (exchanges.filterMap Exchange.createdStage?).Nodup) :
    ∀ stage ∈ exchanges.filterMap Exchange.createdStage?, Lifetime stage exchanges := by
  cases h with
  | tooLong => simp
  | vertexRefused => simp [creatingStage, Exchange.createdStage?, Except.toOption]
  | @fragmentRefused vertex text =>
    intro stage hstage
    have hvertex : stage = vertex := by
      simpa [creatingStage, Exchange.createdStage?, Except.toOption] using hstage
    subst hvertex
    exact ⟨[], creatingStage .vertex (.ok stage), [creatingStage .fragment (.error text)], [], rfl,
      rfl, by simp, by simp [creatingStage], by simp⟩
  | programRefused =>
    rw [(working_refused ..).createdStages] at hnodup ⊢
    exact fun stage hstage => (working_refused ..).lifetime (by simpa using hnodup) hstage
  | assembled =>
    rw [(working_made ..).createdStages] at hnodup ⊢
    exact fun stage hstage => (working_made ..).lifetime (by simpa using hnodup) hstage

/-- Only stages that were created are used. -/
theorem known (h : Assembles source exchanges events result) :
    ∀ exchange ∈ exchanges, ∀ stage ∈ exchange.call.stage?,
      stage ∈ exchanges.filterMap Exchange.createdStage? := by
  cases h with
  | tooLong => simp
  | vertexRefused => simp [creatingStage, Call.stage?]
  | fragmentRefused =>
    simp [creatingStage, Call.stage?, Exchange.createdStage?, Except.toOption]
  | programRefused =>
    rw [(working_refused ..).createdStages]
    exact (working_refused ..).known
  | assembled =>
    rw [(working_made ..).createdStages]
    exact (working_made ..).known

/-- A program is made in order. -/
theorem made_assembled (source : ProgramSource) (vertex fragment : S) (program : P)
    (vertexVerdict fragmentVerdict verdict : Verdict)
    (answers : List (Option (String × Option Int))) :
    Made (T := T) source vertex fragment program
      (creatingStages vertex fragment ++
        (compilingStages source vertex fragment vertexVerdict fragmentVerdict ++
          creatingProgram (.ok program) ::
            finishing source vertex fragment program verdict answers) ++
        deletingStages vertex fragment) where
  created := by
    have hnone : (finishing source vertex fragment program verdict answers).filter
        (fun exchange : Exchange (graphics S P T) => exchange.call.creates) = [] := by
      rw [List.filter_eq_nil_iff, forall_mem_finishing]
      simp [Call.creates]
    rw [List.filter_append, List.filter_append, List.filter_append, List.filter_cons, hnone]
    rfl
  compiled := by
    have hnone : (finishing source vertex fragment program verdict answers).filterMap
        (fun exchange : Exchange (graphics S P T) => exchange.call.upload?) = [] := by
      rw [List.filterMap_eq_nil_iff, forall_mem_finishing]
      simp [Call.upload?]
    rw [List.filterMap_append, List.filterMap_append, List.filterMap_append,
      List.filterMap_cons_none rfl, hnone]
    rfl
  linked := by
    refine ⟨creatingStages vertex fragment ++
        (compilingStages source vertex fragment vertexVerdict fragmentVerdict ++
          creatingProgram (.ok program) ::
            ([⟨.attachStage program vertex, ()⟩, ⟨.attachStage program fragment, ()⟩] ++
              binding program source.namedAttributes)),
      [⟨.programLinked program, verdict.succeeded⟩, ⟨.programLog program, verdict.log⟩] ++
        asking program answers,
      [⟨.detachStage program vertex, ()⟩, ⟨.detachStage program fragment, ()⟩] ++
        deletingStages vertex fragment, ?_, ?_, ?_, ?_, ?_, ?_, ?_, ?_⟩
    · simp [finishing, linking]
    · simp [compilingStages, compiling, ProgramSource.stage]
    · simp [compilingStages, compiling, ProgramSource.stage]
    · simp
    · simp
    · simp only [List.forall_mem_append, List.forall_mem_cons, forall_mem_compilingStages, binding,
        List.forall_mem_map]
      simp [creatingStages, creatingStage, creatingProgram, Call.isLink, Call.isQuery,
        Call.isDetach]
    · simp only [List.forall_mem_append, List.forall_mem_cons, asking, List.forall_mem_map]
      simp [Call.isLink, Call.isBinding, Call.isDetach]
    · simp [deletingStages, Call.isLink, Call.isBinding, Call.isQuery]
  detached := by
    intro stage hstage
    rw [List.mem_cons, List.mem_singleton] at hstage
    refine List.Sublist.append (List.singleton_sublist.2 ?_) (List.singleton_sublist.2 ?_)
    · rcases hstage with rfl | rfl
      · simp [finishing]
      · simp [finishing]
    · rcases hstage with rfl | rfl
      · simp [deletingStages]
      · simp [deletingStages]

/-- A program in the result was made in order. -/
theorem made (h : Assembles source exchanges events result) {program : LinkedProgram P}
    (hresult : result = .ok program) :
    ∃ vertex fragment, Made source vertex fragment program.handle exchanges := by
  cases h with
  | assembled =>
    cases hresult
    exact ⟨_, _, made_assembled ..⟩
  | _ => cases hresult

/-- No program is deleted, since that could change what is bound. -/
theorem kept (h : Assembles source exchanges events result) :
    ∀ exchange ∈ exchanges, ∀ program, exchange.call ≠ .deleteProgram program := by
  intro exchange hmem program hcall
  have hbinds := h.binds_eq exchange hmem
  rw [hcall] at hbinds
  cases hbinds

/-- A backend error is the text of the only creation that failed. -/
theorem refused (h : Assembles source exchanges events result) {text : String}
    (hresult : result = .error (.backend text)) :
    ∃ front failed back, exchanges = front ++ failed :: back ∧
      failed.refusal? = some text ∧
      (∀ exchange ∈ front ++ back, exchange.refusal? = none) ∧
      (∀ exchange ∈ back, ∃ stage, exchange.call = .deleteStage stage) ∧
      ∀ exchange ∈ exchanges, exchange.createdProgram? = none ∧ exchange.call.program? = none := by
  cases h with
  | tooLong => cases hresult
  | vertexRefused =>
    cases hresult
    refine ⟨[], _, [], rfl, rfl, ?_, ?_, ?_⟩
    · simp
    · simp
    · simp [creatingStage, Exchange.createdProgram?, Call.program?]
  | @fragmentRefused vertex text =>
    cases hresult
    refine ⟨[creatingStage .vertex (.ok vertex)], creatingStage .fragment (.error text),
      [⟨.deleteStage vertex, ()⟩], rfl, rfl, ?_, ?_, ?_⟩
    · simp [creatingStage, Exchange.refusal?]
    · simp
    · simp [creatingStage, Exchange.createdProgram?, Call.program?]
  | @programRefused vertex fragment vertexVerdict fragmentVerdict text =>
    cases hresult
    refine ⟨creatingStages vertex fragment ++
        compilingStages source vertex fragment vertexVerdict fragmentVerdict,
      creatingProgram (.error text), deletingStages vertex fragment, ?_, rfl, ?_, ?_, ?_⟩
    · simp
    · simp only [List.forall_mem_append, forall_mem_compilingStages]
      simp [creatingStages, creatingStage, deletingStages, Exchange.refusal?]
    · simp [deletingStages]
    · simp only [List.forall_mem_append, forall_mem_compilingStages]
      simp [creatingStages, creatingStage, creatingProgram, deletingStages,
        Exchange.createdProgram?, Except.toOption, Call.program?]
  | assembled => cases hresult

/-- If no creation fails and the slot tables are not too long, then there is a program. -/
theorem succeeds (h : Assembles source exchanges events result)
    (hcapacity : source.withinCapacity = true)
    (hcreated : ∀ exchange ∈ exchanges, exchange.refusal? = none) :
    ∃ program, result = .ok program := by
  cases h with
  | tooLong hlong => exact absurd (hlong.symm.trans hcapacity) (by decide)
  | vertexRefused => simp [creatingStage, Exchange.refusal?] at hcreated
  | fragmentRefused => simp [creatingStage, Exchange.refusal?] at hcreated
  | @programRefused _ _ _ _ text =>
    have hnone := hcreated (creatingProgram (.error text)) (by simp)
    cases hnone
  | assembled => exact ⟨_, rfl⟩

end Assembles

/-- Whatever happens, an assembly whose stages are different ones is clean. -/
theorem clean_of_assembles {source : ProgramSource} {exchanges : List (Exchange (graphics S P T))}
    {events : List Event} {result : Except AssemblyError (LinkedProgram P)}
    (h : Assembles source exchanges events result)
    (hnodup : (exchanges.filterMap Exchange.createdStage?).Nodup) :
    Clean source exchanges result where
  tooLong := h.tooLong_of_lt
  released := h.released hnodup
  known := h.known
  made := fun _ hresult => h.made hresult
  kept := h.kept
  refused := fun _ hresult => h.refused hresult
  succeeds := fun hattributes huniforms =>
    h.succeeds ((withinCapacity_iff source).2 ⟨hattributes, huniforms⟩)

/-- Stages with different numbers are different ones. -/
theorem createdStages_nodup {exchanges : List (Exchange (graphics (Handle S) (Handle P) T))}
    (h : (exchanges.filterMap Exchange.number?).Pairwise (· < ·)) :
    (exchanges.filterMap Exchange.createdStage?).Nodup := by
  rw [List.pairwise_filterMap] at h
  rw [List.Nodup, List.pairwise_filterMap]
  refine h.imp ?_
  intro first second hless stage hstage other hother heq
  have hnumbers := hless stage.creation (by simp [Exchange.number?, hstage]) other.creation
    (by simp [Exchange.number?, hother])
  rw [heq] at hnumbers
  exact Nat.lt_irrefl _ hnumbers

/-- On every device an assembly is clean, where handles are told apart by the creation that returned
them: the assembly on the numbered device is the assembly on the device but for the numbers, which
are different for any two creations, and it is clean. -/
theorem assemble_clean (source : ProgramSource) (device : Device (graphics S P T) σ) (state : σ) :
    let exchanges := (assemble source).exchanges device.numbered (state, 0)
    let run := (assemble source).run device.numbered (state, 0)
    (exchanges.map Exchange.raw = (assemble source).exchanges device state ∧
      run.raw (Except.map LinkedProgram.raw) = (assemble source).run device state ∧
      exchanges.map Exchange.call = run.calls ∧
      (exchanges.filterMap Exchange.number?).Pairwise (· < ·)) ∧
    Clean source exchanges run.result := by
  intro exchanges run
  have herases := assemble_erases (S := S) (P := P) (T := T) source
  have hnumbers := (numbers_increase device (assemble source) state 0).2
  refine ⟨⟨herases.exchanges_eq device state 0, herases.run_eq device state 0,
    Script.map_call_exchanges device.numbered (assemble source) (state, 0), hnumbers⟩, ?_⟩
  exact clean_of_assembles (assembles_run source device.numbered (state, 0))
    (createdStages_nodup hnumbers)

end ShaderPipeline.Gpu
