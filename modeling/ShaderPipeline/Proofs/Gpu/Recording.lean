import ShaderPipeline.Gpu.Recording
import ShaderPipeline.Proofs.Gpu.Likeness

/-!
# The recorder

The recorder follows a simulated device: told to do what the device does, it replies in the same way
(`lockstep_recorder`), but for the logs, which are its own. What it keeps is the recording of the
calls (`calls_run`).

The logs are the same if those of the simulated device are the fixed ones, and then only for stages
that were created: the recorder has an error to report for every other one.
-/

namespace ShaderPipeline.Gpu

variable {α : Type}

/-- The recorder that was told to do what a simulated device does, and has come as far. -/
def Recorder.following (s : Simulation) (calls : List (Call Nat Nat Nat)) : Recorder :=
  Recorder.withBehaviour
    { calls := calls, lastHandle := s.lastHandle, stageKinds := s.stageKinds } s.behaviour

/-- What is different with the recorder, namely the logs, unless they are its own. -/
def recorderLikeness (b : Behaviour) : Likeness := .upToLogs (b.withFixedLogs = b)

/-- The recorder creates a stage if the simulated device does. -/
theorem answer_createStage (kind : StageKind) (s : Simulation) (calls : List (Call Nat Nat Nat)) :
    Recorder.answer (.createStage kind) (.following s calls) =
      ((Simulation.answer (.createStage kind) s).1,
        .following (Simulation.answer (.createStage kind) s).2 (calls ++ [.createStage kind])) := by
  simp only [Simulation.answer, Simulation.createStage?]
  by_cases hrefused : kind ∈ s.behaviour.refusedStages
  · simp only [if_pos hrefused]
    exact if_pos hrefused
  · simp only [if_neg hrefused]
    exact if_neg hrefused

/-- The recorder creates a program if the simulated device does. -/
theorem answer_createProgram (s : Simulation) (calls : List (Call Nat Nat Nat)) :
    Recorder.answer .createProgram (.following s calls) =
      ((Simulation.answer .createProgram s).1,
        .following (Simulation.answer .createProgram s).2 (calls ++ [.createProgram])) := by
  simp only [Simulation.answer, Simulation.createProgram?]
  by_cases hrefused : s.behaviour.refusesPrograms
  · simp only [if_pos hrefused]
    exact if_pos hrefused
  · simp only [if_neg hrefused]
    exact if_neg hrefused

/-- The recorder follows a simulated device, and keeps a call or not. -/
theorem answer_following (c : Call Nat Nat Nat) (s : Simulation) (calls : List (Call Nat Nat Nat)) :
    (Recorder.answer c (.following s calls)).2 =
      .following (Simulation.answer c s).2 (calls ++ Recording.ofCalls [c]) := by
  have hkeep : Recorder.following s calls = .following s (calls ++ []) := by rw [List.append_nil]
  cases c with
  | createStage kind =>
    rw [answer_createStage]
    rfl
  | createProgram =>
    rw [answer_createProgram]
    rfl
  | stageCompiled stage => exact hkeep
  | stageLog stage => exact hkeep
  | programLinked program => exact hkeep
  | programLog program => exact hkeep
  | _ => rfl

/-- The log that the recorder has for a stage is the fixed one. -/
theorem stageLog_following {s : Simulation} (hlogs : s.behaviour.withFixedLogs = s.behaviour)
    {stage : Nat} {kind : StageKind} (hkind : s.stageKind? stage = some kind) :
    s.stageLog stage = if s.compiles stage then "" else failedStageLog := by
  have hlog : s.stageLog stage = s.behaviour.withFixedLogs.stageLog kind := by
    rw [hlogs, Simulation.stageLog, hkind]
    rfl
  have hcompiles : s.compiles stage = decide (kind ∉ s.behaviour.failingStages) := by
    rw [Simulation.compiles, hkind]
    rfl
  have hfixed : s.behaviour.withFixedLogs.stageLog kind =
      if kind ∈ s.behaviour.failingStages then failedStageLog else "" := by
    cases kind with
    | vertex => rfl
    | fragment => rfl
  rw [hlog, hfixed, hcompiles]
  by_cases hfails : kind ∈ s.behaviour.failingStages
  · simp [hfails]
  · simp [hfails]

/-- The recorder replies like a simulated device. -/
theorem reply_following (c : Call Nat Nat Nat) (s : Simulation) (calls : List (Call Nat Nat Nat))
    (hknown : ∀ stage ∈ c.logStage?, ∃ kind, s.stageKind? stage = some kind) :
    (recorderLikeness s.behaviour).Reply c (Simulation.answer c s).1
      (Recorder.answer c (.following s calls)).1 := by
  cases c with
  | createStage kind =>
    rw [answer_createStage]
    exact .refl (fun _ => rfl) _
  | createProgram =>
    rw [answer_createProgram]
    exact .refl (fun _ => rfl) _
  | stageLog stage =>
    intro hlogs
    obtain ⟨kind, hkind⟩ := hknown stage rfl
    exact (stageLog_following hlogs hkind).symm
  | programLog program =>
    intro hlogs
    exact congrArg Behaviour.programLog hlogs
  | _ => rfl

/-- A call leaves a simulated device as it is, or creates a stage or a program. -/
theorem answer_cases (c : Call Nat Nat Nat) (s : Simulation) :
    ((Simulation.answer c s).2 = s ∧
        Exchange.createdStage? ⟨c, (Simulation.answer c s).1⟩ = none) ∨
      (∃ kind,
        (Simulation.answer c s).2 =
            { s with
              lastHandle := s.lastHandle + 1
              stageKinds := (s.lastHandle + 1, kind) :: s.stageKinds } ∧
          Exchange.createdStage? ⟨c, (Simulation.answer c s).1⟩ = some (s.lastHandle + 1)) ∨
      ((Simulation.answer c s).2 = { s with lastHandle := s.lastHandle + 1 } ∧
        Exchange.createdStage? ⟨c, (Simulation.answer c s).1⟩ = none) := by
  cases c with
  | createStage kind =>
    simp only [Simulation.answer, Simulation.createStage?]
    by_cases hrefused : kind ∈ s.behaviour.refusedStages
    · simp only [if_pos hrefused]
      exact .inl ⟨trivial, rfl⟩
    · simp only [if_neg hrefused]
      exact .inr (.inl ⟨kind, rfl, rfl⟩)
  | createProgram =>
    simp only [Simulation.answer, Simulation.createProgram?]
    by_cases hrefused : s.behaviour.refusesPrograms
    · simp only [if_pos hrefused]
      exact .inl ⟨trivial, rfl⟩
    · simp only [if_neg hrefused]
      exact .inr (.inr ⟨trivial, rfl⟩)
  | _ => exact .inl ⟨rfl, rfl⟩

/-- A simulated device goes on with its behaviour. -/
theorem behaviour_answer (c : Call Nat Nat Nat) (s : Simulation) :
    (Simulation.answer c s).2.behaviour = s.behaviour := by
  rcases answer_cases c s with ⟨hafter, -⟩ | ⟨kind, hafter, -⟩ | ⟨hafter, -⟩
  · rw [hafter]
  · rw [hafter]
  · rw [hafter]

/-- A simulated device has the kinds of the stages that it created. -/
theorem stageKind?_answer (c : Call Nat Nat Nat) (s : Simulation) {known : List Nat}
    (h : ∀ stage ∈ known, ∃ kind, s.stageKind? stage = some kind) :
    ∀ stage ∈ Exchange.knownAfter known ⟨c, (Simulation.answer c s).1⟩,
      ∃ kind, (Simulation.answer c s).2.stageKind? stage = some kind := by
  unfold Exchange.knownAfter
  rcases answer_cases c s with ⟨hafter, hcreated⟩ | ⟨kind, hafter, hcreated⟩ | ⟨hafter, hcreated⟩
  · rw [hafter, hcreated]
    exact h
  · rw [hafter, hcreated]
    intro stage hstage
    rw [Simulation.stageKind?, List.lookup_cons]
    by_cases hsame : stage = s.lastHandle + 1
    · exact ⟨kind, by rw [hsame, beq_self_eq_true]⟩
    · rw [beq_eq_false_iff_ne.2 hsame]
      exact h stage ((List.mem_cons.1 hstage).resolve_left hsame)
  · rw [hafter, hcreated]
    exact h

/-- The recorder is like the simulated device that it follows. -/
theorem lockstep_recorder (b : Behaviour) :
    Lockstep (recorderLikeness b).Reply Simulation.device Recorder.device fun known s r =>
      s.behaviour = b ∧ (∃ calls, r = .following s calls) ∧
        ∀ stage ∈ known, ∃ kind, s.stageKind? stage = some kind where
  reply := by
    intro known s r h c hlog
    obtain ⟨rfl, ⟨calls, rfl⟩, hknown⟩ := h
    exact reply_following c s calls fun stage hstage => hknown stage (hlog stage hstage)
  state := by
    intro known s r h c
    obtain ⟨rfl, ⟨calls, rfl⟩, hknown⟩ := h
    exact ⟨behaviour_answer c s, ⟨_, answer_following c s calls⟩, stageKind?_answer c s hknown⟩

/-- The recorder keeps a call if it is part of a recording. -/
theorem calls_answer (c : Call Nat Nat Nat) (r : Recorder) :
    (Recorder.answer c r).2.calls = r.calls ++ Recording.ofCalls [c] := by
  cases c with
  | createStage kind =>
    simp only [Recorder.answer]
    split
    · rfl
    · rfl
  | createProgram =>
    simp only [Recorder.answer]
    split
    · rfl
    · rfl
  | stageCompiled stage => exact (List.append_nil _).symm
  | stageLog stage => exact (List.append_nil _).symm
  | programLinked program => exact (List.append_nil _).symm
  | programLog program => exact (List.append_nil _).symm
  | _ => rfl

/-- After a script, the recorder has kept the recording of its calls. -/
theorem calls_run (script : Script (graphics Nat Nat Nat) α) (r : Recorder) :
    (script.run Recorder.device r).state.calls =
      r.calls ++ Recording.ofCalls (script.run Recorder.device r).calls := by
  induction script generalizing r with
  | done result => exact (List.append_nil _).symm
  | call c next ih =>
    refine (ih (Recorder.answer c r).1 (Recorder.answer c r).2).trans ?_
    rw [calls_answer, List.append_assoc, Recording.ofCalls, Recording.ofCalls,
      ← List.filter_append]
    rfl
  | log event rest ih => exact ih r

end ShaderPipeline.Gpu
