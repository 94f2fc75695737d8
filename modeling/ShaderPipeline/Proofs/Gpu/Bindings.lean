import Mathlib.Logic.Function.Basic
import ShaderPipeline.Proofs.Gpu.AssemblyTraces

/-!
# Bindings of a driver

What is bound in a driver, and what calls do to it: a driver has a program in use, an active
texture unit and a texture on each unit, and a texture is bound to whatever unit is active. What a
driver answers is no concern here; it may keep a state of its own and answer as it likes.

Deleting the program in use may take it out of use or not, so that is left open. Calls that create,
compile, link or ask leave the bindings as they are, and these are the only calls of an assembly
(`assemble_bindings`).
-/

namespace ShaderPipeline.Gpu

variable {S P T σ : Type}

/-- What is bound in a driver. -/
structure Bindings (P T : Type) where
  program : Option P
  unit : Nat
  texture : Nat → Option T

/-- Whether a call can change what is bound. -/
def Call.binds : Call S P T → Bool
  | .useProgram _ | .activeTexture _ | .bindTexture _ | .deleteProgram _ => true
  | _ => false

/-- What a call does to the bindings. -/
inductive Effect : Call S P T → Bindings P T → Bindings P T → Prop
  | useProgram {program : Option P} {before : Bindings P T} :
      Effect (.useProgram program) before { before with program := program }
  | activeTexture {unit : Nat} {before : Bindings P T} :
      Effect (.activeTexture unit) before { before with unit := unit }
  | bindTexture {texture : Option T} {before : Bindings P T} :
      Effect (.bindTexture texture) before
        { before with texture := Function.update before.texture before.unit texture }
  | deleteProgram {program : P} {before : Bindings P T} :
      Effect (.deleteProgram program) before before
  | deleteUsedProgram {program : P} {before : Bindings P T}
      (hused : before.program = some program) :
      Effect (.deleteProgram program) before { before with program := none }
  | other {call : Call S P T} {before : Bindings P T} (hcall : call.binds = false) :
      Effect call before before

/-- What calls in sequence do to the bindings. -/
inductive Effects : List (Call S P T) → Bindings P T → Bindings P T → Prop
  | nil {before : Bindings P T} : Effects [] before before
  | cons {call : Call S P T} {calls : List (Call S P T)} {before mid after : Bindings P T}
      (hcall : Effect call before mid) (hcalls : Effects calls mid after) :
      Effects (call :: calls) before after

/-- No calls change nothing. -/
@[simp] theorem effects_nil_iff {before after : Bindings P T} :
    Effects ([] : List (Call S P T)) before after ↔ after = before := by
  constructor
  · intro h
    cases h
    rfl
  · intro h
    subst h
    exact .nil

/-- The effect of a call and then of the others. -/
@[simp] theorem effects_cons_iff {call : Call S P T} {calls : List (Call S P T)}
    {before after : Bindings P T} :
    Effects (call :: calls) before after ↔
      ∃ mid, Effect call before mid ∧ Effects calls mid after := by
  constructor
  · intro h
    cases h with
    | cons hcall hcalls => exact ⟨_, hcall, hcalls⟩
  · intro h
    obtain ⟨mid, hcall, hcalls⟩ := h
    exact .cons hcall hcalls

/-- The effect of some calls and then of others. -/
theorem effects_append_iff {front back : List (Call S P T)} {before after : Bindings P T} :
    Effects (front ++ back) before after ↔
      ∃ mid, Effects front before mid ∧ Effects back mid after := by
  induction front generalizing before with
  | nil => simp
  | cons call front ih =>
    rw [List.cons_append, effects_cons_iff]
    constructor
    · intro h
      obtain ⟨mid, hcall, hmore⟩ := h
      obtain ⟨last, hfront, hback⟩ := ih.1 hmore
      exact ⟨last, .cons hcall hfront, hback⟩
    · intro h
      obtain ⟨last, hfront, hback⟩ := h
      obtain ⟨mid, hcall, hmore⟩ := effects_cons_iff.1 hfront
      exact ⟨mid, hcall, ih.2 ⟨last, hmore, hback⟩⟩

/-- Calls always have an effect. -/
theorem exists_effects (calls : List (Call S P T)) (before : Bindings P T) :
    ∃ after, Effects calls before after := by
  induction calls generalizing before with
  | nil => exact ⟨before, .nil⟩
  | cons call calls ih =>
    have hcall : ∃ mid, Effect call before mid := by
      cases call with
      | useProgram program => exact ⟨_, .useProgram⟩
      | activeTexture unit => exact ⟨_, .activeTexture⟩
      | bindTexture texture => exact ⟨_, .bindTexture⟩
      | deleteProgram program => exact ⟨_, .deleteProgram⟩
      | _ => exact ⟨_, .other rfl⟩
    obtain ⟨mid, hmid⟩ := hcall
    obtain ⟨after, hafter⟩ := ih mid
    exact ⟨after, .cons hmid hafter⟩

/-- Using a program. -/
@[simp] theorem effect_useProgram_iff {program : Option P} {before after : Bindings P T} :
    Effect (.useProgram program : Call S P T) before after ↔
      after = { before with program := program } := by
  constructor
  · intro h
    cases h with
    | useProgram => rfl
    | other hcall => cases hcall
  · intro h
    subst h
    exact .useProgram

/-- Choosing the active unit. -/
@[simp] theorem effect_activeTexture_iff {unit : Nat} {before after : Bindings P T} :
    Effect (.activeTexture unit : Call S P T) before after ↔
      after = { before with unit := unit } := by
  constructor
  · intro h
    cases h with
    | activeTexture => rfl
    | other hcall => cases hcall
  · intro h
    subst h
    exact .activeTexture

/-- Binding a texture to the active unit. -/
@[simp] theorem effect_bindTexture_iff {texture : Option T} {before after : Bindings P T} :
    Effect (.bindTexture texture : Call S P T) before after ↔
      after = { before with texture := Function.update before.texture before.unit texture } := by
  constructor
  · intro h
    cases h with
    | bindTexture => rfl
    | other hcall => cases hcall
  · intro h
    subst h
    exact .bindTexture

/-- Deleting a program changes nothing but that it may take this program out of use. -/
theorem Effect.of_deleteProgram {program : P} {before after : Bindings P T}
    (h : Effect (.deleteProgram program : Call S P T) before after) :
    after = before ∨ before.program = some program ∧ after = { before with program := none } := by
  cases h with
  | deleteProgram => exact .inl rfl
  | deleteUsedProgram hused => exact .inr ⟨hused, rfl⟩
  | other hcall => cases hcall

/-- Calls that bind nothing leave the bindings as they are. -/
theorem Effects.eq_of_binds {calls : List (Call S P T)} {before after : Bindings P T}
    (h : Effects calls before after) (hcalls : ∀ call ∈ calls, call.binds = false) :
    after = before := by
  induction h with
  | nil => rfl
  | cons hcall hmore ih =>
    obtain ⟨hfirst, hrest⟩ := List.forall_mem_cons.1 hcalls
    rw [ih hrest]
    cases hcall with
    | other => rfl
    | _ => cases hfirst

/-! ## Assemblies -/

open Assembly in
/-- No call of an assembly binds anything. -/
theorem Assembles.binds_eq {source : ProgramSource} {exchanges : List (Exchange (graphics S P T))}
    {events : List Event} {result : Except AssemblyError (LinkedProgram P)}
    (h : Assembles source exchanges events result) :
    ∀ exchange ∈ exchanges, exchange.call.binds = false := by
  cases h with
  | tooLong => simp
  | vertexRefused => simp [creatingStage, Call.binds]
  | fragmentRefused => simp [creatingStage, Call.binds]
  | programRefused =>
    simp only [List.forall_mem_append, forall_mem_compilingStages]
    simp [creatingStages, creatingStage, creatingProgram, deletingStages, Call.binds]
  | assembled =>
    simp only [List.forall_mem_append, List.forall_mem_cons, forall_mem_compilingStages,
      forall_mem_finishing]
    simp [creatingStages, creatingStage, creatingProgram, deletingStages, Call.binds]

/-- What is bound is not changed by an assembly. -/
theorem assemble_bindings {source : ProgramSource} {device : Device (graphics S P T) σ} {state : σ}
    {before after : Bindings P T}
    (h : Effects ((assemble source).run device state).calls before after) : after = before := by
  apply h.eq_of_binds
  rw [← Script.map_call_exchanges, List.forall_mem_map]
  exact (assembles_run source device state).binds_eq

end ShaderPipeline.Gpu
