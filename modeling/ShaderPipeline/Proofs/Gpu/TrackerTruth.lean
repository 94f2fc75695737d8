import Mathlib.Data.Vector.Basic
import Mathlib.Logic.Relation
import ShaderPipeline.Gpu.Simulated
import ShaderPipeline.Gpu.Tracker
import ShaderPipeline.Proofs.Gpu.Bindings

/-!
# What a tracker knows is true

A tracker leaves out calls because of what it knows to be bound, so what it knows must be true of
the driver. `Step` is what can happen to a tracker and its driver: operations of the tracker,
assemblies on the same driver, and things that others do to the driver, which must be told to the
tracker (by `reset`, or by `forget` for a deleted texture) before its next operation. The invariant
`World.Consistent` is kept by every step (`consistent_step`), also while something has not been told
yet; where nothing is left to tell, all that the tracker knows is true (`tracker_truthful`).

That is not so for want of calls: a bind to a unit that exists leaves its call out only where the
texture is known to be there (`bind_called`).

The driver starts with any bindings, and its replies are any function of the calls and a state.
-/

namespace ShaderPipeline.Gpu

variable {S P T σ : Type}

/-! ## What a tracker knows after an operation -/

namespace BindingTracker

/-- A new tracker knows no textures. -/
theorem texture?_empty (unit : Nat) : (empty : BindingTracker P T).texture? unit = none := by
  unfold texture? empty
  by_cases hunit : unit < unitCount
  · simp [hunit]
  · simp [hunit]

/-- What is known of a unit within the range. -/
theorem texture?_of_lt (tracker : BindingTracker P T) {unit : Nat} (h : unit < unitCount) :
    tracker.texture? unit = tracker.textures[unit] := by
  simp [texture?, h]

/-- What is known of the units after a texture was recorded on one. -/
theorem texture?_set (tracker : BindingTracker P T) (program : Option P) (active : Option Nat)
    {unit : Nat} (h : unit < unitCount) (texture : T) (other : Nat) :
    (⟨program, active, tracker.textures.set unit (some texture) h⟩ : BindingTracker P T).texture?
        other =
      if other = unit then some texture else tracker.texture? other := by
  unfold texture?
  by_cases hother : other = unit
  · subst hother
    simp [h]
  · rw [if_neg hother, Vector.getElem?_set_ne]
    exact fun heq => hother heq.symm

/-- What is known of the units after a texture was forgotten. -/
theorem texture?_forget [DecidableEq T] (tracker : BindingTracker P T) (texture : T) (unit : Nat) :
    (tracker.forget texture).texture? unit =
      if tracker.texture? unit = some texture then none else tracker.texture? unit := by
  by_cases hunit : unit < unitCount
  · rw [texture?_of_lt _ hunit, texture?_of_lt _ hunit]
    exact Vector.getElem_map _ hunit
  · simp [texture?, hunit]

/-- A bind to a unit that does not exist fails without a call and changes nothing. -/
theorem bind_of_le [DecidableEq T] (tracker : BindingTracker P T) {unit : Nat}
    (h : unitCount ≤ unit) (texture : T) (device : Device (graphics S P T) σ) (state : σ) :
    (tracker.bind unit texture).run device state = ⟨(.error ⟨unit⟩, tracker), [], [], state⟩ := by
  unfold BindingTracker.bind
  rw [dif_neg (Nat.not_lt.2 h)]
  rfl

/-- Nothing is known of units that do not exist. -/
theorem lt_of_texture? {tracker : BindingTracker P T} {unit : Nat} {texture : T}
    (h : tracker.texture? unit = some texture) : unit < unitCount := by
  by_contra hunit
  rw [texture?, Vector.getElem?_eq_none (Nat.not_lt.1 hunit)] at h
  cases h

/-- A bind of a texture that is known to be there makes no call and changes nothing. -/
theorem bind_of_known [DecidableEq T] {tracker : BindingTracker P T} {unit : Nat} {texture : T}
    (h : tracker.texture? unit = some texture) (device : Device (graphics S P T) σ) (state : σ) :
    (tracker.bind unit texture).run device state = ⟨(.ok false, tracker), [], [], state⟩ := by
  have hunit := lt_of_texture? h
  rw [texture?_of_lt tracker hunit] at h
  unfold BindingTracker.bind
  rw [dif_pos hunit, if_pos h]
  rfl

/-- A bind of another texture to a unit that exists selects the unit, and then binds and records the
texture. -/
theorem bind_of_unknown [DecidableEq T] {tracker : BindingTracker P T} {unit : Nat} {texture : T}
    (hunit : unit < unitCount) (h : tracker.texture? unit ≠ some texture)
    (device : Device (graphics S P T) σ) (state : σ) :
    (tracker.bind unit texture).run device state =
      let selected := (tracker.select unit).run device state
      ⟨(.ok true,
          { selected.result with
            textures := selected.result.textures.set unit (some texture) hunit }),
        selected.calls ++ [.bindTexture (some texture)], selected.events ++ [],
        (device.answer (.bindTexture (some texture)) selected.state).2⟩ := by
  rw [texture?_of_lt tracker hunit] at h
  unfold BindingTracker.bind
  rw [dif_pos hunit, if_neg h, Script.run_bind]
  rfl

/-- A bind to a unit that exists succeeds, and it takes the call unless the texture is known to be
there. -/
theorem bind_called [DecidableEq T] (tracker : BindingTracker P T) {unit : Nat}
    (hunit : unit < unitCount) (texture : T) (device : Device (graphics S P T) σ) (state : σ) :
    ∃ called, ((tracker.bind unit texture).run device state).result.1 = .ok called ∧
      (called = true ↔ tracker.texture? unit ≠ some texture) ∧
      (called = true ↔
        .bindTexture (some texture) ∈ ((tracker.bind unit texture).run device state).calls) := by
  by_cases hknown : tracker.texture? unit = some texture
  · rw [bind_of_known hknown]
    exact ⟨false, rfl, by simp [hknown], by simp⟩
  · rw [bind_of_unknown hunit hknown]
    exact ⟨true, rfl, by simp [hknown], by simp⟩

end BindingTracker

/-! ## Steps -/

/-- A tracker and its driver: what is bound in the driver, the state that its replies depend on, and
what the tracker has not been told, which is whether others changed the bindings and which textures
others deleted. -/
structure World (P T σ : Type) where
  tracker : BindingTracker P T
  bindings : Bindings P T
  device : σ
  disturbed : Bool
  deleted : List T

/-- Nothing is left to tell the tracker. -/
def World.Settled (world : World P T σ) : Prop := world.disturbed = false ∧ world.deleted = []

/-- A new tracker with any driver. -/
def World.fresh (bindings : Bindings P T) (device : σ) : World P T σ :=
  ⟨.empty, bindings, device, false, []⟩

/-- The bindings after a texture was deleted, which takes it from every unit. -/
def Bindings.without [DecidableEq T] (bindings : Bindings P T) (texture : T) : Bindings P T :=
  { bindings with
    texture := fun unit =>
      if bindings.texture unit = some texture then none else bindings.texture unit }

/-- What can happen to a tracker and its driver. -/
inductive Step [DecidableEq P] [DecidableEq T] (device : Device (graphics S P T) σ) :
    World P T σ → World P T σ → Prop
  | activate {world : World P T σ} {program : P} {after : Bindings P T}
      {run : Run (graphics S P T) σ (Bool × BindingTracker P T)} (hsettled : world.Settled)
      (hrun : (world.tracker.activate program).run device world.device = run)
      (heffects : Effects run.calls world.bindings after) :
      Step device world
        { world with tracker := run.result.2, bindings := after, device := run.state }
  | deactivate {world : World P T σ} {after : Bindings P T}
      {run : Run (graphics S P T) σ (BindingTracker P T)} (hsettled : world.Settled)
      (hrun : world.tracker.deactivate.run device world.device = run)
      (heffects : Effects run.calls world.bindings after) :
      Step device world { world with tracker := run.result, bindings := after, device := run.state }
  | bind {world : World P T σ} {unit : Nat} {texture : T} {after : Bindings P T}
      {run : Run (graphics S P T) σ (Except UnitOutOfRange Bool × BindingTracker P T)}
      (hsettled : world.Settled)
      (hrun : (world.tracker.bind unit texture).run device world.device = run)
      (heffects : Effects run.calls world.bindings after) :
      Step device world
        { world with tracker := run.result.2, bindings := after, device := run.state }
  | delete {world : World P T σ} {program : P} {after : Bindings P T}
      {run : Run (graphics S P T) σ (BindingTracker P T)} (hsettled : world.Settled)
      (hrun : (world.tracker.delete program).run device world.device = run)
      (heffects : Effects run.calls world.bindings after) :
      Step device world { world with tracker := run.result, bindings := after, device := run.state }
  | assemble {world : World P T σ} {source : ProgramSource} {after : Bindings P T}
      {run : Run (graphics S P T) σ (Except AssemblyError (LinkedProgram P))}
      (hrun : (Gpu.assemble source).run device world.device = run)
      (heffects : Effects run.calls world.bindings after) :
      Step device world { world with bindings := after, device := run.state }
  | forget {world : World P T σ} {texture : T} :
      Step device world
        { world with
          tracker := world.tracker.forget texture
          deleted := world.deleted.filter (· ≠ texture) }
  | reset {world : World P T σ} :
      Step device world
        { world with tracker := world.tracker.reset, disturbed := false, deleted := [] }
  | disturb {world : World P T σ} {after : Bindings P T} {state : σ} :
      Step device world { world with bindings := after, device := state, disturbed := true }
  | deleteTexture {world : World P T σ} {texture : T} {state : σ} :
      Step device world
        { world with
          bindings := world.bindings.without texture
          device := state
          deleted := texture :: world.deleted }

/-! ## What stays true -/

/-- What a tracker knows is true of bindings, deleted textures aside. -/
structure Knows (tracker : BindingTracker P T) (bindings : Bindings P T) (deleted : List T) :
    Prop where
  program_eq : ∀ program ∈ tracker.program, bindings.program = some program
  unit_eq : ∀ unit ∈ tracker.unit, bindings.unit = unit
  texture_eq : ∀ unit, ∀ texture ∈ tracker.texture? unit, texture ∉ deleted →
    bindings.texture unit = some texture

namespace Knows

variable {tracker : BindingTracker P T} {before after : Bindings P T} {deleted : List T}

/-- A tracker that knows nothing knows nothing false. -/
theorem empty : Knows (.empty : BindingTracker P T) before deleted := by
  refine ⟨?_, ?_, ?_⟩
  · intro program h
    cases h
  · intro unit h
    cases h
  · intro unit texture h
    rw [BindingTracker.texture?_empty] at h
    cases h

variable {device : Device (graphics S P T) σ} {state : σ}

/-- A program that was activated is in use. -/
theorem activate [DecidableEq P] (h : Knows tracker before []) {program : P}
    (heffects : Effects ((tracker.activate program).run device state).calls before after) :
    Knows ((tracker.activate program).run device state).result.2 after [] ∧
      after.program = some program := by
  unfold BindingTracker.activate at heffects ⊢
  by_cases hknown : tracker.program = some program
  · rw [if_pos hknown] at heffects ⊢
    obtain rfl := effects_nil_iff.1 heffects
    exact ⟨h, h.program_eq program hknown⟩
  · rw [if_neg hknown] at heffects ⊢
    obtain ⟨_, hcall, hnil⟩ := effects_cons_iff.1 heffects
    obtain rfl := effects_nil_iff.1 hnil
    obtain rfl := effect_useProgram_iff.1 hcall
    refine ⟨⟨?_, h.unit_eq, h.texture_eq⟩, rfl⟩
    intro other hother
    exact hother

/-- No program is known after one was taken out of use. -/
theorem deactivate (h : Knows tracker before [])
    (heffects : Effects (tracker.deactivate.run device state).calls before after) :
    Knows (tracker.deactivate.run device state).result after [] := by
  unfold BindingTracker.deactivate at heffects ⊢
  by_cases hknown : tracker.program.isSome
  · rw [if_pos hknown] at heffects ⊢
    obtain ⟨_, hcall, hnil⟩ := effects_cons_iff.1 heffects
    obtain rfl := effects_nil_iff.1 hnil
    obtain rfl := effect_useProgram_iff.1 hcall
    refine ⟨?_, h.unit_eq, h.texture_eq⟩
    intro other hother
    cases hother
  · rw [if_neg hknown] at heffects ⊢
    obtain rfl := effects_nil_iff.1 heffects
    exact h

/-- A unit that was selected is the active one, and nothing else is changed. -/
theorem select (h : Knows tracker before []) {unit : Nat}
    (heffects : Effects ((tracker.select unit).run device state).calls before after) :
    ((tracker.select unit).run device state).result = { tracker with unit := some unit } ∧
      after = { before with unit := unit } := by
  unfold BindingTracker.select at heffects ⊢
  by_cases hknown : tracker.unit = some unit
  · rw [if_pos hknown] at heffects ⊢
    obtain rfl := effects_nil_iff.1 heffects
    rw [← hknown, ← h.unit_eq unit hknown]
    exact ⟨rfl, rfl⟩
  · rw [if_neg hknown] at heffects ⊢
    obtain ⟨_, hcall, hnil⟩ := effects_cons_iff.1 heffects
    obtain rfl := effects_nil_iff.1 hnil
    obtain rfl := effect_activeTexture_iff.1 hcall
    exact ⟨rfl, rfl⟩

/-- A texture that was bound to a unit is on that unit, be it that it took calls or not. -/
theorem bind [DecidableEq T] (h : Knows tracker before []) {unit : Nat} {texture : T}
    (heffects : Effects ((tracker.bind unit texture).run device state).calls before after) :
    Knows ((tracker.bind unit texture).run device state).result.2 after [] ∧
      ∀ called, ((tracker.bind unit texture).run device state).result.1 = .ok called →
        after.texture unit = some texture := by
  by_cases hunit : unit < unitCount
  · by_cases hknown : tracker.texture? unit = some texture
    · rw [BindingTracker.bind_of_known hknown] at heffects ⊢
      obtain rfl := effects_nil_iff.1 heffects
      exact ⟨h, fun _ _ => h.texture_eq unit texture hknown List.not_mem_nil⟩
    · rw [BindingTracker.bind_of_unknown hunit hknown] at heffects ⊢
      obtain ⟨mid, hselect, hbind⟩ := effects_append_iff.1 heffects
      obtain ⟨hresult, rfl⟩ := h.select hselect
      dsimp only
      rw [hresult]
      obtain ⟨_, hcall, hnil⟩ := effects_cons_iff.1 hbind
      obtain rfl := effects_nil_iff.1 hnil
      obtain rfl := effect_bindTexture_iff.1 hcall
      refine ⟨⟨h.program_eq, ?_, ?_⟩, fun _ _ => Function.update_self ..⟩
      · intro other hother
        exact Option.some.inj hother
      · intro other bound hbound hdeleted
        have hset :=
          BindingTracker.texture?_set tracker tracker.program (some unit) hunit texture other
        replace hbound := hset.symm.trans hbound
        by_cases hother : other = unit
        · subst hother
          rw [if_pos rfl] at hbound
          exact (Function.update_self ..).trans hbound
        · rw [if_neg hother] at hbound
          exact (Function.update_of_ne hother ..).trans (h.texture_eq other bound hbound hdeleted)
  · rw [BindingTracker.bind_of_le tracker (Nat.not_lt.1 hunit)] at heffects ⊢
    obtain rfl := effects_nil_iff.1 heffects
    exact ⟨h, fun _ hok => by cases hok⟩

/-- A program that was deleted is not known to be in use. -/
theorem delete [DecidableEq P] (h : Knows tracker before []) {program : P}
    (heffects : Effects ((tracker.delete program).run device state).calls before after) :
    Knows ((tracker.delete program).run device state).result after [] := by
  obtain ⟨_, hcall, hnil⟩ := effects_cons_iff.1 heffects
  obtain rfl := effects_nil_iff.1 hnil
  have hresult : ((tracker.delete program).run device state).result =
      if tracker.program = some program then { tracker with program := none } else tracker := rfl
  rw [hresult]
  by_cases hknown : tracker.program = some program
  · rw [if_pos hknown]
    have hnone : ∀ other ∈ (none : Option P), after.program = some other := by simp
    rcases hcall.of_deleteProgram with rfl | ⟨-, rfl⟩
    · exact ⟨hnone, h.unit_eq, h.texture_eq⟩
    · exact ⟨hnone, h.unit_eq, h.texture_eq⟩
  · rw [if_neg hknown]
    rcases hcall.of_deleteProgram with rfl | ⟨hused, rfl⟩
    · exact h
    · refine ⟨?_, h.unit_eq, h.texture_eq⟩
      intro other hother
      -- the program in use is the deleted one, and the tracker knows of no other
      obtain rfl := Option.some.inj (hused.symm.trans (h.program_eq other hother))
      exact absurd hother hknown

end Knows

/-! ## Every run -/

/-- The invariant: what the tracker knows is true unless others changed the bindings. -/
def World.Consistent (world : World P T σ) : Prop :=
  world.disturbed = false → Knows world.tracker world.bindings world.deleted

/-- Nothing false is known in a settled world. -/
theorem World.Consistent.knows {world : World P T σ} (h : world.Consistent)
    (hsettled : world.Settled) : Knows world.tracker world.bindings [] := by
  have hknows := h hsettled.1
  rwa [hsettled.2] at hknows

/-- Nothing false is known in a world with a new tracker. -/
theorem consistent_fresh (bindings : Bindings P T) (device : σ) :
    (World.fresh bindings device).Consistent :=
  fun _ => .empty

variable [DecidableEq P] [DecidableEq T] {device : Device (graphics S P T) σ}

/-- Every step keeps the invariant. -/
theorem consistent_step {world next : World P T σ} (hstep : Step device world next)
    (h : world.Consistent) : next.Consistent := by
  cases hstep with
  | activate hsettled hrun heffects =>
    subst hrun
    intro _
    rw [hsettled.2]
    exact ((h.knows hsettled).activate heffects).1
  | deactivate hsettled hrun heffects =>
    subst hrun
    intro _
    rw [hsettled.2]
    exact (h.knows hsettled).deactivate heffects
  | bind hsettled hrun heffects =>
    subst hrun
    intro _
    rw [hsettled.2]
    exact ((h.knows hsettled).bind heffects).1
  | delete hsettled hrun heffects =>
    subst hrun
    intro _
    rw [hsettled.2]
    exact (h.knows hsettled).delete heffects
  | assemble hrun heffects =>
    subst hrun
    rw [assemble_bindings heffects]
    exact h
  | @forget texture =>
    intro hdisturbed
    have hknows := h hdisturbed
    refine ⟨hknows.program_eq, hknows.unit_eq, ?_⟩
    intro unit bound hbound hdeleted
    rw [BindingTracker.texture?_forget] at hbound
    split at hbound
    · cases hbound
    · refine hknows.texture_eq unit bound hbound ?_
      intro hmem
      apply hdeleted
      rw [List.mem_filter]
      refine ⟨hmem, ?_⟩
      rename_i hne
      have hother : bound ≠ texture := by
        intro heq
        exact hne (heq ▸ hbound)
      simpa using hother
  | reset => exact fun _ => .empty
  | disturb =>
    intro hdisturbed
    cases hdisturbed
  | @deleteTexture texture state =>
    intro hdisturbed
    have hknows := h hdisturbed
    refine ⟨hknows.program_eq, hknows.unit_eq, ?_⟩
    intro unit bound hbound hdeleted
    rw [List.mem_cons, not_or] at hdeleted
    have hbefore := hknows.texture_eq unit bound hbound hdeleted.2
    have hother : world.bindings.texture unit ≠ some texture := by
      rw [hbefore]
      intro heq
      exact hdeleted.1 (Option.some.inj heq)
    exact (if_neg hother).trans hbefore

/-- The invariant holds after any number of steps from a new tracker. -/
theorem consistent_of_reachable {bindings : Bindings P T} {start : σ} {world : World P T σ}
    (h : Relation.ReflTransGen (Step device) (World.fresh bindings start) world) :
    world.Consistent := by
  induction h with
  | refl => exact consistent_fresh bindings start
  | tail _ hstep ih => exact consistent_step hstep ih

/-- Where nothing is left to tell the tracker, all that it knows is true of the driver, whatever
happened before. So a program that is activated is then in use, and a texture that is bound to a
unit is then on that unit, also where a call was left out. Binding to a unit that exists succeeds,
and the call is left out exactly if the texture is known to be there. -/
theorem tracker_truthful {bindings : Bindings P T} {start : σ} {world : World P T σ}
    (hreachable : Relation.ReflTransGen (Step device) (World.fresh bindings start) world)
    (hsettled : world.Settled) :
    ((∀ program, world.tracker.program = some program → world.bindings.program = some program) ∧
      (∀ unit, world.tracker.unit = some unit → world.bindings.unit = unit) ∧
      ∀ unit texture, world.tracker.texture? unit = some texture →
        world.bindings.texture unit = some texture) ∧
    (∀ program after,
      Effects ((world.tracker.activate program).run device world.device).calls world.bindings
          after →
        after.program = some program) ∧
    (∀ unit texture called after,
      Effects ((world.tracker.bind unit texture).run device world.device).calls world.bindings
          after →
        ((world.tracker.bind unit texture).run device world.device).result.1 = .ok called →
          after.texture unit = some texture) ∧
    ∀ unit texture, unit < unitCount →
      let run := (world.tracker.bind unit texture).run device world.device
      ∃ called after, run.result.1 = .ok called ∧ Effects run.calls world.bindings after ∧
        after.texture unit = some texture ∧
        (called = true ↔ world.tracker.texture? unit ≠ some texture) ∧
        (called = true ↔ .bindTexture (some texture) ∈ run.calls) := by
  have hknows := (consistent_of_reachable hreachable).knows hsettled
  refine ⟨⟨hknows.program_eq, hknows.unit_eq, ?_⟩, ?_, ?_, ?_⟩
  · intro unit texture hbound
    exact hknows.texture_eq unit texture hbound List.not_mem_nil
  · intro program after heffects
    exact (hknows.activate heffects).2
  · intro unit texture called after heffects hok
    exact (hknows.bind heffects).2 called hok
  · intro unit texture hunit run
    obtain ⟨called, hok, hunknown, hcall⟩ :=
      world.tracker.bind_called hunit texture device world.device
    obtain ⟨after, heffects⟩ := exists_effects run.calls world.bindings
    exact ⟨called, after, hok, heffects, (hknows.bind heffects).2 called hok, hunknown, hcall⟩

/-- Others change the bindings, the tracker is reset and binds a texture to a unit, which is then
there. Activating a program puts it in use, the texture is not bound again, and another one is. -/
theorem tracker_truthful_after_reset : ∃ world : World Nat Nat Simulation,
    Relation.ReflTransGen (Step Simulation.device) (World.fresh ⟨none, 0, fun _ => none⟩ {}) world ∧
      world.Settled ∧ world.bindings.texture 3 = some 7 ∧
      (∀ after, Effects ((world.tracker.activate 5).run Simulation.device world.device).calls
        world.bindings after → after.program = some 5) ∧
      .bindTexture (some 7) ∉
        ((world.tracker.bind 3 7).run Simulation.device world.device).calls ∧
      .bindTexture (some 8) ∈
        ((world.tracker.bind 3 8).run Simulation.device world.device).calls := by
  have hreset : Relation.ReflTransGen (Step Simulation.device)
      (World.fresh ⟨none, 0, fun _ => none⟩ {})
      ⟨.empty, ⟨some 9, 4, fun _ => some 1⟩, {}, false, []⟩ :=
    (Relation.ReflTransGen.single .disturb).tail .reset
  have hbind := hreset.tail (@Step.bind _ _ _ _ _ _ _ _ 3 7 _ _ ⟨rfl, rfl⟩ rfl
    (.cons .activeTexture (.cons .bindTexture .nil)))
  obtain ⟨⟨-, -, htextures⟩, hactivate, -, hbound⟩ := tracker_truthful hbind ⟨rfl, rfl⟩
  obtain ⟨_, _, -, -, -, hsame, hleft⟩ := hbound 3 7 (by decide)
  obtain ⟨_, _, -, -, -, hother, hcall⟩ := hbound 3 8 (by decide)
  exact ⟨_, hbind, ⟨rfl, rfl⟩, htextures 3 7 rfl, hactivate 5, fun h => hsame.1 (hleft.2 h) rfl,
    hcall.1 (hother.2 (by decide))⟩

end ShaderPipeline.Gpu
