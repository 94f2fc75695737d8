import Mathlib.Data.List.Induction
import ShaderPipeline.Proofs.Gpu.Backends
import ShaderPipeline.Proofs.Gpu.Bindings

/-!
# What a deactivation leaves in use

A tracker that takes its program out of use makes a call only if it knows of a program. It knows of
none when nothing is in use, but also when it was reset or when the program in use was deleted,
which a driver goes on using. So a deactivation can leave a program in use. `Lost` says after which
operations: a program was activated and then lost by a reset or by its deletion before any
deactivation, and nothing was activated since. These are all such cases (`deactivate_used_iff`); in
all others the driver is left as if the call had been made.

The driver changes its program by `useProgram` only. What it answers is no concern here.
-/

namespace ShaderPipeline.Gpu

variable {S P T σ α : Type}

/-! ## What a driver uses -/

/-- The program in use after a call. -/
def Call.usedAfter (used : Option P) : Call S P T → Option P
  | .useProgram program => program
  | _ => used

/-- The program in use after calls to a driver that used none. -/
def used (calls : List (Call S P T)) : Option P := calls.foldl Call.usedAfter none

/-- Calls that bind nothing leave the program in use. -/
theorem foldl_usedAfter_of_binds {calls : List (Call S P T)}
    (h : ∀ call ∈ calls, call.binds = false) (program : Option P) :
    calls.foldl Call.usedAfter program = program := by
  induction calls generalizing program with
  | nil => rfl
  | cons call calls ih =>
    rw [List.forall_mem_cons] at h
    have hcall : call.usedAfter program = program := by
      cases call with
      | useProgram => cases h.1
      | _ => rfl
    rw [List.foldl_cons, hcall, ih h.2]

/-! ## Histories -/

/-- Something happened after a history of its own, and since then there were only certain
entries. -/
def Since (event : List α → α → Prop) (since : α → Prop) (history : List α) : Prop :=
  ∃ front entry back, history = front ++ entry :: back ∧ event front entry ∧
    ∀ later ∈ back, since later

/-- Nothing happened in an empty history. -/
theorem not_since_nil {event : List α → α → Prop} {since : α → Prop} : ¬Since event since [] := by
  intro h
  obtain ⟨front, entry, back, hsplit, -⟩ := h
  simp at hsplit

/-- It happened with the last entry, or it happened before and the last entry is one of those. -/
theorem since_concat_iff {event : List α → α → Prop} {since : α → Prop} {history : List α}
    {last : α} :
    Since event since (history ++ [last]) ↔
      event history last ∨ Since event since history ∧ since last := by
  constructor
  · intro h
    obtain ⟨front, entry, back, hsplit, hevent, hsince⟩ := h
    rcases List.eq_nil_or_concat back with rfl | ⟨back, later, rfl⟩
    · obtain ⟨rfl, hlast⟩ := List.append_inj' hsplit rfl
      obtain rfl := List.singleton_inj.1 hlast
      exact .inl hevent
    · rw [List.concat_eq_append, ← List.cons_append, ← List.append_assoc] at hsplit
      obtain ⟨rfl, hlast⟩ := List.append_inj' hsplit rfl
      obtain rfl := List.singleton_inj.1 hlast
      rw [List.concat_eq_append, List.forall_mem_append] at hsince
      exact .inr ⟨⟨front, entry, back, rfl, hevent, hsince.1⟩, hsince.2 last List.mem_cons_self⟩
  · intro h
    rcases h with hevent | ⟨⟨front, entry, back, rfl, hevent, hsince⟩, hlast⟩
    · exact ⟨history, last, [], rfl, hevent, by simp⟩
    · refine ⟨front, entry, back ++ [last], by simp, hevent, ?_⟩
      rw [List.forall_mem_append]
      exact ⟨hsince, List.forall_mem_singleton.2 hlast⟩

/-- Whether an operation leaves a program in use that the tracker knows of. -/
def Operation.keeps (program : P) : Operation P T → Prop
  | .activate _ | .deactivate | .reset => False
  | .delete deleted => deleted ≠ program
  | _ => True

/-- Whether an operation makes a tracker forget a program that it knows of, while the driver goes on
using it. -/
def Operation.loses (program : P) : Operation P T → Prop
  | .reset => True
  | .delete deleted => deleted = program
  | _ => False

/-- Whether an operation activates no program. -/
def Operation.activatesNothing : Operation P T → Prop
  | .activate _ => False
  | _ => True

/-- A program was activated and since then neither deactivated nor lost. -/
def Held (program : P) (operations : List (Operation P T)) : Prop :=
  Since (fun _ operation => operation = .activate program) (Operation.keeps program) operations

/-- A program was activated, lost before it was deactivated, and nothing was activated since. -/
def Lost (program : P) (operations : List (Operation P T)) : Prop :=
  Since (fun before operation => Held program before ∧ operation.loses program)
    Operation.activatesNothing operations

/-! ## Sessions -/

section

variable {tracker : BindingTracker P T} (device : Device (graphics S P T) σ) (state : σ)

/-- Does operations in turn, each in the given way. -/
def sessionOf
    (perform : BindingTracker P T → Operation P T →
      Script (graphics S P T) (Outcome P × BindingTracker P T))
    (tracker : BindingTracker P T) :
    List (Operation P T) → Script (graphics S P T) (List (Outcome P) × BindingTracker P T)
  | [] => .done ([], tracker)
  | operation :: operations =>
    (perform tracker operation).bind fun (outcome, after) =>
      (sessionOf perform after operations).bind fun (outcomes, last) =>
        .done (outcome :: outcomes, last)

/-- The last operation of a session comes after the others. -/
theorem run_sessionOf_concat
    (perform : BindingTracker P T → Operation P T →
      Script (graphics S P T) (Outcome P × BindingTracker P T))
    (operations : List (Operation P T)) (last : Operation P T) :
    let before := (sessionOf perform tracker operations).run device state
    let after := (perform before.result.2 last).run device before.state
    let whole := (sessionOf perform tracker (operations ++ [last])).run device state
    whole.result.2 = after.result.2 ∧ whole.calls = before.calls ++ after.calls := by
  induction operations generalizing tracker state with
  | nil =>
    simp only [List.nil_append, sessionOf, Script.run_bind, Script.run, List.append_nil]
    exact ⟨trivial, trivial⟩
  | cons operation operations ih =>
    obtain ⟨hresult, hcalls⟩ :=
      @ih ((perform tracker operation).run device state).result.2
        ((perform tracker operation).run device state).state
    simp only [List.cons_append, sessionOf, Script.run_bind, Script.run, List.append_nil]
    exact ⟨hresult, by rw [hcalls, List.append_assoc]⟩

/-- Binding a texture concerns no program. -/
theorem BindingTracker.run_bind_program [DecidableEq T] (unit : Nat) (texture : T)
    (program : Option P) :
    ((tracker.bind unit texture).run device state).result.2.program = tracker.program ∧
      ((tracker.bind unit texture).run device state).calls.foldl Call.usedAfter program =
        program := by
  unfold BindingTracker.bind
  split
  · split
    · exact ⟨rfl, rfl⟩
    · rw [Script.run_bind]
      unfold BindingTracker.select
      split <;> exact ⟨rfl, rfl⟩
  · exact ⟨rfl, rfl⟩

variable [DecidableEq P] [DecidableEq T]

/-- Does an operation, with a call for every deactivation. -/
def Operation.performPlainly (tracker : BindingTracker P T) :
    Operation P T → Script (graphics S P T) (Outcome P × BindingTracker P T)
  | .deactivate => .call (.useProgram none) fun _ => .done (.done, { tracker with program := none })
  | operation => operation.perform tracker

/-- Does operations in turn, with a call for every deactivation. -/
def plainSession : BindingTracker P T → List (Operation P T) →
    Script (graphics S P T) (List (Outcome P) × BindingTracker P T) :=
  sessionOf Operation.performPlainly

/-- A session is made of its operations. -/
theorem session_eq_sessionOf (operations : List (Operation P T)) :
    session (S := S) tracker operations =
      sessionOf (fun tracker operation => operation.perform tracker) tracker operations := by
  induction operations generalizing tracker with
  | nil => rfl
  | cons operation operations ih => simp only [session, sessionOf, ih]

/-- What a tracker knows to be in use after an operation. -/
def Operation.knownAfter (known : Option P) : Operation P T → Option P
  | .activate program => some program
  | .deactivate | .reset => none
  | .delete program => if known = some program then none else known
  | _ => known

/-- What a driver uses after an operation of a tracker. -/
def Operation.usedAfter (known used : Option P) : Operation P T → Option P
  | .activate program => if known = some program then used else some program
  | .deactivate => if known.isSome then none else used
  | _ => used

/-- What the tracker knows and what the driver uses after an operation. -/
theorem Operation.run_perform (operation : Operation P T) (program : Option P) :
    ((operation.perform tracker).run device state).result.2.program =
        operation.knownAfter tracker.program ∧
      ((operation.perform tracker).run device state).calls.foldl Call.usedAfter program =
        operation.usedAfter tracker.program program := by
  cases operation with
  | assemble source =>
    have hcalls := (assembles_run source device state).binds_eq
    rw [Operation.perform, Script.run_bind]
    refine ⟨rfl, ?_⟩
    dsimp only [Script.run]
    rw [List.append_nil, ← Script.map_call_exchanges]
    exact foldl_usedAfter_of_binds (List.forall_mem_map.2 hcalls) program
  | activate activated =>
    rw [Operation.perform, Script.run_bind]
    unfold BindingTracker.activate Operation.usedAfter
    by_cases hknown : tracker.program = some activated
    · simp only [if_pos hknown]
      exact ⟨hknown, rfl⟩
    · simp only [if_neg hknown]
      exact ⟨rfl, rfl⟩
  | deactivate =>
    rw [Operation.perform, Script.run_bind]
    unfold BindingTracker.deactivate Operation.usedAfter
    by_cases hknown : tracker.program.isSome
    · simp only [if_pos hknown]
      exact ⟨rfl, rfl⟩
    · simp only [if_neg hknown]
      exact ⟨Option.not_isSome_iff_eq_none.1 hknown, rfl⟩
  | bind unit texture =>
    obtain ⟨hprogram, hcalls⟩ := tracker.run_bind_program device state unit texture program
    rw [Operation.perform, Script.run_bind]
    refine ⟨hprogram, ?_⟩
    dsimp only [Script.run]
    rw [List.append_nil]
    exact hcalls
  | delete deleted =>
    refine ⟨?_, rfl⟩
    change (if tracker.program = some deleted then { tracker with program := none }
      else tracker).program = if tracker.program = some deleted then none else tracker.program
    split <;> rfl
  | forget texture => exact ⟨rfl, rfl⟩
  | reset => exact ⟨rfl, rfl⟩

end

/-! ## What is in use after a session -/

section

variable {operations : List (Operation P T)} {known program : Option P}

/-- A program is held by the last operation, or it was held before. -/
theorem held_concat_iff {held : P} {last : Operation P T} :
    Held held (operations ++ [last]) ↔
      last = .activate held ∨ Held held operations ∧ last.keeps held :=
  since_concat_iff

/-- A program is lost by the last operation, or it was lost before. -/
theorem lost_concat_iff {lost : P} {last : Operation P T} :
    Lost lost (operations ++ [last]) ↔
      (Held lost operations ∧ last.loses lost) ∨ Lost lost operations ∧ last.activatesNothing :=
  since_concat_iff

/-- After operations, a tracker knows of the program that is held. If it knows of none, then a
program that is in use is a lost one. -/
structure Standing (operations : List (Operation P T)) (known program : Option P) : Prop where
  known_iff : ∀ held, known = some held ↔ Held held operations
  lost_iff : ∀ lost, known = none ∧ program = some lost ↔ Lost lost operations
  program_eq : ∀ held, known = some held → program = some held

/-- At first nothing is known and nothing is in use. -/
theorem standing_nil : Standing ([] : List (Operation P T)) none none where
  known_iff _ := ⟨nofun, fun h => absurd h not_since_nil⟩
  lost_iff _ := ⟨nofun, fun h => absurd h not_since_nil⟩
  program_eq _ := nofun

variable [DecidableEq P]

/-- The program that is known after one more operation is held. -/
theorem Standing.known_concat (h : Standing operations known program) (last : Operation P T)
    (held : P) : last.knownAfter known = some held ↔ Held held (operations ++ [last]) := by
  rw [held_concat_iff, ← h.known_iff]
  cases last with
  | delete deleted =>
    by_cases hdeleted : known = some deleted
    · simp [Operation.knownAfter, Operation.keeps, hdeleted]
    · simp only [Operation.knownAfter, if_neg hdeleted, Operation.keeps, reduceCtorEq, false_or,
        iff_self_and]
      rintro hheld rfl
      exact hdeleted hheld
  | _ => simp [Operation.knownAfter, Operation.keeps]

/-- A program that is in use after one more operation without being known is lost. -/
theorem Standing.lost_concat (h : Standing operations known program) (last : Operation P T)
    (lost : P) :
    last.knownAfter known = none ∧ last.usedAfter known program = some lost ↔
      Lost lost (operations ++ [last]) := by
  rw [lost_concat_iff, ← h.known_iff, ← h.lost_iff]
  cases last with
  | deactivate =>
    cases known <;> simp [Operation.knownAfter, Operation.usedAfter, Operation.loses,
      Operation.activatesNothing]
  | delete deleted =>
    by_cases hdeleted : known = some deleted
    · subst hdeleted
      have hused := h.program_eq deleted rfl
      simp [Operation.knownAfter, Operation.usedAfter, Operation.loses, hused]
    · simp only [Operation.knownAfter, if_neg hdeleted, Operation.usedAfter, Operation.loses,
        Operation.activatesNothing, and_true]
      refine ⟨.inr, fun h => h.resolve_left ?_⟩
      rintro ⟨hheld, rfl⟩
      exact hdeleted hheld
  | reset =>
    cases known with
    | none => simp [Operation.knownAfter, Operation.usedAfter, Operation.activatesNothing]
    | some held =>
      simp [Operation.knownAfter, Operation.usedAfter, Operation.loses, h.program_eq held rfl]
  | _ =>
    simp [Operation.knownAfter, Operation.usedAfter, Operation.loses, Operation.activatesNothing]

/-- The program that is known after one more operation is in use. -/
theorem Standing.program_concat (h : Standing operations known program) (last : Operation P T)
    (held : P) (hheld : last.knownAfter known = some held) :
    last.usedAfter known program = some held := by
  cases last with
  | activate activated =>
    obtain rfl := Option.some.inj hheld
    by_cases hknown : known = some activated
    · exact (if_pos hknown).trans (h.program_eq activated hknown)
    · exact if_neg hknown
  | deactivate | reset => cases hheld
  | delete deleted =>
    rw [Operation.knownAfter, Option.ite_none_left_eq_some] at hheld
    exact h.program_eq held hheld.2
  | _ => exact h.program_eq held hheld

/-- One more operation. -/
theorem Standing.concat (h : Standing operations known program) (last : Operation P T) :
    Standing (operations ++ [last]) (last.knownAfter known) (last.usedAfter known program) :=
  ⟨h.known_concat last, h.lost_concat last, h.program_concat last⟩

variable [DecidableEq T] (operations) (device : Device (graphics S P T) σ) (state : σ)

/-- How a tracker and its driver stand after a session. -/
theorem standing_session :
    Standing operations ((session .empty operations).run device state).result.2.program
      (used ((session .empty operations).run device state).calls) := by
  induction operations using List.reverseRecOn with
  | nil => exact standing_nil
  | append_singleton operations last ih =>
    rw [session_eq_sessionOf] at ih ⊢
    obtain ⟨hresult, hcalls⟩ := run_sessionOf_concat device state
      (fun tracker (operation : Operation P T) => operation.perform tracker) operations last
    rw [hresult, hcalls, used, List.foldl_append, (last.run_perform device _ none).1,
      (last.run_perform device _ _).2]
    exact ih.concat last

/-- A deactivation leaves a program in use exactly if that program was lost before. In all other
cases the driver uses no program afterwards, as it does where every deactivation makes its call. -/
theorem deactivate_used_iff :
    (∀ program,
      used ((session .empty (operations ++ [.deactivate])).run device state).calls = some program ↔
        Lost program operations) ∧
      used ((plainSession .empty (operations ++ [.deactivate])).run device state).calls = none ∧
      (used ((session .empty (operations ++ [.deactivate])).run device state).calls =
          used ((plainSession .empty (operations ++ [.deactivate])).run device state).calls ↔
        ∀ program, ¬Lost program operations) := by
  have hplain :
      used ((plainSession .empty (operations ++ [.deactivate])).run device state).calls = none := by
    obtain ⟨-, hcalls⟩ := run_sessionOf_concat device state
      Operation.performPlainly operations .deactivate
    rw [plainSession, hcalls, used, List.foldl_append]
    rfl
  have hlost (program : P) :
      used ((session .empty (operations ++ [.deactivate])).run device state).calls = some program ↔
        Lost program operations := by
    have hstanding := standing_session (operations ++ [.deactivate]) device state
    have hunknown : ((session .empty (operations ++ [.deactivate])).run device
        state).result.2.program = none := by
      rw [Option.eq_none_iff_forall_ne_some]
      intro held hheld
      have hlast := held_concat_iff.1 ((hstanding.known_iff held).1 hheld)
      simp [Operation.keeps] at hlast
    have hlast := hstanding.lost_iff program
    rw [lost_concat_iff] at hlast
    simpa [hunknown, Operation.loses, Operation.activatesNothing] using hlast
  refine ⟨hlost, hplain, ?_⟩
  rw [hplain, Option.eq_none_iff_forall_ne_some]
  exact forall_congr' fun program => not_congr (hlost program)

end

/-- A deactivation after a reset makes no call, although the program that was activated before is
still in use. -/
theorem deactivate_used_ne_none :
    ¬∀ operations : List (Operation Nat Nat),
      used ((session .empty (operations ++ [.deactivate])).run Simulation.device {}).calls =
        none := by
  intro h
  have hreset := h [.activate 5, .reset]
  revert hreset
  decide

end ShaderPipeline.Gpu
