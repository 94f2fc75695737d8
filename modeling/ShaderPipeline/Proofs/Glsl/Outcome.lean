import ShaderPipeline.Glsl.Generate

/-!
# Outcomes

A computation that can fail is described by two things: the fault that it ends with, if any, and
the result that it has otherwise. In this form a sequence of computations ends with the first fault
of its steps, and a traversal of a list with the fault of the first element that has one, while the
results are put together as if no step could fail.
-/

namespace ShaderPipeline

variable {ε δ α β : Type}

/-- What a computation gives that has the result `result` unless it ends with a fault. -/
def outcome (fault : Option ε) (result : α) : Except ε α :=
  match fault with
  | some e => .error e
  | none => .ok result

/-- The fault that a computation ends with. -/
def fault? : Except ε α → Option ε
  | .ok _ => none
  | .error e => some e

theorem outcome_eq_ok_iff {fault : Option ε} {result a : α} :
    outcome fault result = .ok a ↔ fault = none ∧ result = a := by
  cases fault <;> simp [outcome]

theorem outcome_eq_error_iff {fault : Option ε} {result : α} {e : ε} :
    outcome fault result = .error e ↔ fault = some e := by
  cases fault <;> simp [outcome]

/-- A computation that ends well has a result. -/
theorem exists_ok_of_isOk {computed : Except ε α} (h : computed.isOk = true) :
    ∃ a, computed = .ok a := by
  cases computed with
  | error e => cases h
  | ok a => exact ⟨a, rfl⟩

/-- A computation has a result if one that uses it ends well, and so has that one. -/
theorem exists_ok_of_any {computed : Except ε α} {next : α → Except δ β}
    (h : computed.toOption.any (fun a => (next a).isOk) = true) :
    ∃ a b, computed = .ok a ∧ next a = .ok b := by
  cases computed with
  | error e => cases h
  | ok a =>
    obtain ⟨b, hb⟩ := exists_ok_of_isOk h
    exact ⟨a, b, rfl, hb⟩

/-- Of two computations in a row the first one decides if it fails. -/
theorem outcome_bind {fault later : Option ε} {a : α} {b : β} {next : α → Except ε β}
    (h : next a = outcome later b) : (outcome fault a >>= next) = outcome (fault.or later) b := by
  cases fault with
  | none => exact h
  | some e => rfl

/-- A computation before one that cannot fail decides alone. -/
theorem outcome_map {fault : Option ε} {a : α} {b : β} {next : α → Except ε β}
    (h : next a = .ok b) : (outcome fault a >>= next) = outcome fault b := by
  cases fault with
  | none => exact h
  | some e => rfl

/-- A traversal ends with the fault of the first element that has one. -/
theorem mapM_eq_outcome {f : α → Except ε β} {fault : α → Option ε} {result : α → β}
    {elements : List α} (h : ∀ a ∈ elements, f a = outcome (fault a) (result a)) :
    elements.mapM f = outcome (elements.findSome? fault) (elements.map result) := by
  induction elements with
  | nil => rfl
  | cons first rest ih =>
    have hfirst : f first = outcome (fault first) (result first) := h first List.mem_cons_self
    have hrest := ih fun a ha => h a (List.mem_cons_of_mem first ha)
    have hfault : (first :: rest).findSome? fault =
        (fault first).or (rest.findSome? fault) := by
      rw [List.findSome?_cons]
      cases fault first <;> rfl
    rw [List.mapM_cons, hfirst, hrest, hfault, List.map_cons]
    apply outcome_bind
    exact outcome_map rfl

end ShaderPipeline
