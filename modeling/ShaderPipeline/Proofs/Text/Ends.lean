import Mathlib.Data.List.TakeWhile
import ShaderPipeline.Text.Blank

/-!
# The ends of a text

What is dropped at the start and at the end of a list by a property of its entries, and what is
left. Trimming a text is one case, passing a run of digits or blanks another. The lemmas say how
this goes with putting lists together, so that texts can be taken apart at a known place.
-/

namespace ShaderPipeline.Text

/-! ## Longest runs -/

/-- What is left after a run does not start with a character of the run. -/
theorem head?_dropWhile_eq_false {α : Type} (p : α → Bool) (text : List α) :
    ∀ c ∈ (text.dropWhile p).head?, p c = false := by
  intro c hc
  have h := List.head?_dropWhile_not p text
  rw [hc] at h
  exact h

/-- A run that nothing continues is taken as a whole. -/
theorem takeWhile_run {p : Char → Bool} {run rest : List Char} (hrun : ∀ c ∈ run, p c = true)
    (hrest : ∀ c ∈ rest.head?, p c = false) : (run ++ rest).takeWhile p = run := by
  rw [List.takeWhile_append_of_pos hrun]
  cases rest with
  | nil => simp
  | cons c rest => simp [hrest c rfl]

/-- A run that nothing continues is dropped as a whole. -/
theorem dropWhile_run {p : Char → Bool} {run rest : List Char} (hrun : ∀ c ∈ run, p c = true)
    (hrest : ∀ c ∈ rest.head?, p c = false) : (run ++ rest).dropWhile p = rest := by
  rw [List.dropWhile_append_of_pos hrun]
  cases rest with
  | nil => rfl
  | cons c rest => simp [hrest c rfl]

/-! ## Lists without their last entries -/

section Trailing

variable {α β : Type} {drop : α → Bool}

/-- The first entry goes only with all others. -/
theorem dropTrailing_cons (first : α) (rest : List α) :
    dropTrailing drop (first :: rest) =
      if (dropTrailing drop rest).isEmpty && drop first then []
      else first :: dropTrailing drop rest :=
  rfl

/-- Everything goes exactly if every entry does. -/
theorem dropTrailing_eq_nil_iff {list : List α} :
    dropTrailing drop list = [] ↔ ∀ entry ∈ list, drop entry = true := by
  induction list with
  | nil => simp [dropTrailing]
  | cons first rest ih =>
    rw [dropTrailing_cons, List.forall_mem_cons, ← ih]
    by_cases hrest : dropTrailing drop rest = []
    · simp [hrest]
    · simp [hrest]

/-- If something is left of the back of a list, the front stays. -/
theorem dropTrailing_append_of_ne {front back : List α} (h : dropTrailing drop back ≠ []) :
    dropTrailing drop (front ++ back) = front ++ dropTrailing drop back := by
  induction front with
  | nil => rfl
  | cons first front ih =>
    rw [List.cons_append, dropTrailing_cons, ih]
    simp [h]

/-- If nothing is left of the back of a list, only the front matters. -/
theorem dropTrailing_append_of_eq {front back : List α} (h : dropTrailing drop back = []) :
    dropTrailing drop (front ++ back) = dropTrailing drop front := by
  induction front with
  | nil => exact h
  | cons first front ih => rw [List.cons_append, dropTrailing_cons, ih, dropTrailing_cons]

/-- An entry that stays keeps everything in front of it. -/
theorem dropTrailing_append_cons {front back : List α} {entry : α} (h : drop entry = false) :
    dropTrailing drop (front ++ entry :: back) = front ++ entry :: dropTrailing drop back := by
  have hback : dropTrailing drop (entry :: back) = entry :: dropTrailing drop back := by
    rw [dropTrailing_cons]
    simp [h]
  rw [dropTrailing_append_of_ne (by simp [hback]), hback]

/-- Going from the end commutes with a function on the entries. -/
theorem dropTrailing_map {f : β → α} (list : List β) :
    dropTrailing drop (list.map f) = (dropTrailing (drop ∘ f) list).map f := by
  induction list with
  | nil => rfl
  | cons first rest ih =>
    rw [List.map_cons, dropTrailing_cons, dropTrailing_cons, ih, List.isEmpty_map,
      Function.comp_apply]
    split <;> rfl

/-- What is left is at the front of the list. -/
theorem head?_dropTrailing {list : List α} (h : dropTrailing drop list ≠ []) :
    (dropTrailing drop list).head? = list.head? := by
  cases list with
  | nil => rfl
  | cons first rest =>
    rw [dropTrailing_cons] at h ⊢
    split
    · simp_all
    · rfl

/-- What is left was there before. -/
theorem mem_of_mem_dropTrailing {list : List α} {entry : α} (h : entry ∈ dropTrailing drop list) :
    entry ∈ list := by
  induction list with
  | nil => exact h
  | cons first rest ih =>
    rw [dropTrailing_cons] at h
    split at h
    · cases h
    · rcases List.mem_cons.1 h with rfl | hrest
      · exact List.mem_cons_self
      · exact List.mem_cons_of_mem first (ih hrest)

/-- What is left stays if entries follow that go. -/
theorem dropTrailing_append_self {list back : List α} (h : ∀ entry ∈ back, drop entry = true) :
    dropTrailing drop (dropTrailing drop list ++ back) = dropTrailing drop list := by
  rw [dropTrailing_append_of_eq (dropTrailing_eq_nil_iff.2 h)]
  induction list with
  | nil => rfl
  | cons first rest ih =>
    rw [dropTrailing_cons]
    split
    · rfl
    · rw [dropTrailing_cons, ih]
      simp_all

/-- Entries that do not go from the start keep everything behind them. -/
theorem dropWhile_append_cons {front back : List α} {entry : α} (h : drop entry = false) :
    (front ++ entry :: back).dropWhile drop = front.dropWhile drop ++ entry :: back := by
  induction front with
  | nil => simp [h]
  | cons first front ih =>
    rw [List.cons_append, List.dropWhile_cons, List.dropWhile_cons, ih]
    split <;> rfl

end Trailing

end ShaderPipeline.Text
