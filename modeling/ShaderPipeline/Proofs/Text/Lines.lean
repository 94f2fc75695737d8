import ShaderPipeline.Text.Lines

/-!
# Texts made of lines

A text is written line by line, with a line feed or a carriage return and a line feed behind each
line; behind the last line both may be absent. Such a text has these physical lines
(`MadeOf.lines_eq`), and there is one for all lines without line breaks (`madeOf_flatMap`). A line
that ends in a carriage return cannot have a line feed alone behind it, because that carriage return
would belong to the line break.
-/

namespace ShaderPipeline.Text

/-- A text is made of lines. -/
inductive MadeOf : List (List Char) → List Char → Prop
  | nil : MadeOf [] []
  | last {line : List Char} (hne : line ≠ []) (hfeed : '\n' ∉ line) : MadeOf [line] line
  | feed {line text : List Char} {more : List (List Char)} (hfeed : '\n' ∉ line)
      (hreturn : line.getLast? ≠ some '\r') (hmore : MadeOf more text) :
      MadeOf (line :: more) (line ++ '\n' :: text)
  | returnFeed {line text : List Char} {more : List (List Char)} (hfeed : '\n' ∉ line)
      (hmore : MadeOf more text) : MadeOf (line :: more) (line ++ '\r' :: '\n' :: text)

/-- A character that is part of no line break belongs to the first line. -/
theorem lines_cons {c : Char} {rest : List Char} (hfeed : c ≠ '\n')
    (hreturn : c = '\r' → rest.head? ≠ some '\n') :
    lines (c :: rest) =
      match lines rest with
      | [] => [[c]]
      | line :: more => (c :: line) :: more := by
  rw [lines.eq_def]
  split
  · rename_i heq
    cases heq
  · rename_i heq
    exact absurd (List.cons.inj heq).1 hfeed
  · rename_i heq
    obtain ⟨rfl, rfl⟩ := List.cons.inj heq
    exact absurd rfl (hreturn rfl)
  · rename_i heq
    obtain ⟨rfl, rfl⟩ := List.cons.inj heq
    rfl

/-- What stands in front of a line break is the first line. -/
theorem lines_append {line rest : List Char} {more : List (List Char)} (hfeed : '\n' ∉ line)
    (hrest : lines rest = [] :: more)
    (hreturn : rest.head? = some '\n' → line.getLast? ≠ some '\r') :
    lines (line ++ rest) = line :: more := by
  induction line with
  | nil => exact hrest
  | cons c line ih =>
    rw [List.mem_cons, not_or] at hfeed
    have hline : lines (line ++ rest) = line :: more := by
      refine ih hfeed.2 fun hhead hlast => ?_
      refine hreturn hhead ?_
      rw [List.getLast?_cons, hlast]
      rfl
    rw [List.cons_append, lines_cons (Ne.symm hfeed.1), hline]
    intro hc hhead
    cases line with
    | nil =>
      subst hc
      exact hreturn hhead rfl
    | cons first line =>
      obtain rfl := Option.some.inj hhead
      exact hfeed.2 List.mem_cons_self

/-- A text without a line feed is one line. -/
theorem lines_of_not_mem {line : List Char} (hne : line ≠ []) (hfeed : '\n' ∉ line) :
    lines line = [line] := by
  induction line with
  | nil => exact absurd rfl hne
  | cons c line ih =>
    rw [List.mem_cons, not_or] at hfeed
    rw [lines_cons (Ne.symm hfeed.1)]
    · cases line with
      | nil => rfl
      | cons first line => rw [ih (List.cons_ne_nil first line) hfeed.2]
    · intro _ hhead
      exact hfeed.2 (List.mem_of_mem_head? hhead)

/-- A text that is made of lines has these physical lines. -/
theorem MadeOf.lines_eq {text : List Char} {written : List (List Char)} (h : MadeOf written text) :
    lines text = written := by
  induction h with
  | nil => rfl
  | last hne hfeed => exact lines_of_not_mem hne hfeed
  | feed hfeed hreturn _ ih =>
    exact lines_append hfeed (by rw [lines, ih]) fun _ => hreturn
  | returnFeed hfeed _ ih =>
    exact lines_append hfeed (by rw [lines, ih]) nofun

/-- Lines without line breaks make a text, with a line feed behind each. -/
theorem madeOf_flatMap {lines : List (List Char)}
    (h : ∀ line ∈ lines, ∀ c ∈ line, c ≠ '\n' ∧ c ≠ '\r') :
    MadeOf lines (lines.flatMap (· ++ ['\n'])) := by
  induction lines with
  | nil => exact .nil
  | cons line lines ih =>
    rw [List.forall_mem_cons] at h
    rw [List.flatMap_cons, List.append_assoc]
    refine .feed (fun hfeed => (h.1 _ hfeed).1 rfl) (fun hreturn => ?_) (ih h.2)
    exact (h.1 _ (List.mem_of_getLast? hreturn)).2 rfl

end ShaderPipeline.Text
