import Mathlib.Algebra.Ring.Parity
import ShaderPipeline.Proofs.SlotFile.Writing

/-!
# Logical lines as groups of physical lines

The physical lines of a slot file fall into groups: single lines that are skipped, and the lines of
one entry. Which lines belong together is decided by each line alone (`Joins`): the next line
belongs to the same entry exactly if the number of backslashes at the end of this one is odd. There
is one way to divide lines so (`Grouped.unique`), and the logical lines are the groups of entries.

The reader does not look at a line alone. It tests the whole text that was joined so far, in which
backslashes that were left over can touch those of the line that was joined last. What was joined
before a line never asks for a further one, so there is an even number of them, and they make no
difference (`isContinued_append`).
-/

namespace ShaderPipeline.SlotFile

open Text

/-! ## Groups of lines -/

/-- Physical lines that belong together: one that is skipped, or those of an entry. -/
inductive LineGroup where
  | skipped (line : List Char)
  | entry (first : List Char) (joined : List (List Char))
deriving DecidableEq

/-- The lines of a group. -/
def LineGroup.lines : LineGroup → List (List Char)
  | .skipped line => [line]
  | .entry first joined => first :: joined

/-- A line that is skipped if it starts a group: a blank one, or one whose first character that is
not blank is `#` or `!`. -/
inductive Skippable : List Char → Prop
  | blank {line : List Char} (hblank : ∀ c ∈ line, isBlank c = true) : Skippable line
  | comment {indent rest : List Char} {mark : Char} (hindent : ∀ c ∈ indent, isBlank c = true)
      (hmark : mark = '#' ∨ mark = '!') : Skippable (indent ++ mark :: rest)

/-- The lines behind the first one of an entry, divided into those that are joined to it and the
rest. Of two lines in a row, of which the one in front belongs to the entry, the next one belongs to
it exactly if the one in front ends in an odd number of backslashes. -/
def Joins (first : List Char) (joined rest : List (List Char)) : Prop :=
  ∀ front line next back, first :: (joined ++ rest) = front ++ line :: next :: back →
    front.length ≤ joined.length →
      (front.length < joined.length ↔ Odd (trailingBackslashes line))

/-- A group in front of further lines. -/
inductive LineGroup.Stands : LineGroup → List (List Char) → Prop
  | skipped {line : List Char} {rest : List (List Char)} (hline : Skippable line) :
      Stands (.skipped line) rest
  | entry {first : List Char} {joined rest : List (List Char)} (hfirst : ¬ Skippable first)
      (hjoins : Joins first joined rest) : Stands (.entry first joined) rest

/-- Lines as groups. -/
inductive Grouped : List LineGroup → List (List Char) → Prop
  | nil : Grouped [] []
  | cons {group : LineGroup} {groups : List LineGroup} {rest : List (List Char)}
      (hgroup : group.Stands rest) (hgroups : Grouped groups rest) :
      Grouped (group :: groups) (group.lines ++ rest)

/-- The number of lines in front of the group at a place. -/
def linesBefore (groups : List LineGroup) (place : Nat) : Nat :=
  ((groups.take place).flatMap LineGroup.lines).length

/-- What a line adds to the text of its entry: the line without the blanks at its start, and without
its last backslash if it ends in an odd number of them. -/
def lineText (line : List Char) : List Char :=
  if isContinued line then (trimStart line).dropLast else trimStart line

/-- The logical line of a group, which starts on the line with the given number. -/
def LineGroup.logical? (number : Nat) : LineGroup → Option LogicalLine
  | .skipped _ => none
  | .entry first joined => some ⟨number, (first :: joined).flatMap lineText⟩

/-- The logical lines of groups, of which the first starts on the line with the given number. -/
def logicalOf (number : Nat) : List LineGroup → List LogicalLine
  | [] => []
  | group :: groups =>
    (group.logical? number).toList ++ logicalOf (number + group.lines.length) groups

/-! ## One line -/

/-- A line is skipped exactly if it is blank or a comment. -/
theorem isSkipped_iff {line : List Char} : isSkipped line = true ↔ Skippable line := by
  constructor
  · intro h
    have hindent : ∀ c ∈ line.takeWhile isBlank, isBlank c = true :=
      fun c hc => List.mem_takeWhile_imp hc
    have hsplit : line.takeWhile isBlank ++ trimStart line = line :=
      List.takeWhile_append_dropWhile
    unfold isSkipped at h
    split at h
    · rename_i htrim
      rw [htrim, List.append_nil] at hsplit
      exact .blank (hsplit ▸ hindent)
    · rename_i mark rest htrim
      rw [htrim] at hsplit
      rw [← hsplit]
      exact .comment hindent (by simpa using h)
  · intro h
    cases h with
    | blank hblank => rw [isSkipped, trimStart, List.dropWhile_eq_nil_iff.2 hblank]
    | @comment indent rest mark hindent hmark =>
      have hblank : isBlank mark = false := by
        rcases hmark with rfl | rfl <;> decide
      have htrim : trimStart (indent ++ mark :: rest) = mark :: rest :=
        dropWhile_run hindent fun c hc => Option.some.inj hc ▸ hblank
      rw [isSkipped, htrim]
      simpa using hmark

/-- A text asks for the next line exactly if it ends in an odd number of backslashes. -/
theorem isContinued_iff {text : List Char} :
    isContinued text = true ↔ Odd (trailingBackslashes text) := by
  rw [isContinued, beq_iff_eq, Nat.odd_iff]

/-- A text that asks for the next line has a last backslash, and does not ask without it. -/
theorem exists_concat_of_isContinued {text : List Char} (h : isContinued text = true) :
    ∃ kept, text = kept ++ ['\\'] ∧ isContinued kept = false := by
  rcases List.eq_nil_or_concat' text with rfl | ⟨kept, last, rfl⟩
  · cases h
  · by_cases hlast : last = '\\'
    · subst hlast
      rw [isContinued_backslash, Bool.not_eq_true'] at h
      exact ⟨kept, rfl, h⟩
    · rw [isContinued_concat hlast] at h
      cases h

/-- Behind a text that does not ask for the next line, a line without the blanks at its start asks
for it exactly if the line ends in an odd number of backslashes. -/
theorem isContinued_append_trimStart {front : List Char} (hfront : isContinued front = false)
    {line : List Char} :
    isContinued (front ++ trimStart line) = true ↔ Odd (trailingBackslashes line) := by
  rw [isContinued_append hfront, isContinued_trimStart, isContinued_iff]

/-- What a line that goes on adds, and its last backslash. -/
theorem trimStart_of_odd {line : List Char} (h : Odd (trailingBackslashes line)) :
    trimStart line = lineText line ++ ['\\'] ∧ isContinued (lineText line) = false := by
  rw [← isContinued_iff] at h
  obtain ⟨kept, hkept, hends⟩ := exists_concat_of_isContinued ((isContinued_trimStart line).trans h)
  have htext : lineText line = kept := by rw [lineText, if_pos h, hkept, List.dropLast_concat]
  rw [htext]
  exact ⟨hkept, hends⟩

/-! ## The lines of an entry -/

section Joins

variable {first next : List Char} {joined rest : List (List Char)}

/-- No line is joined exactly if there is none or the first line does not ask for it. -/
theorem joins_nil_iff : Joins first [] rest ↔ (rest ≠ [] → ¬ Odd (trailingBackslashes first)) := by
  constructor
  · intro h hrest hodd
    obtain ⟨next, back, rfl⟩ := List.exists_cons_of_ne_nil hrest
    exact absurd ((h [] first next back rfl (Nat.le_refl 0)).2 hodd) (Nat.lt_irrefl 0)
  · intro h front line next back hlines hfront
    obtain rfl := List.eq_nil_of_length_eq_zero (Nat.le_zero.1 hfront)
    obtain ⟨rfl, rfl⟩ := List.cons.inj hlines
    exact iff_of_false (Nat.lt_irrefl 0) (h (List.cons_ne_nil _ _))

/-- A line is joined exactly if the first one asks for it, and then it is like a first line. -/
theorem joins_cons_iff :
    Joins first (next :: joined) rest ↔
      Odd (trailingBackslashes first) ∧ Joins next joined rest := by
  constructor
  · intro h
    refine ⟨(h [] first next _ rfl (Nat.zero_le _)).1 (Nat.succ_pos _), ?_⟩
    intro front line after back hlines hfront
    have hiff := h (first :: front) line after back (congrArg (first :: ·) hlines)
      (Nat.succ_le_succ hfront)
    rwa [List.length_cons, List.length_cons, Nat.add_lt_add_iff_right] at hiff
  · rintro ⟨hodd, h⟩ front line after back hlines hfront
    cases front with
    | nil =>
      obtain ⟨rfl, -⟩ := List.cons.inj hlines
      exact iff_of_true (Nat.succ_pos _) hodd
    | cons other front =>
      obtain ⟨-, hlines⟩ := List.cons.inj hlines
      rw [List.length_cons, List.length_cons, Nat.add_lt_add_iff_right]
      exact h front line after back hlines (Nat.le_of_succ_le_succ hfront)

/-- Some of the lines behind a first one are joined to it. -/
theorem exists_joins (first : List Char) (physical : List (List Char)) :
    ∃ joined rest, physical = joined ++ rest ∧ Joins first joined rest := by
  induction physical generalizing first with
  | nil => exact ⟨[], [], rfl, joins_nil_iff.2 fun h => absurd rfl h⟩
  | cons next physical ih =>
    by_cases hodd : Odd (trailingBackslashes first)
    · obtain ⟨joined, rest, hsplit, hjoins⟩ := ih next
      exact ⟨next :: joined, rest, by rw [hsplit, List.cons_append],
        joins_cons_iff.2 ⟨hodd, hjoins⟩⟩
    · exact ⟨[], next :: physical, rfl, joins_nil_iff.2 fun _ => hodd⟩

/-- Which lines are joined to a first one is determined. -/
theorem Joins.unique {others left : List (List Char)} (h : Joins first joined rest)
    (hother : Joins first others left) (hlines : joined ++ rest = others ++ left) :
    joined = others ∧ rest = left := by
  induction joined generalizing first others with
  | nil =>
    cases others with
    | nil => exact ⟨rfl, hlines⟩
    | cons other others =>
      have hne : rest ≠ [] := by
        rintro rfl
        cases hlines
      exact absurd (joins_cons_iff.1 hother).1 (joins_nil_iff.1 h hne)
  | cons next joined ih =>
    obtain ⟨hodd, hmore⟩ := joins_cons_iff.1 h
    cases others with
    | nil =>
      have hne : left ≠ [] := by
        rintro rfl
        cases hlines
      exact absurd hodd (joins_nil_iff.1 hother hne)
    | cons other others =>
      obtain ⟨rfl, hbehind⟩ := List.cons.inj hlines
      obtain ⟨rfl, rfl⟩ := ih hmore (joins_cons_iff.1 hother).2 hbehind
      exact ⟨rfl, rfl⟩

/-- The reader joins the lines that are joined to the first one, and their texts. -/
theorem Joins.joinLines_eq (h : Joins first joined rest) {front : List Char}
    (hfront : isContinued front = false) :
    joinLines (front ++ trimStart first) (joined ++ rest) =
      (front ++ (first :: joined).flatMap lineText, joined.length) := by
  -- The text in front of the current line grows by what the line adds. It never asks for a further
  -- line, as the backslash that did is dropped.
  induction joined generalizing first front with
  | nil =>
    rw [List.nil_append, List.flatMap_singleton]
    by_cases hodd : Odd (trailingBackslashes first)
    · have hrest : rest = [] := by
        by_contra hne
        exact joins_nil_iff.1 h hne hodd
      rw [hrest, joinLines, if_pos ((isContinued_append_trimStart hfront).2 hodd),
        (trimStart_of_odd hodd).1, ← List.append_assoc, List.dropLast_concat]
      rfl
    · have hends : isContinued (front ++ trimStart first) = false :=
        Bool.eq_false_iff.2 (mt (isContinued_append_trimStart hfront).1 hodd)
      have htext : lineText first = trimStart first := if_neg (mt isContinued_iff.1 hodd)
      rw [joinLines_of_not hends, htext]
      rfl
  | cons next joined ih =>
    obtain ⟨hodd, hmore⟩ := joins_cons_iff.1 h
    obtain ⟨htrim, hends⟩ := trimStart_of_odd hodd
    have hkept : isContinued (front ++ lineText first) = false := by
      rw [isContinued_append hfront, hends]
    rw [List.cons_append, joinLines, if_pos ((isContinued_append_trimStart hfront).2 hodd), htrim,
      ← List.append_assoc, List.dropLast_concat, ih hmore hkept, List.flatMap_cons,
      List.append_assoc]
    rfl

end Joins

/-! ## All lines -/

/-- The groups are the lines, in their order. -/
theorem Grouped.lines_eq {groups : List LineGroup} {physical : List (List Char)}
    (h : Grouped groups physical) : groups.flatMap LineGroup.lines = physical := by
  induction h with
  | nil => rfl
  | cons _ _ ih => rw [List.flatMap_cons, ih]

/-- One group stands at the start of lines. -/
theorem LineGroup.Stands.unique {group other : LineGroup} {rest left : List (List Char)}
    (h : group.Stands rest) (hother : other.Stands left)
    (hlines : group.lines ++ rest = other.lines ++ left) : group = other ∧ rest = left := by
  cases h with
  | skipped hline =>
    cases hother with
    | skipped =>
      obtain ⟨rfl, hrest⟩ := List.cons.inj hlines
      exact ⟨rfl, hrest⟩
    | entry hfirst =>
      obtain ⟨rfl, -⟩ := List.cons.inj hlines
      exact absurd hline hfirst
  | entry hfirst hjoins =>
    cases hother with
    | skipped hline =>
      obtain ⟨rfl, -⟩ := List.cons.inj hlines
      exact absurd hline hfirst
    | entry _ hjoins' =>
      obtain ⟨rfl, hbehind⟩ := List.cons.inj hlines
      obtain ⟨rfl, rfl⟩ := hjoins.unique hjoins' hbehind
      exact ⟨rfl, rfl⟩

/-- A group has a line. -/
theorem LineGroup.length_lines_pos (group : LineGroup) : 0 < group.lines.length := by
  cases group <;> exact Nat.succ_pos _

/-- Lines fall into groups in one way. -/
theorem Grouped.unique {groups others : List LineGroup} {physical : List (List Char)}
    (h : Grouped groups physical) (hother : Grouped others physical) : groups = others := by
  have hempty {group : LineGroup} {rest : List (List Char)} : [] ≠ group.lines ++ rest := by
    intro hlines
    have hpos := group.length_lines_pos
    rw [(List.append_eq_nil_iff.1 hlines.symm).1] at hpos
    exact Nat.lt_irrefl 0 hpos
  induction h generalizing others with
  | nil =>
    generalize hlines : ([] : List (List Char)) = physical at hother
    cases hother with
    | nil => rfl
    | cons => exact absurd hlines hempty
  | @cons group groups rest hgroup _ ih =>
    generalize hlines : group.lines ++ rest = physical at hother
    cases hother with
    | nil => exact absurd hlines.symm hempty
    | cons hgroup' hgroups' =>
      obtain ⟨rfl, rfl⟩ := hgroup.unique hgroup' hlines
      rw [ih hgroups']

/-- Lines fall into groups. -/
theorem exists_grouped (physical : List (List Char)) : ∃ groups, Grouped groups physical := by
  induction hlength : physical.length using Nat.strong_induction_on generalizing physical with
  | _ length ih =>
    cases physical with
    | nil => exact ⟨[], .nil⟩
    | cons line physical =>
      by_cases hskip : Skippable line
      · obtain ⟨groups, hgroups⟩ := ih physical.length (by simp [← hlength]) physical rfl
        exact ⟨.skipped line :: groups, .cons (.skipped hskip) hgroups⟩
      · obtain ⟨joined, rest, rfl, hjoins⟩ := exists_joins line physical
        have hshorter : rest.length < length := by
          rw [← hlength, List.length_cons, List.length_append]
          omega
        obtain ⟨groups, hgroups⟩ := ih rest.length hshorter rest rfl
        exact ⟨.entry line joined :: groups, .cons (.entry hskip hjoins) hgroups⟩

/-- Lines that belong to a logical line before them are passed over. -/
theorem logicalLinesFrom_append (number : Nat) (own rest : List (List Char)) :
    logicalLinesFrom number own.length (own ++ rest) =
      logicalLinesFrom (number + own.length) 0 rest := by
  induction own generalizing number with
  | nil => rfl
  | cons line own ih =>
    rw [List.length_cons, List.cons_append, logicalLinesFrom, ih, Nat.add_right_comm, Nat.add_assoc]

/-- The logical lines are those of the groups. -/
theorem Grouped.logicalLinesFrom_eq {groups : List LineGroup} {physical : List (List Char)}
    (h : Grouped groups physical) (number : Nat) :
    logicalLinesFrom number 0 physical = logicalOf number groups := by
  induction h generalizing number with
  | nil => rfl
  | @cons group groups rest hgroup _ ih =>
    cases hgroup with
    | @skipped line _ hline =>
      have hskip := isSkipped_iff.2 hline
      change logicalLinesFrom number 0 (line :: rest) = _
      rw [logicalLinesFrom, if_pos hskip, ih]
      rfl
    | @entry first joined _ hfirst hjoins =>
      have hskip := mt isSkipped_iff.1 hfirst
      have hjoin := @Joins.joinLines_eq first joined rest hjoins [] rfl
      change logicalLinesFrom number 0 (first :: (joined ++ rest)) = _
      rw [List.nil_append] at hjoin
      rw [logicalLinesFrom, if_neg hskip, hjoin]
      simp only [logicalLinesFrom_append, ih]
      rw [Nat.add_right_comm]
      rfl

/-! ## Where the groups are -/

/-- No lines are in front of the first group. -/
theorem linesBefore_zero (groups : List LineGroup) : linesBefore groups 0 = 0 := rfl

/-- The lines of the first group are in front of all others. -/
theorem linesBefore_succ (group : LineGroup) (groups : List LineGroup) (place : Nat) :
    linesBefore (group :: groups) (place + 1) =
      group.lines.length + linesBefore groups place := by
  rw [linesBefore, List.take_succ_cons, List.flatMap_cons, List.length_append]
  rfl

/-- In front of a later group are at least as many lines. -/
theorem linesBefore_mono (groups : List LineGroup) {place other : Nat} (h : place ≤ other) :
    linesBefore groups place ≤ linesBefore groups other := by
  obtain ⟨more, hmore⟩ := List.take_prefix_take_left (l := groups) h
  rw [linesBefore, linesBefore, ← hmore, List.flatMap_append, List.length_append]
  exact Nat.le_add_right _ _

/-- Every line belongs to one group. -/
theorem existsUnique_place {groups : List LineGroup} {index : Nat}
    (h : index < (groups.flatMap LineGroup.lines).length) :
    ∃! place, linesBefore groups place ≤ index ∧ index < linesBefore groups (place + 1) := by
  refine existsUnique_of_exists_of_unique ?_ ?_
  · induction groups generalizing index with
    | nil => cases h
    | cons group groups ih =>
      by_cases hfirst : index < group.lines.length
      · refine ⟨0, Nat.zero_le _, ?_⟩
        rwa [linesBefore_succ, linesBefore_zero]
      · rw [List.flatMap_cons, List.length_append] at h
        obtain ⟨place, hlow, hhigh⟩ := @ih (index - group.lines.length) (by omega)
        refine ⟨place + 1, ?_, ?_⟩
        · rw [linesBefore_succ]
          omega
        · rw [linesBefore_succ]
          omega
  · have hle {place other : Nat} (hlow : linesBefore groups other ≤ index)
        (hhigh : index < linesBefore groups (place + 1)) : other ≤ place := by
      by_contra hlt
      have hmono := linesBefore_mono groups (Nat.succ_le_of_lt (Nat.lt_of_not_le hlt))
      exact Nat.lt_irrefl index (hhigh.trans_le (hmono.trans hlow))
    rintro place other ⟨hlow, hhigh⟩ ⟨hlow', hhigh'⟩
    exact Nat.le_antisymm (hle hlow hhigh') (hle hlow' hhigh)

/-- The logical lines of groups are the entries among them. -/
theorem mem_logicalOf {number : Nat} {groups : List LineGroup} {found : LogicalLine} :
    found ∈ logicalOf number groups ↔ ∃ place first joined,
      groups[place]? = some (.entry first joined) ∧
        found.number = number + linesBefore groups place ∧
          found.text = (first :: joined).flatMap lineText := by
  induction groups generalizing number with
  | nil => simp [logicalOf]
  | cons group groups ih =>
    rw [logicalOf, List.mem_append, ih, Option.mem_toList]
    constructor
    · rintro (hfirst | ⟨place, first, joined, hplace, hnumber, htext⟩)
      · cases group with
        | skipped => cases hfirst
        | entry first joined =>
          obtain rfl := Option.some.inj hfirst
          exact ⟨0, first, joined, rfl, rfl, rfl⟩
      · refine ⟨place + 1, first, joined, hplace, ?_, htext⟩
        rw [hnumber, linesBefore_succ, Nat.add_assoc]
    · rintro ⟨place, first, joined, hplace, hnumber, htext⟩
      cases place with
      | zero =>
        obtain rfl := Option.some.inj hplace
        obtain ⟨_, _⟩ := found
        obtain rfl : _ = number := hnumber
        obtain rfl := htext
        exact .inl rfl
      | succ place =>
        refine .inr ⟨place, first, joined, hplace, ?_, htext⟩
        rw [hnumber, linesBefore_succ, Nat.add_assoc]

/-- The logical lines of groups have increasing numbers. -/
theorem pairwise_logicalOf (number : Nat) (groups : List LineGroup) :
    (logicalOf number groups).Pairwise fun a b => a.number < b.number := by
  induction groups generalizing number with
  | nil => exact .nil
  | cons group groups ih =>
    cases group with
    | skipped => exact ih _
    | entry first joined =>
      refine .cons (fun later hlater => ?_) (ih _)
      obtain ⟨place, -, -, -, hnumber, -⟩ := mem_logicalOf.1 hlater
      have hpos := (LineGroup.entry first joined).length_lines_pos
      change number < later.number
      omega

/-! ## The whole file -/

/-- What is expected of logical lines, whose physical lines fall into groups. -/
structure ByLine (physical : List (List Char)) (groups : List LineGroup)
    (logical : List LogicalLine) : Prop where
  /-- Each line by itself decides whether it is skipped, if it starts a group, and whether the next
  line belongs to the same entry, if it belongs to one. -/
  grouped : Grouped groups physical
  /-- This leaves one way to divide the lines. -/
  unique : ∀ others, Grouped others physical → others = groups
  /-- The groups are the lines, in their order. -/
  lines_eq : groups.flatMap LineGroup.lines = physical
  /-- Every line belongs to exactly one group. -/
  once : ∀ index < physical.length,
    ∃! place, linesBefore groups place ≤ index ∧ index < linesBefore groups (place + 1)
  /-- The logical lines are the groups of entries. Each has the number of its first line, and a text
  that its lines add to by themselves. -/
  mem_iff : ∀ found, found ∈ logical ↔ ∃ place first joined,
    groups[place]? = some (.entry first joined) ∧ found.number = linesBefore groups place + 1 ∧
      found.text = (first :: joined).flatMap lineText
  /-- Their numbers increase. -/
  increasing : logical.Pairwise fun a b => a.number < b.number

/-- Each physical line decides by itself what becomes of it in the logical lines of a file. -/
theorem logicalLines_byLine (file : List Char) :
    ∃ groups, ByLine (lines file) groups (logicalLines file) := by
  obtain ⟨groups, hgrouped⟩ := exists_grouped (lines file)
  have hlogical : logicalLines file = logicalOf 1 groups := hgrouped.logicalLinesFrom_eq 1
  refine ⟨groups, ?_⟩
  constructor
  case grouped => exact hgrouped
  case unique => exact fun others hothers => hothers.unique hgrouped
  case lines_eq => exact hgrouped.lines_eq
  case once =>
    intro index hindex
    rw [← hgrouped.lines_eq] at hindex
    exact existsUnique_place hindex
  case mem_iff =>
    intro found
    rw [hlogical, mem_logicalOf]
    simp only [Nat.add_comm 1]
  case increasing => exact hlogical ▸ pairwise_logicalOf 1 groups

-- Of the first line two backslashes are left over, which then stand in front of that of the second.
-- The comment is skipped without the line behind it.
example : logicalLines "a\\\\\\\n\\\n  b\n!\\\nc".toList =
    [⟨1, "a\\\\b".toList⟩, ⟨5, "c".toList⟩] := by
  decide

end ShaderPipeline.SlotFile
