import Mathlib.Data.List.Induction
import ShaderPipeline.Proofs.SlotFile.Offences
import ShaderPipeline.Proofs.Text.Ends
import ShaderPipeline.Proofs.Text.Lines

/-!
# Written slot files

How slot tables are written as a file: an entry for each named slot, in any order, with passed-over
lines in between. There is much freedom in an entry. It can be indented, it has one of several
separators, and its name can be broken into several lines, in front of any character that is not
blank and not the second one of an escape. The name is escaped, so that it can have backslashes and
line breaks and can start like a separator.

Each part of the writing is read back by the part of the reader that is made for it: lines are
joined (`Wrapped.joinLines_eq`), a key ends at its separator (`splitKey_key`), blanks go
(`afterSeparator_separator`) and escapes are replaced (`unescape_pieces`).
-/

namespace ShaderPipeline.SlotFile

open Text

/-! ## The writing -/

/-- A character of a name with its escape. -/
def escaped : Char → List Char
  | '\\' => ['\\', '\\']
  | '\n' => ['\\', 'n']
  | '\r' => ['\\', 'r']
  | c => [c]

/-- The first character of a name with its escape. Other blanks and separators have one here. -/
def escapedFirst (c : Char) : List Char :=
  if (isBlank c ∧ c ≠ '\n' ∧ c ≠ '\r') ∨ c = '=' ∨ c = ':' then ['\\', c] else escaped c

/-- The pieces of a name that are not broken: single characters and escapes. -/
def pieces : List Char → List (List Char)
  | [] => []
  | first :: rest => escapedFirst first :: rest.map escaped

/-- Pieces are written into lines: into the rest of one line and more lines. In front of a piece
that does not start with a blank there can be a break, which is a backslash and an indented line. -/
inductive Wrapped : List (List Char) → List Char → List (List Char) → Prop
  | nil : Wrapped [] [] []
  | piece {piece line : List Char} {more rest : List (List Char)}
      (hrest : Wrapped rest line more) : Wrapped (piece :: rest) (piece ++ line) more
  | broken {first : Char} {piece line indent : List Char} {more rest : List (List Char)}
      (hindent : ∀ c ∈ indent, isBlank c = true) (hfirst : isBlank first = false)
      (hrest : Wrapped ((first :: piece) :: rest) line more) :
      Wrapped ((first :: piece) :: rest) ['\\'] ((indent ++ line) :: more)

/-- What can separate a key from a name. -/
inductive Separator : List Char → Prop
  | mark {before after : List Char} {mark : Char} (hmark : mark = '=' ∨ mark = ':')
      (hbefore : ∀ c ∈ before, isBlank c = true) (hafter : ∀ c ∈ after, isBlank c = true) :
      Separator (before ++ mark :: after)
  | blanks {blanks : List Char} (hne : blanks ≠ []) (hblanks : ∀ c ∈ blanks, isBlank c = true) :
      Separator blanks

/-- The name of a slot. -/
structure SlotName where
  kind : SlotKind
  slot : Nat
  name : String
deriving DecidableEq

/-- The key of a slot. -/
def SlotName.key (named : SlotName) : List Char :=
  keyStart named.kind ++ Nat.toDigits 10 named.slot

/-- The lines of an entry. -/
inductive EntryLines (named : SlotName) : List (List Char) → Prop
  | mk {indent separator line : List Char} {more : List (List Char)}
      (hindent : ∀ c ∈ indent, isBlank c = true) (hseparator : Separator separator)
      (hname : Wrapped (pieces named.name.toList) line more) :
      EntryLines named ((indent ++ (named.key ++ (separator ++ line))) :: more)

/-- A line that is passed over: a blank one, a comment, or a line with a key of something else that
does not ask for the next line. -/
inductive PassedOver : List Char → Prop
  | blank {line : List Char} (hblank : ∀ c ∈ line, isBlank c = true) : PassedOver line
  | comment {indent rest : List Char} {mark : Char} (hindent : ∀ c ∈ indent, isBlank c = true)
      (hmark : mark = '#' ∨ mark = '!') : PassedOver (indent ++ mark :: rest)
  | other {line : List Char}
      (hkey : ∀ kind ≠ SlotKind.output, ¬keyStart kind <+: (splitKey (trimStart line)).1)
      (hend : isContinued line = false) : PassedOver line

/-- Lines with one entry for each of some names, in their order. -/
inductive Layout : List SlotName → List (List Char) → Prop
  | nil : Layout [] []
  | passedOver {names : List SlotName} {line : List Char} {more : List (List Char)}
      (hline : PassedOver line) (hmore : Layout names more) : Layout names (line :: more)
  | entry {named : SlotName} {names : List SlotName} {own more : List (List Char)}
      (hown : EntryLines named own) (hmore : Layout names more) :
      Layout (named :: names) (own ++ more)

/-- The named slots of a kind. -/
def SlotTables.namedOf (tables : SlotTables) (kind : SlotKind) : List SlotName :=
  (tables.table kind).zipIdx.filterMap fun (name?, slot) => name?.map fun name => ⟨kind, slot, name⟩

/-- The named slots of tables. -/
def SlotTables.named (tables : SlotTables) : List SlotName :=
  tables.namedOf .attribute ++ tables.namedOf .uniform

/-- A file is written for tables: it has one entry for each named slot, in any order. -/
def Written (tables : SlotTables) (file : String) : Prop :=
  ∃ names lines, names.Perm tables.named ∧ Layout names lines ∧ MadeOf lines file.toList

/-! ## Backslashes at the end -/

/-- The backslashes at the end of a text with one more character. -/
theorem trailingBackslashes_concat (text : List Char) (c : Char) :
    trailingBackslashes (text ++ [c]) =
      if c = '\\' then trailingBackslashes text + 1 else 0 := by
  unfold trailingBackslashes
  rw [List.reverse_append, List.reverse_singleton, List.singleton_append, List.takeWhile_cons]
  by_cases hc : c = '\\' <;> simp [hc]

/-- A further backslash changes whether a line goes on. -/
theorem isContinued_backslash (text : List Char) :
    isContinued (text ++ ['\\']) = !isContinued text := by
  unfold isContinued
  rw [trailingBackslashes_concat, if_pos rfl]
  rcases Nat.mod_two_eq_zero_or_one (trailingBackslashes text) with h | h <;> simp [h, Nat.add_mod]

/-- With another character at its end a line does not go on. -/
theorem isContinued_concat {c : Char} (hc : c ≠ '\\') (text : List Char) :
    isContinued (text ++ [c]) = false := by
  unfold isContinued
  rw [trailingBackslashes_concat, if_neg hc]
  rfl

/-- A text without a backslash does not go on. -/
theorem isContinued_of_not_mem {text : List Char} (h : '\\' ∉ text) : isContinued text = false := by
  rcases List.eq_nil_or_concat' text with rfl | ⟨front, last, rfl⟩
  · rfl
  · refine isContinued_concat ?_ front
    rintro rfl
    exact h (List.mem_append_right front List.mem_cons_self)

/-- Behind a text that does not go on, a text goes on as it does alone. -/
theorem isContinued_append {front : List Char} (hfront : isContinued front = false)
    (back : List Char) : isContinued (front ++ back) = isContinued back := by
  induction back using List.reverseRecOn with
  | nil =>
    rw [List.append_nil, hfront]
    rfl
  | append_singleton back last ih =>
    rw [← List.append_assoc]
    by_cases hlast : last = '\\'
    · rw [hlast, isContinued_backslash, isContinued_backslash, ih]
    · rw [isContinued_concat hlast, isContinued_concat hlast]

/-- Blanks at the start of a line do not matter for whether it goes on. -/
theorem isContinued_trimStart (line : List Char) :
    isContinued (trimStart line) = isContinued line := by
  have hblank : '\\' ∉ line.takeWhile isBlank := fun hmem =>
    absurd (List.mem_takeWhile_imp hmem) (by decide)
  rw [trimStart, ← isContinued_append (isContinued_of_not_mem hblank),
    List.takeWhile_append_dropWhile]

/-- A piece of a name behind a line that does not go on gives such a line again. -/
def Whole (piece : List Char) : Prop :=
  ∀ text, isContinued text = false → isContinued (text ++ piece) = false

/-- A piece is whole if it does not go on by itself. -/
theorem whole_of_isContinued {piece : List Char} (h : isContinued piece = false) : Whole piece :=
  fun _ htext => (isContinued_append htext piece).trans h

/-- An escaped character is whole. -/
theorem whole_escaped (c : Char) : Whole (escaped c) := by
  refine whole_of_isContinued ?_
  unfold escaped
  split
  · rfl
  · rfl
  · rfl
  · rename_i hc _ _
    exact isContinued_concat hc []

/-- The first character that is escaped is whole. -/
theorem whole_escapedFirst (c : Char) : Whole (escapedFirst c) := by
  unfold escapedFirst
  split
  · rename_i hc
    refine whole_of_isContinued (isContinued_concat ?_ ['\\'])
    rintro rfl
    revert hc
    decide
  · exact whole_escaped c

/-- The pieces of a name are whole. -/
theorem whole_of_mem_pieces {name piece : List Char} (h : piece ∈ pieces name) : Whole piece := by
  cases name with
  | nil => cases h
  | cons first rest =>
    rcases List.mem_cons.1 h with rfl | hrest
    · exact whole_escapedFirst first
    · obtain ⟨c, -, rfl⟩ := List.mem_map.1 hrest
      exact whole_escaped c

/-! ## Joining lines -/

/-- Nothing is joined to a line that does not go on. -/
theorem joinLines_of_not {text : List Char} (h : isContinued text = false)
    (lines : List (List Char)) : joinLines text lines = (text, 0) := by
  cases lines <;> simp [joinLines, h]

/-- A line behind a break starts with no blank but its indent. -/
theorem Wrapped.head?_line {first : Char} {piece line : List Char} {rest more : List (List Char)}
    (h : Wrapped ((first :: piece) :: rest) line more) (hfirst : isBlank first = false) :
    ∀ c ∈ line.head?, isBlank c = false := by
  intro c hc
  cases h with
  | piece =>
    obtain rfl := Option.some.inj hc
    exact hfirst
  | broken =>
    obtain rfl := Option.some.inj hc
    decide

/-- Lines are joined to all pieces that were written into them, whatever lines follow. -/
theorem Wrapped.joinLines_eq {written more : List (List Char)} {line : List Char}
    (h : Wrapped written line more) (hwhole : ∀ piece ∈ written, Whole piece) {front : List Char}
    (hfront : isContinued front = false) (following : List (List Char)) :
    joinLines (front ++ line) (more ++ following) = (front ++ written.flatten, more.length) := by
  -- What was joined so far grows with each piece; it never ends in half an escape, so the backslash
  -- of a break is the only one that asks for the next line.
  induction h generalizing front with
  | nil => exact joinLines_of_not (by simpa using hfront) following
  | @piece piece line more rest _ ih =>
    rw [List.forall_mem_cons] at hwhole
    rw [← List.append_assoc, ih hwhole.2 (hwhole.1 front hfront), List.flatten_cons,
      List.append_assoc]
  | @broken first piece line indent more rest hindent hfirst hrest ih =>
    have hgoes : isContinued (front ++ ['\\']) = true := by
      rw [isContinued_backslash, hfront]
      rfl
    have htrim : trimStart (indent ++ line) = line :=
      dropWhile_run hindent (hrest.head?_line hfirst)
    rw [List.cons_append, joinLines, if_pos hgoes, List.dropLast_concat, htrim, ih hwhole hfront]
    rfl

/-! ## Keys and separators -/

/-- The key of a line that starts with no escape. -/
theorem splitKey_cons {c : Char} (hc : c ≠ '\\') (rest : List Char) :
    splitKey (c :: rest) =
      if endsKey c then ([], c :: rest) else (c :: (splitKey rest).1, (splitKey rest).2) := by
  rw [splitKey.eq_def]
  split
  · rename_i heq
    cases heq
  · rename_i heq
    exact absurd (List.cons.inj heq).1 hc
  · rename_i heq
    exact absurd (List.cons.inj heq).1 hc
  · rename_i heq
    obtain ⟨rfl, rfl⟩ := List.cons.inj heq
    rfl

/-- A key without escapes ends at its separator. -/
theorem splitKey_key {key rest : List Char} (hkey : ∀ c ∈ key, c ≠ '\\' ∧ endsKey c = false)
    (hrest : ∀ c ∈ rest.head?, endsKey c = true) : splitKey (key ++ rest) = (key, rest) := by
  induction key with
  | nil =>
    cases rest with
    | nil => rfl
    | cons c rest =>
      have hends : endsKey c = true := hrest c rfl
      have hc : c ≠ '\\' := by
        rintro rfl
        exact absurd hends (by decide)
      rw [List.nil_append, splitKey_cons hc, if_pos hends]
  | cons c key ih =>
    rw [List.forall_mem_cons] at hkey
    obtain ⟨⟨hc, hends⟩, hkey⟩ := hkey
    rw [List.cons_append, splitKey_cons hc, hends, ih hkey]
    rfl

/-- A digit is part of a key. -/
theorem endsKey_of_isDigit {c : Char} (h : c.isDigit = true) : c ≠ '\\' ∧ endsKey c = false := by
  have hrange : 48 ≤ c.toNat ∧ c.toNat ≤ 57 := Char.isDigit_iff_toNat.1 h
  have hne (d : Char) (hd : d.toNat < 48 ∨ 57 < d.toNat) : c ≠ d := by
    rintro rfl
    omega
  have hblank : isBlank c = false := by
    simp only [isBlank, Bool.or_eq_false_iff, Bool.and_eq_false_iff, decide_eq_false_iff_not,
      beq_eq_false_iff_ne]
    omega
  refine ⟨hne _ (by decide), ?_⟩
  simp [endsKey, hblank, hne '=' (by decide), hne ':' (by decide)]

/-- The key of a slot has no escapes and no separators. -/
theorem SlotName.mem_key {named : SlotName} : ∀ c ∈ named.key, c ≠ '\\' ∧ endsKey c = false := by
  have hstart (kind : SlotKind) : (keyStart kind).all (fun c => c != '\\' && !endsKey c) = true := by
    cases kind <;> decide
  intro c hc
  rcases List.mem_append.1 hc with hc | hc
  · simpa using List.all_eq_true.1 (hstart named.kind) c hc
  · exact endsKey_of_isDigit (Nat.isDigit_of_mem_toDigits (by decide) (by decide) hc)

/-- A separator is not empty. -/
theorem Separator.ne_nil {separator : List Char} (h : Separator separator) : separator ≠ [] := by
  cases h with
  | mark => exact List.append_ne_nil_of_right_ne_nil _ (List.cons_ne_nil _ _)
  | blanks hne _ => exact hne

/-- A separator ends a key, each of its characters would. -/
theorem Separator.endsKey {separator : List Char} (h : Separator separator) :
    ∀ c ∈ separator, endsKey c = true := by
  have hblank {c : Char} (hc : isBlank c = true) : SlotFile.endsKey c = true := by
    simp [SlotFile.endsKey, hc]
  intro c hc
  cases h with
  | mark hmark hbefore hafter =>
    rcases List.mem_append.1 hc with hc | hc
    · exact hblank (hbefore c hc)
    · rcases List.mem_cons.1 hc with rfl | hc
      · rcases hmark with rfl | rfl <;> decide
      · exact hblank (hafter c hc)
  | blanks _ hblanks => exact hblank (hblanks c hc)

/-- A key is split from the separator behind it. -/
theorem SlotName.splitKey_eq (named : SlotName) {separator : List Char}
    (h : Separator separator) (rest : List Char) :
    splitKey (named.key ++ (separator ++ rest)) = (named.key, separator ++ rest) := by
  refine splitKey_key mem_key fun c hc => h.endsKey c ?_
  rw [List.head?_append_of_ne_nil _ h.ne_nil] at hc
  exact List.mem_of_mem_head? hc

/-- A key and a separator do not ask for the next line. -/
theorem SlotName.isContinued_eq (named : SlotName) {separator : List Char}
    (h : Separator separator) : isContinued (named.key ++ separator) = false := by
  refine isContinued_of_not_mem fun hmem => ?_
  rcases List.mem_append.1 hmem with hkey | hseparator
  · exact (mem_key _ hkey).1 rfl
  · exact absurd (h.endsKey _ hseparator) (by decide)

/-- Behind a separator stands a value that does not start like one. -/
theorem afterSeparator_separator {separator value : List Char} (h : Separator separator)
    (hvalue : ∀ c ∈ value.head?, endsKey c = false) :
    afterSeparator (separator ++ value) = value := by
  have hblank : ∀ c ∈ value.head?, isBlank c = false := fun c hc => by
    have := hvalue c hc
    simp_all [endsKey]
  cases h with
  | @mark before after mark hmark hbefore hafter =>
    have hmarkBlank : isBlank mark = false := by
      rcases hmark with rfl | rfl <;> decide
    have htrim : trimStart (before ++ mark :: (after ++ value)) = mark :: (after ++ value) :=
      dropWhile_run hbefore fun c hc => Option.some.inj hc ▸ hmarkBlank
    simp only [List.append_assoc, List.cons_append, afterSeparator, htrim, Bool.or_eq_true,
      decide_eq_true_eq, if_pos hmark]
    exact dropWhile_run hafter hblank
  | blanks _ hblanks =>
    rw [afterSeparator, trimStart, dropWhile_run hblanks hblank]
    cases value with
    | nil => rfl
    | cons c value =>
      have hends := hvalue c rfl
      have hmark : ¬(c = '=' ∨ c = ':') := by
        rintro (rfl | rfl) <;> exact absurd hends (by decide)
      simp only [Bool.or_eq_true, decide_eq_true_eq, if_neg hmark]

/-! ## Escapes -/

/-- Text that starts with no escape. -/
theorem unescape_cons {c : Char} (hc : c ≠ '\\') (rest : List Char) :
    unescape (c :: rest) = c :: unescape rest := by
  rw [unescape.eq_def]
  split
  · rename_i heq
    cases heq
  · rename_i heq
    exact absurd (List.cons.inj heq).1 hc
  · rename_i heq
    exact absurd (List.cons.inj heq).1 hc
  · rename_i heq
    obtain ⟨rfl, rfl⟩ := List.cons.inj heq
    rfl

/-- A character with its escape stands for the character. -/
theorem unescape_escaped (c : Char) (rest : List Char) :
    unescape (escaped c ++ rest) = c :: unescape rest := by
  unfold escaped
  split
  · rfl
  · rfl
  · rfl
  · rename_i hc _ _
    exact unescape_cons hc rest

/-- Only letters stand for something else with a backslash. -/
theorem unescaped_eq_self {c : Char} (hc : isBlank c = true ∨ c = '=' ∨ c = ':') :
    unescaped c = c := by
  unfold unescaped
  split <;> first | rfl | exact absurd hc (by decide)

/-- The first character with its escape stands for the character. -/
theorem unescape_escapedFirst (c : Char) (rest : List Char) :
    unescape (escapedFirst c ++ rest) = c :: unescape rest := by
  unfold escapedFirst
  split
  · rename_i hc
    exact congrArg (· :: unescape rest) (unescaped_eq_self (hc.imp_left And.left))
  · exact unescape_escaped c rest

/-- The pieces of a name stand for the name. -/
theorem unescape_pieces (name : List Char) : unescape (pieces name).flatten = name := by
  cases name with
  | nil => rfl
  | cons first rest =>
    have hrest : unescape (rest.map escaped).flatten = rest := by
      induction rest with
      | nil => rfl
      | cons c rest ih => rw [List.map_cons, List.flatten_cons, unescape_escaped, ih]
    rw [pieces, List.flatten_cons, unescape_escapedFirst, hrest]

/-- The pieces of a name do not start like a separator. -/
theorem endsKey_head_pieces (name : List Char) :
    ∀ c ∈ (pieces name).flatten.head?, endsKey c = false := by
  cases name with
  | nil => nofun
  | cons first rest =>
    intro c hc
    rw [pieces, List.flatten_cons] at hc
    unfold escapedFirst escaped at hc
    split at hc
    · obtain rfl := Option.some.inj hc
      decide
    · rename_i hfirst
      split at hc
      all_goals obtain rfl := Option.some.inj hc
      · decide
      · decide
      · decide
      · simp_all [endsKey]

/-! ## A plain file -/

/-- The line of an entry without any of the freedom: the key, `=` and the name. -/
def SlotName.line (named : SlotName) : List Char :=
  named.key ++ (['='] ++ (pieces named.name.toList).flatten)

/-- The plain file for tables. -/
def SlotTables.plainFile (tables : SlotTables) : String :=
  String.ofList ((tables.named.map SlotName.line).flatMap (· ++ ['\n']))

/-- Pieces can be written into one line. -/
theorem wrapped_flatten (written : List (List Char)) : Wrapped written written.flatten [] := by
  induction written with
  | nil => exact .nil
  | cons piece rest ih => exact .piece ih

/-- The plain lines are a layout. -/
theorem layout_map_line (names : List SlotName) : Layout names (names.map SlotName.line) := by
  induction names with
  | nil => exact .nil
  | cons named names ih =>
    have hseparator : Separator ['='] := @Separator.mark [] [] '=' (.inl rfl) nofun nofun
    have hentry : EntryLines named [named.line] :=
      @EntryLines.mk named [] ['='] _ [] nofun hseparator (wrapped_flatten _)
    exact .entry hentry ih

/-- An escaped character has no line break. -/
theorem not_break_of_mem_escaped {first c : Char} (h : c ∈ escaped first) :
    c ≠ '\n' ∧ c ≠ '\r' := by
  unfold escaped at h
  split at h
  case h_4 hfeed hreturn =>
    rw [List.mem_singleton.1 h]
    exact ⟨hfeed, hreturn⟩
  all_goals rcases List.mem_pair.1 h with rfl | rfl <;> decide

/-- The pieces of a name have no line break. -/
theorem not_break_of_mem_pieces {name : List Char} {c : Char} (h : c ∈ (pieces name).flatten) :
    c ≠ '\n' ∧ c ≠ '\r' := by
  cases name with
  | nil => cases h
  | cons first rest =>
    rw [pieces, List.flatten_cons, List.mem_append] at h
    rcases h with hfirst | hrest
    · unfold escapedFirst at hfirst
      split at hfirst
      · rename_i hc
        rw [List.mem_pair] at hfirst
        rcases hfirst with rfl | rfl
        · decide
        · rcases hc with ⟨-, hfeed, hreturn⟩ | rfl | rfl
          · exact ⟨hfeed, hreturn⟩
          · decide
          · decide
      · exact not_break_of_mem_escaped hfirst
    · obtain ⟨piece, hpiece, hc⟩ := List.mem_flatten.1 hrest
      obtain ⟨d, -, rfl⟩ := List.mem_map.1 hpiece
      exact not_break_of_mem_escaped hc

/-- A plain line has no line break. -/
theorem SlotName.not_break_of_mem_line {named : SlotName} {c : Char} (h : c ∈ named.line) :
    c ≠ '\n' ∧ c ≠ '\r' := by
  rcases List.mem_append.1 h with hkey | hrest
  · have hends := (mem_key c hkey).2
    constructor
    · rintro rfl
      exact absurd hends (by decide)
    · rintro rfl
      exact absurd hends (by decide)
  · rcases List.mem_append.1 hrest with hmark | hname
    · rw [List.mem_singleton.1 hmark]
      decide
    · exact not_break_of_mem_pieces hname

/-- The plain file is written for the tables. -/
theorem written_plainFile (tables : SlotTables) : Written tables tables.plainFile := by
  refine ⟨tables.named, _, .refl _, layout_map_line _, ?_⟩
  rw [SlotTables.plainFile, String.toList_ofList]
  refine madeOf_flatMap fun line hline c hc => ?_
  obtain ⟨named, -, rfl⟩ := List.mem_map.1 hline
  exact SlotName.not_break_of_mem_line hc

end ShaderPipeline.SlotFile
