import ShaderPipeline.Proofs.SlotFile.ReadBack

/-!
# The first offence and the last names

A slot file is read as a fold over its entries that stops at the first entry there is something to
object to. `Offends` says what that is without reading: the number text is no number, the number is
not that of a slot, or the name is empty. `ofFile_firstOffence` puts the two ends of the fold
together: the file has the error of the first offending entry, whatever stands elsewhere in it, or
else at every slot the name of the last entry for it.

The error names the physical line on which its entry starts. That number is right because a logical
line takes exactly the lines that were joined to it (`exists_line_of_entries`).
-/

namespace ShaderPipeline.SlotFile

open Text Decimal

/-! ## What there is to object to an entry -/

/-- The key of an entry names a slot of a kind by a number text. -/
structure Entry.Names (entry : Entry) (kind : SlotKind) (number : List Char) : Prop where
  kind_ne : kind ≠ .output
  key_eq : entry.key = keyStart kind ++ number
  no_feed : '\n' ∉ number

/-- A text is a number. -/
def IsNumber (number : List Char) : Prop := number ≠ [] ∧ ∀ c ∈ number, c.isDigit = true

/-- The number that a message shows: the greatest number of 64 bits stands for larger ones. -/
def shown (value : Nat) : Nat := if value < UInt64.size then value else UInt64.size - 1

/-- What there is to object to an entry that names a slot. -/
inductive Entry.Offends (entry : Entry) : SlotFileError → Prop
  | invalidSlot {kind : SlotKind} {number : List Char} (hnames : entry.Names kind number)
      (hnumber : ¬ IsNumber number) :
      Offends entry (.invalidSlot entry.line (String.ofList entry.key))
  | slotOutOfRange {kind : SlotKind} {number : List Char} (hnames : entry.Names kind number)
      (hnumber : IsNumber number) (hrange : kind.capacity ≤ digitsValue number) :
      Offends entry (.slotOutOfRange entry.line (String.ofList entry.key)
        (shown (digitsValue number)) (kind.capacity - 1))
  | emptyName {kind : SlotKind} {number : List Char} (hnames : entry.Names kind number)
      (hnumber : IsNumber number) (hrange : digitsValue number < kind.capacity)
      (hname : entry.value = []) : Offends entry (.emptyName entry.line (String.ofList entry.key))

variable {tables : SlotTables} {entry : Entry} {kind : SlotKind} {number : List Char}

/-- The key is read as the entry names its slot. -/
theorem Entry.names_iff : entry.Names kind number ↔ slotKey? entry.key = some (kind, number) := by
  rw [slotKey?_eq_some_iff]
  constructor
  · rintro ⟨hkind, hkey, hfeed⟩
    exact ⟨hkind, hkey, hfeed⟩
  · rintro ⟨hkind, hkey, hfeed⟩
    exact ⟨hkind, hkey, hfeed⟩

/-- What is no number is not read as one. -/
theorem natural?_eq_none_iff : natural? number = none ↔ ¬ IsNumber number := by
  rw [Option.eq_none_iff_forall_ne_some]
  constructor
  · intro hnone hnumber
    exact hnone (digitsValue number) (natural?_eq_some_iff.2 ⟨hnumber.1, hnumber.2, rfl⟩)
  · intro hnumber value hvalue
    obtain ⟨hne, hdigits, -⟩ := natural?_eq_some_iff.1 hvalue
    exact hnumber ⟨hne, hdigits⟩

/-- The number that is shown has at most 64 bits. -/
theorem min_greatestShown (value : Nat) : min value greatestShown = shown value := by
  have hpositive : 0 < UInt64.size := by decide
  unfold greatestShown shown
  split <;> omega

/-- An entry there is something to object to is refused with that, whatever was read before. -/
theorem Entry.Offends.addEntry_eq {e : SlotFileError} (h : entry.Offends e) :
    addEntry tables entry = .error e := by
  cases h with
  | invalidSlot hnames hnumber =>
    rw [addEntry, Entry.names_iff.1 hnames]
    simp only [slotNumber, natural?_eq_none_iff.2 hnumber]
    rfl
  | @slotOutOfRange kind number hnames hnumber hrange =>
    have hvalue := natural?_eq_some_iff.2 ⟨hnumber.1, hnumber.2, rfl⟩
    rw [addEntry, Entry.names_iff.1 hnames]
    simp only [slotNumber, hvalue, if_neg (Nat.not_lt.2 hrange), min_greatestShown]
    rfl
  | @emptyName kind number hnames hnumber hrange hname =>
    have hvalue := natural?_eq_some_iff.2 ⟨hnumber.1, hnumber.2, rfl⟩
    rw [addEntry, Entry.names_iff.1 hnames]
    simp only [slotNumber, hvalue, if_pos hrange, hname]
    rfl

/-- An entry that names a slot without offence names it by a number, and has a name for it. -/
theorem Entry.Names.valid (hnames : entry.Names kind number) (h : ∀ e, ¬ entry.Offends e) :
    IsNumber number ∧ digitsValue number < kind.capacity ∧ entry.value ≠ [] := by
  have hnumber : IsNumber number := by
    by_contra hno
    exact h _ (.invalidSlot hnames hno)
  have hrange : digitsValue number < kind.capacity := by
    by_contra hlarge
    exact h _ (.slotOutOfRange hnames hnumber (Nat.not_lt.1 hlarge))
  exact ⟨hnumber, hrange, fun hname => h _ (.emptyName hnames hnumber hrange hname)⟩

/-- An entry there is nothing to object to is read, whatever was read before. -/
theorem exists_addEntry_ok (h : ∀ e, ¬ entry.Offends e) (tables : SlotTables) :
    ∃ after, addEntry tables entry = .ok after := by
  cases hkey : slotKey? entry.key with
  | none => exact ⟨tables, addEntry_of_none hkey⟩
  | some found =>
    obtain ⟨hnumber, hrange, hname⟩ := (Entry.names_iff.2 hkey).valid h
    exact ⟨_, (addEntry_eq_ok_iff hkey).2 ⟨⟨hnumber.1, hnumber.2, hrange, hname⟩, rfl⟩⟩

/-- An entry without offence is for the slot that it names. -/
theorem Entry.slot?_eq_some_iff (h : ∀ e, ¬ entry.Offends e) {slot : Nat} :
    entry.slot? = some (kind, slot) ↔
      ∃ number, entry.Names kind number ∧ digitsValue number = slot := by
  constructor
  · intro hslot
    obtain ⟨⟨other, number⟩, hkey, hvalue⟩ := Option.bind_eq_some_iff.1 hslot
    obtain ⟨value, hnumber, heq⟩ := Option.map_eq_some_iff.1 hvalue
    obtain ⟨rfl, rfl⟩ := Prod.mk.inj heq
    exact ⟨number, Entry.names_iff.2 hkey, (natural?_eq_some_iff.1 hnumber).2.2⟩
  · rintro ⟨number, hnames, rfl⟩
    obtain ⟨hnumber, -, -⟩ := hnames.valid h
    exact slot?_of_number (Entry.names_iff.1 hnames)
      (natural?_eq_some_iff.2 ⟨hnumber.1, hnumber.2, rfl⟩)

/-! ## The line on which an entry starts -/

/-- Lines that are not joined make no difference to those that are. -/
theorem joinLines_append {text joined : List Char} {own : List (List Char)} {next : List Char}
    {rest : List (List Char)} {count : Nat}
    (h : joinLines text (own ++ next :: rest) = (joined, count)) (hcount : count ≤ own.length) :
    joinLines text own = (joined, count) := by
  induction own generalizing text count with
  | nil =>
    rw [List.nil_append, joinLines] at h
    rw [joinLines]
    split at h
    · -- a line was joined, although there is none to be joined
      obtain ⟨-, rfl⟩ := Prod.mk.inj h
      simp at hcount
    · rename_i hstop
      rw [if_neg hstop, h]
  | cons first own ih =>
    rw [List.cons_append, joinLines] at h
    rw [joinLines]
    split at h
    · rename_i hgoes
      obtain ⟨rfl, rfl⟩ := Prod.mk.inj h
      rw [if_pos hgoes, ih (Prod.ext rfl rfl) (Nat.le_of_succ_le_succ hcount)]
    · rename_i hstop
      rw [if_neg hstop, h]

/-- A logical line starts on the physical line that it has the number of: those before it come from
the lines before, and it and those after it come from the lines from there on. -/
theorem exists_line_of_logicalLines {number joined : Nat} {physical : List (List Char)}
    {front back : List LogicalLine} {found : LogicalLine}
    (h : logicalLinesFrom number joined physical = front ++ found :: back) :
    ∃ before line after, physical = before ++ line :: after ∧ joined ≤ before.length ∧
      found.number = number + before.length ∧ isSkipped line = false ∧
      logicalLinesFrom number joined before = front ∧
      logicalLinesFrom found.number 0 (line :: after) = found :: back := by
  induction physical generalizing number joined front with
  | nil => simp [logicalLinesFrom] at h
  | cons line rest ih =>
    cases joined with
    | succ joined =>
      rw [logicalLinesFrom] at h
      obtain ⟨before, first, after, rfl, hjoined, hnumber, hskip, hfront, hback⟩ := ih h
      refine ⟨line :: before, first, after, rfl, Nat.succ_le_succ hjoined, ?_, hskip, ?_, hback⟩
      · rw [hnumber, List.length_cons]
        omega
      · rw [logicalLinesFrom, hfront]
    | zero =>
      rw [logicalLinesFrom] at h
      cases hline : isSkipped line with
      | true =>
        rw [if_pos hline] at h
        obtain ⟨before, first, after, rfl, -, hnumber, hskip, hfront, hback⟩ := ih h
        refine ⟨line :: before, first, after, rfl, Nat.zero_le _, ?_, hskip, ?_, hback⟩
        · rw [hnumber, List.length_cons]
          omega
        · rw [logicalLinesFrom, if_pos hline, hfront]
      | false =>
        obtain ⟨text, count, hjoin⟩ : ∃ text count,
            joinLines (trimStart line) rest = (text, count) := ⟨_, _, rfl⟩
        simp only [hline, hjoin, Bool.false_eq_true, if_false] at h
        cases front with
        | nil =>
          obtain ⟨rfl, hback⟩ := List.cons.inj h
          refine ⟨[], line, rest, rfl, Nat.le_refl 0, rfl, hline, rfl, ?_⟩
          simp only [logicalLinesFrom, hline, hjoin, Bool.false_eq_true, if_false, hback]
        | cons first front =>
          obtain ⟨rfl, htail⟩ := List.cons.inj h
          obtain ⟨before, next, after, rfl, hcount, hnumber, hskip, hfront, hback⟩ := ih htail
          refine ⟨line :: before, next, after, rfl, Nat.zero_le _, ?_, hskip, ?_, hback⟩
          · rw [hnumber, List.length_cons]
            omega
          · have hown := joinLines_append hjoin hcount
            simp only [logicalLinesFrom, hline, hown, Bool.false_eq_true, if_false, hfront]

/-- An entry starts on the physical line that it has the number of. -/
theorem exists_line_of_entries {file : List Char} {front back : List Entry}
    (h : entries file = front ++ entry :: back) :
    ∃ before line after, lines file = before ++ line :: after ∧ entry.line = before.length + 1 ∧
      isSkipped line = false ∧ entriesFrom 1 before = front ∧
      entriesFrom entry.line (line :: after) = entry :: back := by
  obtain ⟨first, more, hlines, rfl, hmore⟩ := List.map_eq_append_iff.1 h
  obtain ⟨found, rest, rfl, rfl, rfl⟩ := List.map_eq_cons_iff.1 hmore
  obtain ⟨before, line, after, hfile, -, hnumber, hskip, hfront, hback⟩ :=
    exists_line_of_logicalLines hlines
  refine ⟨before, line, after, hfile, hnumber.trans (Nat.add_comm _ _), hskip, ?_, ?_⟩
  · rw [entriesFrom, hfront]
  · change (logicalLinesFrom found.number 0 (line :: after)).map _ = _
    rw [hback, List.map_cons]

/-! ## The whole file -/

/-- A file is refused with what there is to object to its first offending entry, which starts on the
physical line that the error names. A file without an offending entry has a table of every kind in
which each slot has the name of the last entry for it, and no name if there is no entry. -/
theorem ofFile_firstOffence (file : String) :
    (∀ front entry back e, entries file.toList = front ++ entry :: back →
      (∀ earlier ∈ front, ∀ e, ¬ earlier.Offends e) → entry.Offends e →
      SlotTables.ofFile file = .error e ∧
        ∃ before line after, lines file.toList = before ++ line :: after ∧
          entry.line = before.length + 1 ∧ isSkipped line = false ∧
          entriesFrom 1 before = front ∧
          entriesFrom entry.line (line :: after) = entry :: back) ∧
    ((∀ entry ∈ entries file.toList, ∀ e, ¬ entry.Offends e) →
      ∃ tables, SlotTables.ofFile file = .ok tables ∧ tables.attributes.length = 8 ∧
        tables.uniforms.length = 32 ∧ ∀ kind ≠ .output, ∀ slot,
          (∀ front entry back number, entries file.toList = front ++ entry :: back →
            entry.Names kind number → digitsValue number = slot →
            (∀ later ∈ back, ∀ text, later.Names kind text → digitsValue text ≠ slot) →
            tables.name? kind slot = some (String.ofList entry.value)) ∧
          ((∀ entry ∈ entries file.toList, ∀ number, entry.Names kind number →
            digitsValue number ≠ slot) → tables.name? kind slot = none)) := by
  constructor
  · intro front entry back e hentries hfront hoffends
    refine ⟨?_, exists_line_of_entries hentries⟩
    obtain ⟨before, hbefore⟩ := exists_foldlM_ok
      (fun earlier hearlier => exists_addEntry_ok (hfront earlier hearlier)) .empty
    rw [SlotTables.ofFile, hentries, List.foldlM_append, hbefore]
    change List.foldlM addEntry before (entry :: back) = _
    rw [List.foldlM_cons, hoffends.addEntry_eq]
    rfl
  · intro hclean
    obtain ⟨tables, htables⟩ := exists_foldlM_ok
      (fun entry hentry => exists_addEntry_ok (hclean entry hentry)) .empty
    obtain ⟨hfull, hnames⟩ := name?_foldlM SlotTables.full_empty htables
    refine ⟨tables, htables, hfull.attributes_length, hfull.uniforms_length, ?_⟩
    intro kind hkind slot
    have hname : tables.name? kind slot = lastName (entries file.toList) kind slot := by
      rw [hnames kind hkind, SlotTables.name?_empty, Option.or_none]
    rw [hname]
    constructor
    · intro front entry back number hentries hentry hslot hlater
      rw [hentries, List.forall_mem_append, List.forall_mem_cons] at hclean
      have hfor : entry.slot? = some (kind, slot) :=
        (Entry.slot?_eq_some_iff hclean.2.1).2 ⟨number, hentry, hslot⟩
      have hback : lastName back kind slot = none := by
        refine lastName_eq_none fun later hmem hsame => ?_
        obtain ⟨text, htext, hvalue⟩ := (Entry.slot?_eq_some_iff (hclean.2.2 later hmem)).1 hsame
        exact hlater later hmem text htext hvalue
      rw [hentries, lastName_append, lastName_cons, hback, Option.none_or, if_pos hfor]
      rfl
    · intro hnone
      refine lastName_eq_none fun entry hmem hsame => ?_
      obtain ⟨number, hnumber, hvalue⟩ := (Entry.slot?_eq_some_iff (hclean entry hmem)).1 hsame
      exact hnone entry hmem number hnumber hvalue

end ShaderPipeline.SlotFile
