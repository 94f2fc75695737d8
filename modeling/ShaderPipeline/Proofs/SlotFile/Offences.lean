import ShaderPipeline.Proofs.Decimal.Digits
import ShaderPipeline.Proofs.SlotFile.LastEntry

/-!
# Entries that are refused

A slot key is `Attribute.` or `Uniform.` with anything but a line feed behind it. An entry with such
a key is either read, and then its number is that of a slot and it has a name, or the file is
refused (`addEntry_eq_ok_iff`). So no slot entry is passed over, and its name is in the tables
unless a later entry for the slot has another one (`ofFile_regards_slots`).

A key with a line feed, which an escape can put into it, is no slot key. Such an entry is passed
over whatever else it has, so that its slot stays without a name.
-/

namespace ShaderPipeline.SlotFile

open Decimal

/-! ## Slot keys -/

/-- What the keys of a kind of slots start with. -/
def keyStart (kind : SlotKind) : List Char := kind.title.toList ++ ['.']

/-- What follows the start of a key is the number text, if it has no line feed. -/
theorem slotKey?_append {kind : SlotKind} (hkind : kind ≠ .output) (number : List Char) :
    slotKey? (keyStart kind ++ number) =
      if '\n' ∈ number then none else some (kind, number) := by
  unfold slotKey?
  match kind with
  | .attribute =>
    have hfound : "Attribute.".toList.isPrefixOf? (keyStart .attribute ++ number) = some number :=
      List.isPrefixOf?_eq_some_iff_append_eq.2 rfl
    rw [hfound]
  | .uniform =>
    have hother : "Attribute.".toList.isPrefixOf? (keyStart .uniform ++ number) = none := rfl
    have hfound : "Uniform.".toList.isPrefixOf? (keyStart .uniform ++ number) = some number :=
      List.isPrefixOf?_eq_some_iff_append_eq.2 rfl
    rw [hother, hfound]
  | .output => exact absurd rfl hkind

/-- The kind and number text of a slot key. -/
theorem slotKey?_eq_some_iff {key : List Char} {kind : SlotKind} {number : List Char} :
    slotKey? key = some (kind, number) ↔
      kind ≠ .output ∧ key = keyStart kind ++ number ∧ '\n' ∉ number := by
  constructor
  · intro h
    unfold slotKey? at h
    split at h
    · rename_i found other hfound
      obtain rfl := List.isPrefixOf?_eq_some_iff_append_eq.1 hfound
      rw [Option.ite_none_left_eq_some, Option.some.injEq, Prod.mk.injEq] at h
      obtain ⟨hline, rfl, rfl⟩ := h
      exact ⟨by decide, rfl, hline⟩
    · rename_i found hother hfound
      obtain rfl := List.isPrefixOf?_eq_some_iff_append_eq.1 hfound
      rw [Option.ite_none_left_eq_some, Option.some.injEq, Prod.mk.injEq] at h
      obtain ⟨hline, rfl, rfl⟩ := h
      exact ⟨by decide, rfl, hline⟩
    · cases h
  · intro h
    obtain ⟨hkind, rfl, hline⟩ := h
    rw [slotKey?_append hkind, if_neg hline]

/-! ## One entry -/

variable {tables after : SlotTables} {entry : Entry}

/-- An entry without a slot key is passed over. -/
theorem addEntry_of_none (h : slotKey? entry.key = none) : addEntry tables entry = .ok tables := by
  rw [addEntry, h]

/-- An entry is for the slot that its number text names. -/
theorem slot?_of_number {kind : SlotKind} {number : List Char} {slot : Nat}
    (h : slotKey? entry.key = some (kind, number)) (hnumber : natural? number = some slot) :
    entry.slot? = some (kind, slot) := by
  simp [Entry.slot?, h, hnumber]

/-- The number text of a slot. -/
theorem slotNumber_eq_ok_iff {kind : SlotKind} {number : List Char} {slot : Nat} :
    slotNumber entry kind number = .ok slot ↔
      natural? number = some slot ∧ slot < kind.capacity := by
  unfold slotNumber
  cases natural? number with
  | none => simp
  | some found =>
    by_cases hlt : found < kind.capacity
    · simp only [if_pos hlt, Except.ok.injEq, Option.some.injEq]
      exact ⟨fun h => ⟨h, h ▸ hlt⟩, And.left⟩
    · simp only [if_neg hlt, reduceCtorEq, Option.some.injEq, false_iff]
      rintro ⟨rfl, hslot⟩
      exact hlt hslot

/-- An entry with a slot key is read if its number is that of a slot and its name is not empty. -/
theorem addEntry_eq_ok_iff {kind : SlotKind} {number : List Char}
    (h : slotKey? entry.key = some (kind, number)) :
    addEntry tables entry = .ok after ↔
      (number ≠ [] ∧ (∀ c ∈ number, c.isDigit = true) ∧ digitsValue number < kind.capacity ∧
        entry.value ≠ []) ∧
      tables.withName kind (digitsValue number) (String.ofList entry.value) = after := by
  have hread : addEntry tables entry = (slotNumber entry kind number).bind fun slot =>
      if entry.value.isEmpty then .error (.emptyName entry.line (String.ofList entry.key))
      else .ok (tables.withName kind slot (String.ofList entry.value)) := by
    rw [addEntry, h]
    rfl
  rw [hread]
  constructor
  · intro hok
    cases hslot : slotNumber entry kind number with
    | error e =>
      rw [hslot] at hok
      cases hok
    | ok slot =>
      obtain ⟨hnumber, hlt⟩ := slotNumber_eq_ok_iff.1 hslot
      obtain ⟨hne, hdigits, rfl⟩ := natural?_eq_some_iff.1 hnumber
      rw [hslot, Except.bind] at hok
      by_cases hvalue : entry.value = []
      · simp [hvalue] at hok
      · simp only [List.isEmpty_iff, hvalue, if_false, Except.ok.injEq] at hok
        exact ⟨⟨hne, hdigits, hlt, hvalue⟩, hok⟩
  · intro hok
    obtain ⟨⟨hne, hdigits, hlt, hvalue⟩, rfl⟩ := hok
    have hslot : slotNumber entry kind number = .ok (digitsValue number) :=
      slotNumber_eq_ok_iff.2 ⟨natural?_eq_some_iff.2 ⟨hne, hdigits, rfl⟩, hlt⟩
    rw [hslot, Except.bind, if_neg]
    simpa using hvalue

/-! ## All entries -/

/-- An entry that is refused in any case refuses the file. -/
theorem exists_error_of_mem {entries : List Entry} (hmem : entry ∈ entries)
    (hentry : ∀ tables after, addEntry tables entry ≠ .ok after) (tables : SlotTables) :
    ∃ e, entries.foldlM addEntry tables = .error e := by
  induction entries generalizing tables with
  | nil => cases hmem
  | cons first entries ih =>
    rw [List.foldlM_cons]
    cases hfirst : addEntry tables first with
    | error e => exact ⟨e, rfl⟩
    | ok after =>
      rcases List.mem_cons.1 hmem with rfl | hrest
      · exact absurd hfirst (hentry tables after)
      · exact ih hrest after

/-- All entries of a file that is read are read. -/
theorem exists_ok_of_mem {entries : List Entry} {final : SlotTables} (hmem : entry ∈ entries)
    (h : entries.foldlM addEntry tables = .ok final) :
    ∃ before after, addEntry before entry = .ok after := by
  by_contra hnone
  obtain ⟨e, herror⟩ :=
    exists_error_of_mem hmem (fun before after hok => hnone ⟨before, after, hok⟩) tables
  cases h.symm.trans herror

/-- The last entry is among the later ones, or else among the earlier ones. -/
theorem lastName_append (front back : List Entry) (kind : SlotKind) (slot : Nat) :
    lastName (front ++ back) kind slot =
      (lastName back kind slot).or (lastName front kind slot) := by
  induction front with
  | nil => exact (Option.or_none ..).symm
  | cons first front ih =>
    rw [List.cons_append, lastName_cons, lastName_cons, ih, Option.or_assoc]

/-- Without an entry for a slot there is no name. -/
theorem lastName_eq_none {entries : List Entry} {kind : SlotKind} {slot : Nat}
    (h : ∀ later ∈ entries, later.slot? ≠ some (kind, slot)) :
    lastName entries kind slot = none := by
  rw [lastName, Option.map_eq_none_iff, List.find?_eq_none]
  simpa using h

/-- No slot entry is passed over. A file with an entry whose key has a number text that is no number
of a slot, or whose name is empty, is refused. So if a file is read, the name of every slot entry is
in the tables, unless a later entry is for the same slot. Only entries whose key has a line feed
behind the start of a slot key make no difference. -/
theorem ofFile_regards_slots (file : String) :
    (∀ entry ∈ entries file.toList, ∀ kind ≠ SlotKind.output, ∀ number,
      entry.key = keyStart kind ++ number → '\n' ∉ number →
        (number = [] ∨ (∃ c ∈ number, c.isDigit = false) ∨ kind.capacity ≤ digitsValue number ∨
          entry.value = []) →
        ∃ e, SlotTables.ofFile file = .error e) ∧
    (∀ tables, SlotTables.ofFile file = .ok tables → ∀ front entry back,
      entries file.toList = front ++ entry :: back → ∀ kind ≠ SlotKind.output, ∀ number,
        entry.key = keyStart kind ++ number → '\n' ∉ number →
        (∀ later ∈ back, later.slot? ≠ some (kind, digitsValue number)) →
          tables.name? kind (digitsValue number) = some (String.ofList entry.value)) ∧
    ∀ front entry back, entries file.toList = front ++ entry :: back → ∀ kind ≠ SlotKind.output,
      ∀ number, entry.key = keyStart kind ++ number → '\n' ∈ number →
        SlotTables.ofFile file = (front ++ back).foldlM addEntry .empty := by
  refine ⟨?_, ?_, ?_⟩
  · intro entry hmem kind hkind number hkey hline hbad
    have hslot : slotKey? entry.key = some (kind, number) :=
      slotKey?_eq_some_iff.2 ⟨hkind, hkey, hline⟩
    refine exists_error_of_mem hmem (fun tables after hok => ?_) .empty
    obtain ⟨⟨hne, hdigits, hlt, hvalue⟩, -⟩ := (addEntry_eq_ok_iff hslot).1 hok
    rcases hbad with hempty | ⟨c, hc, hdigit⟩ | hlarge | hempty
    · exact hne hempty
    · exact absurd (hdigits c hc) (by simp [hdigit])
    · exact absurd hlt (Nat.not_lt.2 hlarge)
    · exact hvalue hempty
  · intro tables hok front entry back hentries kind hkind number hkey hline hlater
    have hslot : slotKey? entry.key = some (kind, number) :=
      slotKey?_eq_some_iff.2 ⟨hkind, hkey, hline⟩
    obtain ⟨-, hnames⟩ := name?_foldlM SlotTables.full_empty hok
    obtain ⟨before, after, hread⟩ := exists_ok_of_mem (hentries ▸ List.mem_append_cons_self) hok
    obtain ⟨⟨hne, hdigits, -, -⟩, -⟩ := (addEntry_eq_ok_iff hslot).1 hread
    have hnumber : natural? number = some (digitsValue number) :=
      natural?_eq_some_iff.2 ⟨hne, hdigits, rfl⟩
    have hentry : entry.slot? = some (kind, digitsValue number) := slot?_of_number hslot hnumber
    rw [hnames kind hkind, hentries, lastName_append, lastName_cons, lastName_eq_none hlater,
      Option.none_or, if_pos hentry]
    rfl
  · intro front entry back hentries kind hkind number hkey hline
    have hslot : slotKey? entry.key = none := by
      rw [hkey, slotKey?_append hkind, if_pos hline]
    rw [SlotTables.ofFile, hentries, List.foldlM_append, List.foldlM_append]
    congr 1
    funext tables
    rw [List.foldlM_cons, addEntry_of_none hslot]
    rfl

/-- An entry with a line feed in its key is passed over, although its number text is no number. -/
theorem ofFile_lineFeedKey :
    ¬∀ file, ∀ entry ∈ entries file.toList, ∀ kind ≠ SlotKind.output, ∀ number,
      entry.key = keyStart kind ++ number →
        (number = [] ∨ (∃ c ∈ number, c.isDigit = false) ∨ kind.capacity ≤ digitsValue number ∨
          entry.value = []) →
        ∃ e, SlotTables.ofFile file = .error e := by
  intro h
  have hfile : SlotTables.ofFile "Attribute.0\\n = x" = .ok .empty := by decide +kernel
  obtain ⟨e, herror⟩ := h "Attribute.0\\n = x" ⟨1, "Attribute.0\n".toList, ['x']⟩
    (by decide +kernel) .attribute (by decide) ['0', '\n'] rfl
    (.inr (.inl ⟨'\n', by decide, by decide⟩))
  cases hfile.symm.trans herror

end ShaderPipeline.SlotFile
