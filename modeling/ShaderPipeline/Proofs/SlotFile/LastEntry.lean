import Mathlib.Data.List.Basic
import ShaderPipeline.SlotFile.Table

/-!
# The last entry of a slot

The tables of a slot file have at each slot the name of the last entry for it (`lastName`), and no
name where there is no entry. An entry is for the slot that its key names by a number, so keys that
are spelled differently can be for the same slot. One more entry changes the tables at its own slot
only (`name?_addEntry`); reading all entries puts these steps together (`name?_foldlM`).

Which files are refused is not covered.
-/

namespace ShaderPipeline.SlotFile

/-- The slot that an entry is for, if its key names one. -/
def Entry.slot? (entry : Entry) : Option (SlotKind × Nat) :=
  (slotKey? entry.key).bind fun (kind, number) =>
    (Decimal.natural? number).map fun slot => (kind, slot)

/-- The name that the last entry for a slot gives to it. -/
def lastName (entries : List Entry) (kind : SlotKind) (slot : Nat) : Option String :=
  (entries.reverse.find? fun entry => entry.slot? = some (kind, slot)).map fun entry =>
    String.ofList entry.value

/-- The last entry is among the later ones, or else it is the first. -/
theorem lastName_cons (entry : Entry) (entries : List Entry) (kind : SlotKind) (slot : Nat) :
    lastName (entry :: entries) kind slot =
      (lastName entries kind slot).or
        (if entry.slot? = some (kind, slot) then some (String.ofList entry.value) else none) := by
  rw [lastName, List.reverse_cons, List.find?_append, Option.map_or, ← lastName]
  congr 1
  by_cases hslot : entry.slot? = some (kind, slot) <;> simp [hslot]

namespace SlotTables

/-- The table of a kind of slots. -/
def table (tables : SlotTables) : SlotKind → List (Option String)
  | .attribute => tables.attributes
  | .uniform => tables.uniforms
  | .output => []

/-- The name of a slot. -/
def name? (tables : SlotTables) (kind : SlotKind) (slot : Nat) : Option String :=
  (tables.table kind)[slot]?.join

/-- Tables that have an entry for every slot. -/
structure Full (tables : SlotTables) : Prop where
  attributes_length : tables.attributes.length = SlotKind.attribute.capacity
  uniforms_length : tables.uniforms.length = SlotKind.uniform.capacity

/-- Empty tables have an entry for every slot. -/
theorem full_empty : empty.Full := ⟨List.length_replicate, List.length_replicate⟩

/-- Empty tables have no names. -/
theorem name?_empty (kind : SlotKind) (slot : Nat) : empty.name? kind slot = none := by
  have hnone (count : Nat) : (List.replicate count (none : Option String))[slot]?.join = none := by
    rw [List.getElem?_replicate]
    split <;> rfl
  match kind with
  | .attribute => exact hnone _
  | .uniform => exact hnone _
  | .output => rfl

variable {tables : SlotTables}

/-- Giving a name to a slot keeps the tables full. -/
theorem Full.withName (h : tables.Full) (kind : SlotKind) (slot : Nat) (name : String) :
    (tables.withName kind slot name).Full := by
  obtain ⟨hattributes, huniforms⟩ := h
  match kind with
  | .attribute => exact ⟨List.length_set.trans hattributes, huniforms⟩
  | .uniform => exact ⟨hattributes, List.length_set.trans huniforms⟩
  | .output => exact ⟨hattributes, huniforms⟩

/-- Giving a name to a slot changes nothing else. -/
theorem Full.name?_withName (h : tables.Full) {kind other : SlotKind} {slot index : Nat}
    (hslot : slot < kind.capacity) (hkind : other ≠ .output) (name : String) :
    (tables.withName kind slot name).name? other index =
      if (kind, slot) = (other, index) then some name else tables.name? other index := by
  have hset {entries : List (Option String)} (hlt : slot < entries.length) :
      (entries.set slot (some name))[index]?.join =
        if slot = index then some name else entries[index]?.join := by
    by_cases hsame : slot = index
    · rw [← hsame, List.getElem?_set_self hlt, if_pos rfl]
      rfl
    · rw [List.getElem?_set_ne hsame, if_neg hsame]
  match kind, other with
  | .attribute, .attribute =>
    have hlt : slot < tables.attributes.length := h.attributes_length ▸ hslot
    simpa [SlotTables.withName, name?, table] using hset hlt
  | .uniform, .uniform =>
    have hlt : slot < tables.uniforms.length := h.uniforms_length ▸ hslot
    simpa [SlotTables.withName, name?, table] using hset hlt
  | .attribute, .uniform | .uniform, .attribute => rfl
  | .output, .attribute | .output, .uniform => rfl
  | _, .output => exact absurd rfl hkind

end SlotTables

/-! ## Reading entries -/

/-- One more entry names no slot, or gives its name to the slot that it is for. -/
theorem addEntry_cases {tables after : SlotTables} {entry : Entry}
    (h : addEntry tables entry = .ok after) :
    (entry.slot? = none ∧ after = tables) ∨
      ∃ kind slot, entry.slot? = some (kind, slot) ∧ slot < kind.capacity ∧
        after = tables.withName kind slot (String.ofList entry.value) := by
  unfold addEntry at h
  unfold Entry.slot?
  cases hkey : slotKey? entry.key with
  | none =>
    rw [hkey] at h
    exact .inl ⟨rfl, (Except.ok.inj h).symm⟩
  | some found =>
    obtain ⟨kind, number⟩ := found
    rw [hkey] at h
    simp only [slotNumber] at h
    cases hnumber : Decimal.natural? number with
    | none =>
      rw [hnumber] at h
      cases h
    | some slot =>
      rw [hnumber] at h
      refine .inr ⟨kind, slot, by simp [hnumber], ?_⟩
      by_cases hlt : slot < kind.capacity
      · simp only [if_pos hlt] at h
        cases hempty : entry.value.isEmpty with
        | true =>
          simp only [hempty] at h
          cases h
        | false =>
          simp only [hempty] at h
          exact ⟨hlt, (Except.ok.inj h).symm⟩
      · simp only [if_neg hlt] at h
        cases h

/-- One more entry changes the tables at its own slot only. -/
theorem name?_addEntry {tables after : SlotTables} {entry : Entry} (hfull : tables.Full)
    (h : addEntry tables entry = .ok after) :
    after.Full ∧ ∀ kind ≠ .output, ∀ slot, after.name? kind slot =
      if entry.slot? = some (kind, slot) then some (String.ofList entry.value)
      else tables.name? kind slot := by
  rcases addEntry_cases h with ⟨hnone, rfl⟩ | ⟨kind, slot, hsome, hlt, rfl⟩
  · refine ⟨hfull, fun kind hkind slot => ?_⟩
    rw [hnone, if_neg (Option.some_ne_none _).symm]
  · refine ⟨hfull.withName kind slot _, fun other hother index => ?_⟩
    rw [hfull.name?_withName hlt hother, hsome]
    simp only [Option.some.injEq]

/-- After all entries, a slot has the name of the last one for it, or the name it had before. -/
theorem name?_foldlM {entries : List Entry} {tables final : SlotTables} (hfull : tables.Full)
    (h : entries.foldlM addEntry tables = .ok final) :
    final.Full ∧ ∀ kind ≠ .output, ∀ slot,
      final.name? kind slot = (lastName entries kind slot).or (tables.name? kind slot) := by
  induction entries generalizing tables with
  | nil =>
    obtain rfl := Except.ok.inj h
    exact ⟨hfull, fun kind hkind slot => rfl⟩
  | cons entry entries ih =>
    rw [List.foldlM_cons] at h
    cases hentry : addEntry tables entry with
    | error e =>
      rw [hentry] at h
      cases h
    | ok after =>
      rw [hentry] at h
      obtain ⟨hafter, hstep⟩ := name?_addEntry hfull hentry
      obtain ⟨hfinal, hrest⟩ := ih hafter h
      refine ⟨hfinal, fun kind hkind slot => ?_⟩
      rw [hrest kind hkind, hstep kind hkind, lastName_cons]
      cases lastName entries kind slot with
      | some name => rfl
      | none => split <;> simp

/-- A table with the given names at all its slots. -/
theorem eq_map_of_name? {tables : SlotTables} {kind : SlotKind} {count : Nat}
    (hlength : (tables.table kind).length = count) {name? : Nat → Option String}
    (h : ∀ slot, tables.name? kind slot = name? slot) :
    tables.table kind = (List.range count).map name? := by
  apply List.ext_getElem
  · rw [hlength, List.length_map, List.length_range]
  · intro slot hslot hrange
    have hname := h slot
    rw [SlotTables.name?, List.getElem?_eq_getElem hslot] at hname
    rw [List.getElem_map, List.getElem_range, ← hname]
    rfl

/-- The tables of a slot file have the names of its last entries. -/
theorem ofFile_eq {file : String} {tables : SlotTables} (h : SlotTables.ofFile file = .ok tables) :
    tables.attributes = (List.range 8).map (lastName (entries file.toList) .attribute) ∧
      tables.uniforms = (List.range 32).map (lastName (entries file.toList) .uniform) := by
  obtain ⟨hfull, hnames⟩ := name?_foldlM SlotTables.full_empty h
  have hname (kind : SlotKind) (hkind : kind ≠ .output) (slot : Nat) :
      tables.name? kind slot = lastName (entries file.toList) kind slot := by
    rw [hnames kind hkind slot, SlotTables.name?_empty, Option.or_none]
  have hattributes := hname .attribute (by decide)
  have huniforms := hname .uniform (by decide)
  exact ⟨@eq_map_of_name? tables .attribute 8 hfull.attributes_length _ hattributes,
    @eq_map_of_name? tables .uniform 32 hfull.uniforms_length _ huniforms⟩

end ShaderPipeline.SlotFile
