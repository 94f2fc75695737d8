import Mathlib.Data.List.Nodup
import ShaderPipeline.Proofs.Language.BodyReads
import ShaderPipeline.Proofs.Language.DeclarationReads

/-!
# What items describe

The draft that the items of a source describe, without places, and the condition on a draft under
which one more item may follow. `Consistent` speaks of all items at once; a parser sees one item
at a time and has only the draft of those before it. `consistent_concat_iff` says that the two
views agree, and `described_concat` how the draft grows.

The properties that are used are no concern here, since they may be declared later.
-/

namespace ShaderPipeline.Language

/-- The slots of a kind that are taken. -/
def Draft.slots (draft : Draft) : SlotKind → List Nat
  | .uniform => draft.uniforms.map (·.1)
  | .attribute => draft.attributes.map (·.slot)
  | .output => draft.outputs.map (·.slot)

/-- The taken slots do not depend on places. -/
@[simp] theorem Draft.slots_unplaced (draft : Draft) (kind : SlotKind) :
    draft.unplaced.slots kind = draft.slots kind := by
  cases kind <;> simp [slots, unplaced, SlotDecl.unplaced, Function.comp_def]

namespace Grammar

/-! ## Single items -/

/-- The array length that is written, without places. -/
def Length.arrayLength : Length → ArrayLength
  | .literal length => .fixed length
  | .property name => .property ⟨name, .start⟩

/-- The declaration that a declarator makes, without places. -/
def Declarator.declaration (declarator : Declarator) : Declaration :=
  ⟨declarator.name, declarator.type, declarator.precision,
    declarator.length.map (·.arrayLength), .start⟩

/-- What a declaration is without its places follows from how it is written. -/
theorem declaration_written (declared : Declaration) :
    declared.written.declaration = declared.unplaced := by
  obtain ⟨name, type, precision, array, location⟩ := declared
  cases array with
  | none => rfl
  | some length => cases length <;> rfl

/-- How a declarator is written follows from the declaration that it makes. -/
theorem written_declaration (declarator : Declarator) :
    declarator.declaration.written = declarator := by
  obtain ⟨precision, type, name, length⟩ := declarator
  cases length with
  | none => rfl
  | some length => cases length <;> rfl

/-- A reference to a property by its name, without its place. -/
def referenceTo (name : String) : PropertyRef := ⟨name, .start⟩

namespace Item

/-- The property declaration of an item. -/
def propertyDecl? (item : Item) : Option PropertyDecl :=
  item.property?.map fun declared => ⟨declared.1, declared.2, .start⟩

/-- The uniform of an item and its slot. -/
def uniform? : Item → Option (Nat × Declaration)
  | .uniform slot declarator => some (slot, declarator.declaration)
  | _ => none

/-- The attribute of an item. -/
def attribute? : Item → Option SlotDecl
  | .attribute slot declarator condition =>
    some ⟨slot, declarator.declaration, condition.map referenceTo⟩
  | _ => none

/-- The varying of an item. -/
def varying? : Item → Option Declaration
  | .varying declarator => some declarator.declaration
  | _ => none

/-- The output of an item. -/
def output? : Item → Option SlotDecl
  | .output slot declarator condition =>
    some ⟨slot, declarator.declaration, condition.map referenceTo⟩
  | _ => none

end Item

end Grammar

open Grammar

/-! ## Drafts and items -/

/-- The draft that items describe. -/
def Grammar.described (items : List Item) : Draft where
  properties := items.filterMap Item.propertyDecl?
  uniforms := items.filterMap Item.uniform?
  attributes := items.filterMap Item.attribute?
  varyings := items.filterMap Item.varying?
  outputs := items.filterMap Item.output?
  shared := (items.filterMap (Item.body? .shared)).head?.map body
  vertex := (items.filterMap (Item.body? (.stage .vertex))).head?.map body
  fragment := (items.filterMap (Item.body? (.stage .fragment))).head?.map body

namespace Draft

/-- The draft with one more item. -/
def withItem (draft : Draft) (item : Item) : Draft :=
  match item with
  | .property type name =>
    { draft with properties := draft.properties ++ [⟨name, type, .start⟩] }
  | .uniform slot declarator =>
    { draft with uniforms := draft.uniforms ++ [(slot, declarator.declaration)] }
  | .attribute slot declarator condition =>
    { draft with
      attributes := draft.attributes ++
        [⟨slot, declarator.declaration, condition.map referenceTo⟩] }
  | .varying declarator => { draft with varyings := draft.varyings ++ [declarator.declaration] }
  | .output slot declarator condition =>
    { draft with
      outputs := draft.outputs ++ [⟨slot, declarator.declaration, condition.map referenceTo⟩] }
  | .block kind parts => draft.withBlock (body parts) kind

/-- What an item after those of a draft must satisfy for the items to stay consistent. -/
structure Admits (draft : Draft) (item : Item) : Prop where
  slot_free : ∀ kind, ∀ slot ∈ item.slot? kind, slot < kind.capacity ∧ slot ∉ draft.slots kind
  length_ne : ∀ declarator ∈ item.declarator?, declarator.length ≠ some (.literal 0)
  name_new : ∀ name ∈ item.name?, name ∉ draft.names
  block_new : ∀ kind, (item.body? kind).isSome → draft.block kind = none

/-- What a draft admits does not depend on places. -/
theorem admits_unplaced_iff {draft : Draft} {item : Item} :
    draft.unplaced.Admits item ↔ draft.Admits item := by
  constructor
  · intro h
    exact ⟨by simpa using h.slot_free, h.length_ne, by simpa using h.name_new,
      by simpa using h.block_new⟩
  · intro h
    exact ⟨by simpa using h.slot_free, h.length_ne, by simpa using h.name_new,
      by simpa using h.block_new⟩

end Draft

namespace Grammar

/-- The slots of a described draft are those of the items. -/
theorem slots_described (items : List Item) (kind : SlotKind) :
    (described items).slots kind = items.filterMap (Item.slot? kind) := by
  cases kind <;>
  · simp only [Draft.slots, described, List.map_filterMap]
    congr 1
    funext item
    cases item <;> rfl

/-- The blocks of a described draft are those of the items. -/
theorem block_described (items : List Item) (kind : BlockKind) :
    (described items).block kind = (items.filterMap (Item.body? kind)).head?.map body := by
  cases kind with
  | shared => rfl
  | stage stage => cases stage <;> rfl

/-- The names of a described draft are those of the items, though in another order. -/
theorem names_described_perm (items : List Item) :
    (described items).names.Perm (items.filterMap Item.name?) := by
  induction items with
  | nil => exact .nil
  | cons item items ih =>
    rw [List.perm_iff_count] at ih ⊢
    intro name
    have hcount := ih name
    simp only [Draft.names, described, List.count_append] at hcount ⊢
    cases item <;>
    · simp [List.filterMap_cons, Item.propertyDecl?, Item.property?, Item.uniform?,
        Item.attribute?, Item.varying?, Item.output?, Item.name?, Item.declarator?,
        Declarator.declaration, List.count_cons] at hcount ⊢
      omega

/-- What one more item adds to a part of all items. -/
theorem filterMap_concat {α : Type} (f : Item → Option α) (items : List Item) (item : Item) :
    (items ++ [item]).filterMap f = items.filterMap f ++ (f item).toList := by
  rw [List.filterMap_append]
  cases h : f item <;> simp [h]

/-- There is no block of a kind in a described draft only if no item is one. -/
theorem filterMap_body?_eq_nil {items : List Item} {kind : BlockKind}
    (h : (described items).block kind = none) : items.filterMap (Item.body? kind) = [] := by
  rw [block_described, Option.map_eq_none_iff, List.head?_eq_none_iff] at h
  exact h

/-- The draft of one more item, if it is not a second block of a kind. -/
theorem described_concat {items : List Item} {item : Item}
    (hblock : ∀ kind, (item.body? kind).isSome → (described items).block kind = none) :
    described (items ++ [item]) = (described items).withItem item := by
  simp only [described, filterMap_concat]
  cases item with
  | block kind parts =>
    have hnil := filterMap_body?_eq_nil (hblock kind (by simp [Item.body?]))
    cases kind with
    | shared =>
      simp [hnil, Draft.withItem, Draft.withBlock, Item.body?, Item.propertyDecl?, Item.property?,
        Item.uniform?, Item.attribute?, Item.varying?, Item.output?]
    | stage stage =>
      cases stage <;>
      simp [hnil, Draft.withItem, Draft.withBlock, Item.body?, Item.propertyDecl?, Item.property?,
        Item.uniform?, Item.attribute?, Item.varying?, Item.output?]
  | _ =>
    simp [Draft.withItem, Item.body?, Item.propertyDecl?, Item.property?, Item.uniform?,
      Item.attribute?, Item.varying?, Item.output?]

/-- What holds of consistent items holds of those before some point. -/
theorem Consistent.left {front back : List Item} (h : Consistent (front ++ back)) :
    Consistent front where
  slot_lt kind slot hslot := h.slot_lt kind slot (by simp [hslot])
  slots_nodup kind := by
    have hnodup := h.slots_nodup kind
    rw [List.filterMap_append] at hnodup
    exact hnodup.of_append_left
  length_ne declarator hdeclarator := h.length_ne declarator (by simp [hdeclarator])
  names_nodup := by
    have hnodup := h.names_nodup
    rw [List.filterMap_append] at hnodup
    exact hnodup.of_append_left
  blocks_le kind := by
    have hle := h.blocks_le kind
    rw [List.filterMap_append, List.length_append] at hle
    omega

/-- An optional value is new to values that are pairwise different exactly if they stay so. -/
theorem nodup_append_toList_iff {α : Type} {values : List α} {value : Option α} :
    (values ++ value.toList).Nodup ↔ values.Nodup ∧ ∀ v ∈ value, v ∉ values := by
  cases value with
  | none => simp
  | some v =>
    rw [List.nodup_append_comm]
    simp [and_comm]

/-- Items stay consistent with one more item exactly if their draft admits it. -/
theorem consistent_concat_iff {items : List Item} {item : Item} :
    Consistent (items ++ [item]) ↔ Consistent items ∧ (described items).Admits item := by
  have hnames (name : String) :
      name ∈ (described items).names ↔ name ∈ items.filterMap Item.name? :=
    (names_described_perm items).mem_iff
  constructor
  · intro h
    refine ⟨h.left, ?_, ?_, ?_, ?_⟩
    · intro kind slot hslot
      have hnodup := h.slots_nodup kind
      rw [filterMap_concat, nodup_append_toList_iff] at hnodup
      rw [slots_described]
      exact ⟨h.slot_lt kind slot (by simp_all), hnodup.2 slot hslot⟩
    · intro declarator hdeclarator
      exact h.length_ne declarator (by simp_all)
    · intro name hname
      have hnodup := h.names_nodup
      rw [filterMap_concat, nodup_append_toList_iff] at hnodup
      rw [hnames]
      exact hnodup.2 name hname
    · intro kind hsome
      obtain ⟨parts, hparts⟩ := Option.isSome_iff_exists.1 hsome
      have hle := h.blocks_le kind
      rw [filterMap_concat, hparts, List.length_append] at hle
      have hnil : items.filterMap (Item.body? kind) = [] := by
        apply List.eq_nil_of_length_eq_zero
        rw [Option.toList_some, List.length_singleton] at hle
        omega
      rw [block_described, hnil]
      rfl
  · intro h
    obtain ⟨hitems, hadmits⟩ := h
    refine ⟨?_, ?_, ?_, ?_, ?_⟩
    · intro kind slot hslot
      rw [filterMap_concat, List.mem_append, Option.mem_toList] at hslot
      rcases hslot with hslot | hslot
      · exact hitems.slot_lt kind slot hslot
      · exact (hadmits.slot_free kind slot hslot).1
    · intro kind
      rw [filterMap_concat, nodup_append_toList_iff, ← slots_described]
      refine ⟨by rw [slots_described]; exact hitems.slots_nodup kind, fun slot hslot => ?_⟩
      exact (hadmits.slot_free kind slot hslot).2
    · intro declarator hdeclarator
      rw [filterMap_concat, List.mem_append, Option.mem_toList] at hdeclarator
      rcases hdeclarator with hdeclarator | hdeclarator
      · exact hitems.length_ne declarator hdeclarator
      · exact hadmits.length_ne declarator hdeclarator
    · rw [filterMap_concat, nodup_append_toList_iff]
      refine ⟨hitems.names_nodup, fun name hname => ?_⟩
      rw [← hnames]
      exact hadmits.name_new name hname
    · intro kind
      rw [filterMap_concat, List.length_append]
      cases hbody : item.body? kind with
      | none => simpa using hitems.blocks_le kind
      | some parts =>
        have hnone := hadmits.block_new kind (by rw [hbody]; rfl)
        simp [filterMap_body?_eq_nil hnone]

end Grammar

end ShaderPipeline.Language
