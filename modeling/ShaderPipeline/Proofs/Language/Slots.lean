import Mathlib.Data.List.Pairwise
import ShaderPipeline.Proofs.Language.Checked

/-!
# Slots of a source

What the items of a source declare at each slot. Uniforms are looked up by their slot, whatever the
order in which they are declared; attributes and outputs are listed as they are declared. The lists
of a compiled shader say the same (`Origin.uniforms_eq` and those after it), up to the places that
a shader carries.
-/

namespace ShaderPipeline.Language

open Grammar

namespace Grammar

/-- The uniform that items declare at a slot. -/
def uniformAt? (items : List Item) (slot : Nat) : Option Declaration :=
  (items.filterMap Item.uniform?).lookup slot

/-- The number of slots up to the highest one at which a uniform is declared. -/
def uniformCount (items : List Item) : Nat :=
  match (items.filterMap (Item.slot? .uniform)).max? with
  | none => 0
  | some highest => highest + 1

/-- The uniforms with their slots, in slot order. -/
def uniformsBySlot (items : List Item) : List (Nat × Declaration) :=
  (List.range SlotKind.uniform.capacity).filterMap fun slot =>
    (uniformAt? items slot).map fun declared => (slot, declared)

/-- The attributes as they are declared. -/
def attributes (items : List Item) : List SlotDecl := items.filterMap Item.attribute?

/-- The varyings as they are declared. -/
def varyings (items : List Item) : List Declaration := items.filterMap Item.varying?

/-- The outputs as they are declared. -/
def outputs (items : List Item) : List SlotDecl := items.filterMap Item.output?

/-- The slots of the uniforms are those that their items take. -/
theorem map_fst_uniforms (items : List Item) :
    (items.filterMap Item.uniform?).map Prod.fst = items.filterMap (Item.slot? .uniform) := by
  rw [List.map_filterMap]
  congr 1
  funext item
  cases item <;> rfl

/-- A uniform is declared at a slot exactly if an item does so. -/
theorem uniformAt?_eq_some_iff {items : List Item} (h : Consistent items) {slot : Nat}
    {declared : Declaration} :
    uniformAt? items slot = some declared ↔
      ∃ declarator, Item.uniform slot declarator ∈ items ∧ declarator.declaration = declared := by
  have hnodup : ((items.filterMap Item.uniform?).map Prod.fst).Nodup := by
    rw [map_fst_uniforms]
    exact h.slots_nodup .uniform
  rw [uniformAt?, Draft.lookup_eq_some_iff_mem hnodup, List.mem_filterMap]
  constructor
  · intro hitem
    obtain ⟨item, hmem, hsome⟩ := hitem
    cases item <;> cases hsome
    exact ⟨_, hmem, rfl⟩
  · intro hitem
    obtain ⟨declarator, hmem, rfl⟩ := hitem
    exact ⟨_, hmem, rfl⟩

/-- A number is at least the count of slots exactly if all slots are below it. -/
theorem uniformCount_le_iff {items : List Item} {bound : Nat} :
    uniformCount items ≤ bound ↔ ∀ slot ∈ items.filterMap (Item.slot? .uniform), slot < bound := by
  unfold uniformCount
  cases hmax : (items.filterMap (Item.slot? .uniform)).max? with
  | none =>
    rw [List.max?_eq_none_iff] at hmax
    simp [hmax]
  | some highest =>
    obtain ⟨hmem, hle⟩ := List.max?_eq_some_iff.1 hmax
    constructor
    · intro hbound slot hslot
      have hhighest : highest < bound := hbound
      exact lt_of_le_of_lt (hle slot hslot) hhighest
    · intro hall
      exact hall highest hmem

/-- Uniforms are declared below the count of slots. -/
theorem lt_uniformCount {items : List Item} {slot : Nat} {declared : Declaration}
    (h : uniformAt? items slot = some declared) : slot < uniformCount items := by
  have hmem : slot ∈ items.filterMap (Item.slot? .uniform) := by
    rw [← map_fst_uniforms]
    obtain ⟨front, back, hsplit, -⟩ := List.lookup_eq_some_iff.1 h
    rw [hsplit]
    simp
  exact uniformCount_le_iff.1 (Nat.le_refl _) slot hmem

/-- The list of uniforms by slot of what items describe. -/
theorem uniformTable_described (items : List Item) :
    (described items).uniformTable =
      (List.range (uniformCount items)).map (uniformAt? items) := by
  have hsize : (described items).tableSize = uniformCount items := by
    apply eq_of_forall_ge_iff
    intro bound
    rw [Draft.tableSize_le_iff, uniformCount_le_iff, ← map_fst_uniforms, List.forall_mem_map]
    rfl
  rw [Draft.uniformTable_eq, hsize]
  rfl

/-- Nothing is declared beyond the count of slots, so counting further finds nothing more. -/
theorem filterMap_range_uniformCount {α : Type} {items : List Item} {bound : Nat}
    (h : uniformCount items ≤ bound) {f : Nat → Declaration → α} :
    (List.range bound).filterMap (fun slot => (uniformAt? items slot).map (f slot)) =
      (List.range (uniformCount items)).filterMap
        fun slot => (uniformAt? items slot).map (f slot) := by
  obtain ⟨more, rfl⟩ := Nat.exists_eq_add_of_le h
  have hnone : ((List.range more).map (uniformCount items + ·)).filterMap
      (fun slot => (uniformAt? items slot).map (f slot)) = [] := by
    rw [List.filterMap_eq_nil_iff, List.forall_mem_map]
    intro extra hextra
    rw [Option.map_eq_none_iff, Option.eq_none_iff_forall_ne_some]
    intro declared hdeclared
    have := lt_uniformCount hdeclared
    omega
  rw [List.range_add, List.filterMap_append, hnone, List.append_nil]

/-- The slots of the attributes are those that their items take. -/
theorem map_slot_attributes (items : List Item) :
    (attributes items).map (·.slot) = items.filterMap (Item.slot? .attribute) := by
  rw [attributes, List.map_filterMap]
  congr 1
  funext item
  cases item <;> rfl

/-- The slots of the outputs are those that their items take. -/
theorem map_slot_outputs (items : List Item) :
    (outputs items).map (·.slot) = items.filterMap (Item.slot? .output) := by
  rw [outputs, List.map_filterMap]
  congr 1
  funext item
  cases item <;> rfl

/-- The uniforms in slot order are listed under their slots. -/
theorem mem_uniformsBySlot_iff {items : List Item} (h : Consistent items) {slot : Nat}
    {declared : Declaration} :
    (slot, declared) ∈ uniformsBySlot items ↔ uniformAt? items slot = some declared := by
  simp only [uniformsBySlot, List.mem_filterMap, List.mem_range, Option.map_eq_some_iff,
    Prod.mk.injEq]
  constructor
  · intro hlisted
    obtain ⟨other, -, found, hfound, rfl, rfl⟩ := hlisted
    exact hfound
  · intro hdeclared
    have hlt : slot < SlotKind.uniform.capacity :=
      lt_of_lt_of_le (lt_uniformCount hdeclared) (uniformCount_le_iff.2 (h.slot_lt .uniform))
    exact ⟨slot, hlt, declared, hdeclared, rfl, rfl⟩

/-- The uniforms in slot order are in the order of their slots. -/
theorem pairwise_uniformsBySlot (items : List Item) :
    ((uniformsBySlot items).map Prod.fst).Pairwise (· < ·) := by
  have hslots : (uniformsBySlot items).map Prod.fst =
      (List.range SlotKind.uniform.capacity).filter fun slot => (uniformAt? items slot).isSome := by
    rw [uniformsBySlot, List.map_filterMap, ← List.filterMap_eq_filter]
    congr 1
    funext slot
    cases hdeclared : uniformAt? items slot <;> simp [Option.guard, hdeclared]
  rw [hslots]
  exact List.pairwise_lt_range.filter _

/-- Items with the same name are the same. -/
theorem eq_of_name? {items : List Item} (h : Consistent items) {first second : Item}
    (hfirst : first ∈ items) (hsecond : second ∈ items) {name : String}
    (hname : first.name? = some name) (hother : second.name? = some name) : first = second := by
  let Differ (a b : Item) : Prop := ∀ x, a.name? = some x → ∀ y, b.name? = some y → x ≠ y
  have hdiffer : items.Pairwise Differ := List.pairwise_filterMap.1 h.names_nodup
  have hsymm : Std.Symm Differ := ⟨fun a b hab x hx y hy hxy => hab y hy x hx hxy.symm⟩
  by_contra hne
  exact hdiffer.forall hfirst hsecond hne name hname name hother rfl

/-- What an item declares has an identifier for its name. -/
theorem isIdentifier_of_declarator? {items : List Item} {text : List Char} (h : Source items text)
    {item : Item} (hitem : item ∈ items) {declared : Declaration}
    (hmade : item.declarator?.map (·.declaration) = some declared) :
    IsIdentifier declared.name.toList := by
  obtain ⟨declarator, hdeclarator, rfl⟩ := Option.map_eq_some_iff.1 hmade
  exact isIdentifier_declarator h hitem hdeclarator

/-- Attributes have identifiers for their names. -/
theorem isIdentifier_attributes {items : List Item} {text : List Char} (h : Source items text)
    {slot : SlotDecl} (hslot : slot ∈ attributes items) :
    IsIdentifier slot.declaration.name.toList := by
  obtain ⟨item, hitem, hsome⟩ := List.mem_filterMap.1 hslot
  apply isIdentifier_of_declarator? h hitem
  cases item <;> cases hsome
  rfl

/-- Varyings have identifiers for their names. -/
theorem isIdentifier_varyings {items : List Item} {text : List Char} (h : Source items text)
    {declared : Declaration} (hdeclared : declared ∈ varyings items) :
    IsIdentifier declared.name.toList := by
  obtain ⟨item, hitem, hsome⟩ := List.mem_filterMap.1 hdeclared
  apply isIdentifier_of_declarator? h hitem
  cases item <;> cases hsome
  rfl

/-- Outputs have identifiers for their names. -/
theorem isIdentifier_outputs {items : List Item} {text : List Char} (h : Source items text)
    {slot : SlotDecl} (hslot : slot ∈ outputs items) :
    IsIdentifier slot.declaration.name.toList := by
  obtain ⟨item, hitem, hsome⟩ := List.mem_filterMap.1 hslot
  apply isIdentifier_of_declarator? h hitem
  cases item <;> cases hsome
  rfl

/-- Uniforms have identifiers for their names. -/
theorem isIdentifier_uniformAt? {items : List Item} {text : List Char} (h : Source items text)
    (hconsistent : Consistent items) {slot : Nat} {declared : Declaration}
    (hdeclared : uniformAt? items slot = some declared) : IsIdentifier declared.name.toList := by
  obtain ⟨declarator, hitem, rfl⟩ := (uniformAt?_eq_some_iff hconsistent).1 hdeclared
  exact isIdentifier_of_declarator? h hitem rfl

end Grammar

namespace Origin

variable {source : String} {items : List Item} {draft : Draft} {shader : Shader}

/-- The uniforms of a shader are listed by the slots of the items. -/
theorem uniforms_eq (h : Origin source items draft shader) :
    shader.uniforms.map (Option.map (·.unplaced)) =
      (List.range (uniformCount items)).map (uniformAt? items) := by
  rw [← uniformTable_described, ← h.described_eq, Draft.uniformTable_unplaced, ← h.shader_eq]
  rfl

/-- The attributes of a shader are those of the items. -/
theorem attributes_eq (h : Origin source items draft shader) :
    shader.attributes.map (·.unplaced) = attributes items := by
  have hdraft := congrArg Draft.attributes h.described_eq
  rw [← h.shader_eq]
  exact hdraft

/-- The varyings of a shader are those of the items. -/
theorem varyings_eq (h : Origin source items draft shader) :
    shader.varyings.map (·.unplaced) = varyings items := by
  have hdraft := congrArg Draft.varyings h.described_eq
  rw [← h.shader_eq]
  exact hdraft

/-- The outputs of a shader are those of the items. -/
theorem outputs_eq (h : Origin source items draft shader) :
    shader.outputs.map (·.unplaced) = outputs items := by
  have hdraft := congrArg Draft.outputs h.described_eq
  rw [← h.shader_eq]
  exact hdraft

/-- No more slots are counted than there are. -/
theorem uniformCount_le (h : Origin source items draft shader) :
    uniformCount items ≤ SlotKind.uniform.capacity :=
  uniformCount_le_iff.2 (h.wellFormed.slot_lt .uniform)

/-- The uniforms of a shader in slot order are those of the items. -/
theorem filterMap_uniforms (h : Origin source items draft shader) :
    (shader.uniforms.filterMap id).map (·.unplaced) = (uniformsBySlot items).map Prod.snd := by
  have hshader : (shader.uniforms.filterMap id).map (·.unplaced) =
      (shader.uniforms.map (Option.map (·.unplaced))).filterMap id := by
    rw [List.map_filterMap, List.filterMap_map]
    rfl
  rw [hshader, h.uniforms_eq, uniformsBySlot, filterMap_range_uniformCount h.uniformCount_le,
    List.filterMap_map, List.map_filterMap]
  congr 1
  funext slot
  cases hdeclared : uniformAt? items slot <;> simp [hdeclared]

/-- The names of the uniforms of a shader, up to the highest slot. -/
theorem uniformNames_eq (h : Origin source items draft shader) :
    shader.uniformNames =
      (List.range (uniformCount items)).map fun slot => (uniformAt? items slot).map (·.name) := by
  have hnames : shader.uniformNames =
      (shader.uniforms.map (Option.map (·.unplaced))).map (Option.map (·.name)) := by
    rw [List.map_map]
    apply List.map_congr_left
    intro entry hentry
    cases entry <;> rfl
  rw [hnames, h.uniforms_eq, List.map_map]
  rfl

end Origin

end ShaderPipeline.Language
