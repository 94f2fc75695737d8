import ShaderPipeline.Proofs.Language.RoundTrip

/-!
# Checked shaders

What the code that works with a compiled shader can rely on. Slots are within the limits and taken
once, a property is declared once, names are identifiers, and every property that is used is
declared with the type that its use asks for. `Shader.Checked` says so of a shader alone, without
the source, and every compiled shader is checked (`checked_of_compile`).

A shader comes from the items of its source by way of a draft; `Origin` keeps the three together,
so that what is known of items by kind can be said of the lists of the shader.
-/

namespace ShaderPipeline.Language

open Grammar

/-! ## Where a shader comes from -/

/-- A shader is made of a draft that is described by the items of a source. -/
structure Origin (source : String) (items : List Item) (draft : Draft) (shader : Shader) :
    Prop where
  source_eq : Source items source.toList
  wellFormed : WellFormed items
  described_eq : draft.unplaced = described items
  resolved : draft.Resolved
  vertex_eq : draft.vertex = some shader.vertex
  fragment_eq : draft.fragment = some shader.fragment
  shader_eq : draft.shader shader.vertex shader.fragment = shader

/-- What is read from a compiled source is a draft of its shader. -/
theorem toShader_of_compile {source : String} {shader : Shader} (h : compile source = .ok shader) :
    ∃ draft, readItems {} (.atStart source.toList) = .ok draft ∧ draft.toShader = .ok shader := by
  unfold compile at h
  cases hread : readItems {} (.atStart source.toList) with
  | error e =>
    rw [hread] at h
    cases h
  | ok draft =>
    rw [hread] at h
    exact ⟨draft, rfl, h⟩

/-- A compiled shader comes from any items that its source is made of. -/
theorem exists_origin_of_source {source : String} {shader : Shader}
    (h : compile source = .ok shader) {items : List Item} (hsource : Source items source.toList)
    (hwell : WellFormed items) : ∃ draft, Origin source items draft shader := by
  obtain ⟨draft, hread, hshader⟩ := toShader_of_compile h
  have hempty : ({} : Draft).unplaced = described [] := rfl
  have hstart : Source items (Cursor.atStart source.toList).rest := hsource
  obtain ⟨final, hfinal, hdescribed⟩ := readItems_complete hstart hempty hwell.toConsistent
  obtain rfl : draft = final := Except.ok.inj (hread.symm.trans hfinal)
  obtain ⟨hresolved, vertex, fragment, hvertex, hfragment, rfl⟩ :=
    Draft.toShader_eq_ok_iff.1 hshader
  exact ⟨draft, hsource, hwell, hdescribed, hresolved, hvertex, hfragment, rfl⟩

/-- The source of a compiled shader is made of items. -/
theorem exists_source_of_compile {source : String} {shader : Shader}
    (h : compile source = .ok shader) :
    ∃ items, Source items source.toList ∧ WellFormed items := by
  obtain ⟨draft, hread, hshader⟩ := toShader_of_compile h
  obtain ⟨items, hsource, hconsistent, hdescribed⟩ := readItems_sound hread rfl consistent_nil
  rw [List.nil_append] at hconsistent hdescribed
  have hplaces : (described items).toShader = .ok shader.unplaced := by
    rw [← hdescribed]
    exact Draft.toShader_unplaced_iff.2 ⟨shader, hshader, rfl⟩
  exact ⟨items, hsource, (wellFormed_iff hconsistent).2 ⟨_, hplaces⟩⟩

/-- Every compiled shader comes from the items of its source. -/
theorem exists_origin {source : String} {shader : Shader} (h : compile source = .ok shader) :
    ∃ items draft, Origin source items draft shader := by
  obtain ⟨items, hsource, hwell⟩ := exists_source_of_compile h
  exact ⟨items, exists_origin_of_source h hsource hwell⟩

/-! ## What is checked -/

namespace Shader

/-- The declarations that can be arrays, in the order in which they are checked. -/
def declarations (shader : Shader) : List Declaration :=
  shader.uniforms.filterMap id ++ shader.attributes.map (·.declaration) ++ shader.varyings ++
    shader.outputs.map (·.declaration)

/-- The type with which a property is declared. -/
def propertyType? (shader : Shader) (name : String) : Option PropertyType :=
  (shader.property? name).map (·.type)

/-- The places in the blocks of a shader that name a property. -/
def references (shader : Shader) : List PropertyRef :=
  (shader.shared.getD []).propertyRefs ++ Body.propertyRefs shader.vertex ++
    Body.propertyRefs shader.fragment

/-- What is known of a shader after its checks. -/
structure Checked (shader : Shader) : Prop where
  /-- No more uniforms are listed than there are slots. -/
  uniforms_le : shader.uniforms.length ≤ SlotKind.uniform.capacity
  /-- Attributes are within their limit. -/
  attribute_lt : ∀ slot ∈ shader.attributes, slot.slot < SlotKind.attribute.capacity
  /-- Outputs are within their limit. -/
  output_lt : ∀ slot ∈ shader.outputs, slot.slot < SlotKind.output.capacity
  /-- No two attributes have the same slot. -/
  attributes_nodup : (shader.attributes.map (·.slot)).Nodup
  /-- No two outputs have the same slot. -/
  outputs_nodup : (shader.outputs.map (·.slot)).Nodup
  /-- No property is declared twice. -/
  properties_nodup : (shader.properties.map (·.name)).Nodup
  /-- Array lengths are declared as integers. -/
  length_int : ∀ declared ∈ shader.declarations, ∀ reference,
    declared.array = some (.property reference) →
      shader.propertyType? reference.name = some .int
  /-- Conditions are declared as truth values. -/
  condition_bool : ∀ slot ∈ shader.attributes ++ shader.outputs, ∀ reference ∈ slot.condition,
    shader.propertyType? reference.name = some .bool
  /-- What a block refers to is declared. -/
  reference_declared : ∀ reference ∈ shader.references,
    (shader.propertyType? reference.name).isSome

end Shader

/-! ## Every compiled shader is checked -/

/-- The name of a declarator is an identifier, since it is a token of the source. -/
theorem isIdentifier_declarator {items : List Item} {text : List Char} (h : Source items text)
    {item : Item} (hitem : item ∈ items) {declarator : Declarator}
    (hdeclarator : item.declarator? = some declarator) : IsIdentifier declarator.name.toList := by
  have htoken : Token.identifier declarator.name ∈ item.allTokens := by
    cases item <;> cases hdeclarator <;>
      simp [Item.allTokens, Item.tokens, Declarator.tokens]
  exact writable_of_mem h hitem _ htoken

namespace Origin

variable {source : String} {items : List Item} {draft : Draft} {shader : Shader}

/-- The slots of a draft are those of the items. -/
theorem slots_eq (h : Origin source items draft shader) (kind : SlotKind) :
    draft.slots kind = items.filterMap (Item.slot? kind) := by
  rw [← Draft.slots_unplaced, h.described_eq, slots_described]

/-- Slots are within the limits. -/
theorem slot_lt (h : Origin source items draft shader) {kind : SlotKind} {slot : Nat}
    (hslot : slot ∈ draft.slots kind) : slot < kind.capacity := by
  rw [h.slots_eq] at hslot
  exact h.wellFormed.slot_lt kind slot hslot

/-- No slot of a kind is taken twice. -/
theorem slots_nodup (h : Origin source items draft shader) (kind : SlotKind) :
    (draft.slots kind).Nodup := by
  rw [h.slots_eq]
  exact h.wellFormed.slots_nodup kind

/-- No name stands for two things. -/
theorem names_nodup (h : Origin source items draft shader) : draft.names.Nodup := by
  rw [← Draft.names_unplaced, h.described_eq, (names_described_perm items).nodup_iff]
  exact h.wellFormed.names_nodup

/-- The list of uniforms by slot is within the limit. -/
theorem tableSize_le (h : Origin source items draft shader) :
    draft.tableSize ≤ SlotKind.uniform.capacity := by
  rw [Draft.tableSize_le_iff]
  intro entry hentry
  have hslot : entry.1 ∈ draft.slots .uniform := List.mem_map_of_mem hentry
  exact h.slot_lt hslot

/-- The types of the properties are those that the items give them. -/
theorem propertyType?_iff (h : Origin source items draft shader) {name : String}
    {type : PropertyType} :
    shader.propertyType? name = some type ↔ (name, type) ∈ items.filterMap Item.property? := by
  have hshader : shader.propertyType? name = draft.propertyType? name := by
    rw [← h.shader_eq]
    rfl
  rw [hshader, ← Draft.propertyType?_unplaced, h.described_eq]
  exact propertyType?_described_iff h.wellFormed.toConsistent

/-- The blocks are those of the items. -/
theorem block_iff (h : Origin source items draft shader) {kind : BlockKind} {found : Body} :
    (draft.block kind).map Body.unplaced = some found ↔
      ∃ parts, Item.block kind parts ∈ items ∧ body parts = found := by
  rw [← Draft.block_unplaced, h.described_eq]
  exact block_described_eq_some_iff h.wellFormed.toConsistent

/-- The body of a stage is that of its block. -/
theorem stage_eq (h : Origin source items draft shader) {stage : StageKind} {parts : List Part}
    (hitem : Item.block (.stage stage) parts ∈ items) :
    Body.unplaced (shader.stage stage) = body parts := by
  have hblock := h.block_iff.2 ⟨parts, hitem, rfl⟩
  have hstage : draft.block (.stage stage) = some (shader.stage stage) := by
    cases stage with
    | vertex => exact h.vertex_eq
    | fragment => exact h.fragment_eq
  rw [hstage] at hblock
  exact Option.some.inj hblock

/-- Every stage has a block. -/
theorem exists_stage (h : Origin source items draft shader) (stage : StageKind) :
    ∃ parts, Item.block (.stage stage) parts ∈ items := by
  have hone := h.wellFormed.stage_eq stage
  obtain ⟨parts, hparts⟩ := List.length_eq_one_iff.1 hone
  have hmem : parts ∈ items.filterMap (Item.body? (.stage stage)) := by
    rw [hparts]
    exact List.mem_singleton_self parts
  obtain ⟨item, hitem, hbody⟩ := List.mem_filterMap.1 hmem
  have hblock : item = .block (.stage stage) parts := by
    cases item <;> grind [Item.body?]
  exact ⟨parts, hblock ▸ hitem⟩

/-- The shared body is that of the shared block. -/
theorem exists_shared (h : Origin source items draft shader) {parts : List Part}
    (hitem : Item.block .shared parts ∈ items) :
    ∃ found, shader.shared = some found ∧ Body.unplaced found = body parts := by
  have hblock := h.block_iff.2 ⟨parts, hitem, rfl⟩
  rw [← h.shader_eq]
  exact Option.map_eq_some_iff.1 hblock

/-- Without a shared block there is no shared body. -/
theorem shared_eq_none (h : Origin source items draft shader)
    (hnone : ∀ parts, Item.block .shared parts ∉ items) : shader.shared = none := by
  have hblock : (draft.block .shared).map Body.unplaced = none := by
    rw [Option.eq_none_iff_forall_ne_some]
    intro found hfound
    obtain ⟨parts, hitem, -⟩ := h.block_iff.1 hfound
    exact hnone parts hitem
  rw [← h.shader_eq]
  exact Option.map_eq_none_iff.1 hblock

/-- What comes from the items of a source is checked. -/
theorem checked (h : Origin source items draft shader) : shader.Checked := by
  have hlengths := h.resolved.length_int
  have hconditions := h.resolved.condition_bool
  have hreferences := h.resolved.reference_declared
  have hnames := h.names_nodup
  have hsize := h.tableSize_le
  have hslots (kind : SlotKind) : ∀ slot ∈ draft.slots kind, slot < kind.capacity :=
    fun slot hmem => h.slot_lt hmem
  have hnodup := h.slots_nodup
  rw [Draft.references, h.vertex_eq, h.fragment_eq] at hreferences
  rw [← h.shader_eq]
  refine ⟨?_, ?_, ?_, hnodup .attribute, hnodup .output, ?_, ?_, ?_, hreferences⟩
  · change draft.uniformTable.length ≤ _
    rw [Draft.uniformTable_eq, List.length_map, List.length_range]
    exact hsize
  · intro slot hslot
    exact hslots .attribute slot.slot (List.mem_map_of_mem hslot)
  · intro slot hslot
    exact hslots .output slot.slot (List.mem_map_of_mem hslot)
  · exact hnames.of_append_left.of_append_left.of_append_left.of_append_left
  · intro declared hdeclared reference harray
    apply hlengths reference
    refine List.mem_filterMap.2 ⟨declared, hdeclared, ?_⟩
    simp only [Draft.lengthRef?, harray]
  · intro slot hslot reference hreference
    exact hconditions reference (List.mem_filterMap.2 ⟨slot, hslot, hreference⟩)

end Origin

/-- Every compiled shader is checked. -/
theorem checked_of_compile {source : String} {shader : Shader} (h : compile source = .ok shader) :
    shader.Checked := by
  obtain ⟨items, draft, horigin⟩ := exists_origin h
  exact horigin.checked

end ShaderPipeline.Language
