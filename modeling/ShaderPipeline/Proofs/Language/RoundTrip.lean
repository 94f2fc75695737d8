import ShaderPipeline.Proofs.Language.Acceptance
import ShaderPipeline.Proofs.Language.Printing

/-!
# Compiling what was written

A compiled shader that is written as a source compiles again to the same shader, places aside
(`compile_print`). The items of the written source are those of the source that was compiled, in
another order and with other bodies: uniforms come by slot, and bodies are trimmed. So the draft of
the written source is the one of the original but for the order of its uniforms, and neither the
checks nor the list of uniforms by slot depend on that order.
-/

namespace ShaderPipeline.Language

open Grammar

/-! ## The order of uniforms -/

/-- What is listed by slot stands in the list at that slot. -/
theorem mem_slotted_iff {table : List (Option Declaration)} {entry : Nat × Declaration} :
    entry ∈ slotted table ↔ table[entry.1]? = some (some entry.2) := by
  obtain ⟨slot, declared⟩ := entry
  simp only [slotted, List.mem_filterMap, List.mem_zipIdx_iff_getElem?, Prod.exists,
    Option.map_eq_some_iff, Prod.mk.injEq]
  constructor
  · intro h
    obtain ⟨_, _, hentry, _, rfl, rfl, rfl⟩ := h
    exact hentry
  · intro h
    exact ⟨some declared, slot, h, declared, rfl, rfl, rfl⟩

/-- No slot is listed twice. -/
theorem nodup_slotted (table : List (Option Declaration)) : (slotted table).Nodup := by
  have hindices : (table.zipIdx.map Prod.snd).Nodup := by
    rw [List.zipIdx_map_snd]
    exact List.nodup_range'
  refine List.Nodup.filterMap ?_ hindices.of_map
  intro first second entry hfirst hsecond
  obtain ⟨declared, hdeclared, rfl⟩ := Option.map_eq_some_iff.1 hfirst
  obtain ⟨other, hother, heq⟩ := Option.map_eq_some_iff.1 hsecond
  obtain ⟨hslot, rfl⟩ := Prod.mk.inj heq
  exact Prod.ext (hdeclared.trans hother.symm) hslot.symm

namespace Draft

/-- The uniforms of the list by slot are the uniforms in another order. -/
theorem slotted_uniformTable_perm {draft : Draft} (h : (draft.uniforms.map Prod.fst).Nodup) :
    (slotted draft.uniformTable).Perm draft.uniforms := by
  rw [List.perm_ext_iff_of_nodup (nodup_slotted _) h.of_map]
  intro entry
  rw [mem_slotted_iff, uniformTable_eq, ← lookup_eq_some_iff_mem h, List.getElem?_map]
  by_cases hslot : entry.1 < draft.tableSize
  · simp [List.getElem?_range hslot]
  · have hnone : draft.uniforms.lookup entry.1 ≠ some entry.2 := by
      intro hlookup
      exact hslot (lt_tableSize ((lookup_eq_some_iff_mem h).1 hlookup))
    have hend : (List.range draft.tableSize)[entry.1]? = none := by
      rw [List.getElem?_eq_none_iff, List.length_range]
      exact Nat.not_lt.1 hslot
    simp [hnone, hend]

/-- The list of uniforms by slot does not depend on the order of the uniforms. -/
theorem uniformTable_of_perm {draft other : Draft} (hperm : other.uniforms.Perm draft.uniforms)
    (h : (draft.uniforms.map Prod.fst).Nodup) : other.uniformTable = draft.uniformTable := by
  have hother : (other.uniforms.map Prod.fst).Nodup := (hperm.map Prod.fst).nodup_iff.2 h
  have hsize : other.tableSize = draft.tableSize := by
    apply Nat.le_antisymm
    · rw [tableSize_le_iff]
      intro entry hentry
      exact lt_tableSize (hperm.mem_iff.1 hentry)
    · rw [tableSize_le_iff]
      intro entry hentry
      exact lt_tableSize (hperm.mem_iff.2 hentry)
  rw [uniformTable_eq, uniformTable_eq, hsize]
  refine List.map_congr_left fun slot _ => Option.ext fun declared => ?_
  rw [lookup_eq_some_iff_mem hother, lookup_eq_some_iff_mem h, hperm.mem_iff]

/-- Which shader a draft is does not depend on the order of its uniforms. -/
theorem toShader_of_perm {draft : Draft} {uniforms : List (Nat × Declaration)}
    (hperm : uniforms.Perm draft.uniforms) (h : (draft.uniforms.map Prod.fst).Nodup) :
    ({ draft with uniforms := uniforms } : Draft).toShader = draft.toShader := by
  have htable : ({ draft with uniforms := uniforms } : Draft).uniformTable = draft.uniformTable :=
    uniformTable_of_perm hperm h
  unfold toShader declarations
  rw [htable]
  rfl

end Draft

/-! ## The items of a shader -/

/-- A property of a described draft is declared by the item that it is written as. -/
theorem item_of_mem_properties {items : List Item} {declared : PropertyDecl}
    (h : declared ∈ (described items).properties) :
    declared.item ∈ items ∧ declared.item.propertyDecl? = some declared := by
  obtain ⟨item, hitem, hmade⟩ := List.mem_filterMap.1 h
  cases item <;> cases hmade
  exact ⟨hitem, rfl⟩

/-- A uniform of a described draft is declared by the item that it is written as. -/
theorem item_of_mem_uniforms {items : List Item} {entry : Nat × Declaration}
    (h : entry ∈ (described items).uniforms) :
    Item.uniform entry.1 entry.2.written ∈ items ∧
      (Item.uniform entry.1 entry.2.written).uniform? = some entry := by
  obtain ⟨item, hitem, hmade⟩ := List.mem_filterMap.1 h
  cases item <;> cases hmade
  rw [written_declaration]
  exact ⟨hitem, rfl⟩

/-- A condition is written as the name of its property. -/
theorem map_name_referenceTo (condition : Option String) :
    (condition.map referenceTo).map (·.name) = condition := by
  cases condition <;> rfl

/-- An attribute of a described draft is declared by the item that it is written as. -/
theorem item_of_mem_attributes {items : List Item} {declared : SlotDecl}
    (h : declared ∈ (described items).attributes) :
    declared.attributeItem ∈ items ∧ declared.attributeItem.attribute? = some declared := by
  obtain ⟨item, hitem, hmade⟩ := List.mem_filterMap.1 h
  cases item <;> cases hmade
  rw [SlotDecl.attributeItem, written_declaration, map_name_referenceTo]
  exact ⟨hitem, rfl⟩

/-- A varying of a described draft is declared by the item that it is written as. -/
theorem item_of_mem_varyings {items : List Item} {declared : Declaration}
    (h : declared ∈ (described items).varyings) :
    Item.varying declared.written ∈ items ∧
      (Item.varying declared.written).varying? = some declared := by
  obtain ⟨item, hitem, hmade⟩ := List.mem_filterMap.1 h
  cases item <;> cases hmade
  rw [written_declaration]
  exact ⟨hitem, rfl⟩

/-- An output of a described draft is declared by the item that it is written as. -/
theorem item_of_mem_outputs {items : List Item} {declared : SlotDecl}
    (h : declared ∈ (described items).outputs) :
    declared.outputItem ∈ items ∧ declared.outputItem.output? = some declared := by
  obtain ⟨item, hitem, hmade⟩ := List.mem_filterMap.1 h
  cases item <;> cases hmade
  rw [SlotDecl.outputItem, written_declaration, map_name_referenceTo]
  exact ⟨hitem, rfl⟩

/-- The items of a shader are among those that describe it. -/
theorem mem_of_mem_items {items : List Item} {vertex fragment : Body} {item : Item}
    (h : Consistent items) (hitem : item ∈ ((described items).shader vertex fragment).items) :
    item ∈ items := by
  simp only [Shader.items, List.mem_append, List.mem_map] at hitem
  rcases hitem with (((⟨_, hmem, rfl⟩ | ⟨_, hmem, rfl⟩) | ⟨_, hmem, rfl⟩) | ⟨_, hmem, rfl⟩) |
    ⟨_, hmem, rfl⟩
  · exact (item_of_mem_properties hmem).1
  · have hperm := Draft.slotted_uniformTable_perm h.uniforms_nodup
    exact (item_of_mem_uniforms (hperm.mem_iff.1 hmem)).1
  · exact (item_of_mem_attributes hmem).1
  · exact (item_of_mem_varyings hmem).1
  · exact (item_of_mem_outputs hmem).1

/-- What is written and then found again is the same. -/
theorem filterMap_map_eq_self {α β : Type} {list : List α} {write : α → β} {find : β → Option α}
    (h : ∀ a ∈ list, find (write a) = some a) : (list.map write).filterMap find = list := by
  induction list with
  | nil => rfl
  | cons first rest ih =>
    obtain ⟨hfirst, hrest⟩ := List.forall_mem_cons.1 h
    rw [List.map_cons, List.filterMap_cons_some hfirst, ih hrest]

/-- The draft that the items of a shader describe is the one that the shader came from, with its
uniforms by slot and with the bodies of the blocks. -/
theorem described_itemsWith {items : List Item} (h : Consistent items) (vertex fragment : Body)
    (sharedParts : Option (List Part)) (vertexParts fragmentParts : List Part) :
    described (((described items).shader vertex fragment).itemsWith sharedParts vertexParts
      fragmentParts) =
      { described items with
        uniforms := slotted (described items).uniformTable
        shared := sharedParts.map body
        vertex := some (body vertexParts)
        fragment := some (body fragmentParts) } := by
  have hproperties := filterMap_map_eq_self fun declared hmem =>
    (@item_of_mem_properties items declared hmem).2
  have hperm := Draft.slotted_uniformTable_perm h.uniforms_nodup
  have huniforms := filterMap_map_eq_self fun entry hmem =>
    (@item_of_mem_uniforms items entry (hperm.mem_iff.1 hmem)).2
  have hattributes := filterMap_map_eq_self fun declared hmem =>
    (@item_of_mem_attributes items declared hmem).2
  have hvaryings := filterMap_map_eq_self fun declared hmem =>
    (@item_of_mem_varyings items declared hmem).2
  have houtputs := filterMap_map_eq_self fun declared hmem =>
    (@item_of_mem_outputs items declared hmem).2
  generalize described items = draft at *
  rw [described, Draft.mk.injEq]
  simp only [Shader.itemsWith, Shader.items, Draft.shader, List.filterMap_append, hproperties,
    huniforms, hattributes, hvaryings, houtputs]
  cases sharedParts <;>
  simp [PropertyDecl.item, SlotDecl.attributeItem, SlotDecl.outputItem, Item.propertyDecl?,
    Item.property?, Item.uniform?, Item.attribute?, Item.varying?, Item.output?, Item.body?,
    List.filterMap_cons, Function.comp_def]

/-- There is at most one block of a kind among the items of a shader. -/
theorem blocks_itemsWith_le (shader : Shader) (sharedParts : Option (List Part))
    (vertexParts fragmentParts : List Part) (kind : BlockKind) :
    ((shader.itemsWith sharedParts vertexParts fragmentParts).filterMap
      (Item.body? kind)).length ≤ 1 := by
  have hnone : shader.items.filterMap (Item.body? kind) = [] := by
    rw [List.filterMap_eq_nil_iff]
    intro item hitem
    have hdeclaration := isDeclaration_of_mem_items hitem
    cases item with
    | block other parts => cases hdeclaration
    | _ => rfl
  rw [Shader.itemsWith, List.filterMap_append, hnone, List.nil_append]
  match kind with
  | .shared => cases sharedParts <;> simp [Item.body?]
  | .stage .vertex => cases sharedParts <;> simp [Item.body?]
  | .stage .fragment => cases sharedParts <;> simp [Item.body?]

/-- The items of a shader are consistent if those that describe it are. -/
theorem consistent_itemsWith {items : List Item} (h : Consistent items) (vertex fragment : Body)
    (sharedParts : Option (List Part)) (vertexParts fragmentParts : List Part) :
    Consistent (((described items).shader vertex fragment).itemsWith sharedParts vertexParts
      fragmentParts) := by
  have hperm := Draft.slotted_uniformTable_perm h.uniforms_nodup
  have hdescribed := described_itemsWith h vertex fragment sharedParts vertexParts fragmentParts
  have hmem (item : Item) (hitem : item ∈ ((described items).shader vertex fragment).itemsWith
      sharedParts vertexParts fragmentParts) :
      item ∈ items ∨ ∃ kind parts, item = .block kind parts := by
    rcases List.mem_append.1 hitem with hitem | hitem
    · exact .inl (mem_of_mem_items h hitem)
    · refine .inr ?_
      cases sharedParts <;> simp at hitem <;> grind
  refine ⟨?_, ?_, ?_, ?_, blocks_itemsWith_le _ sharedParts vertexParts fragmentParts⟩
  · intro kind slot hslot
    obtain ⟨item, hitem, hslot⟩ := List.mem_filterMap.1 hslot
    rcases hmem item hitem with hitem | ⟨_, _, rfl⟩
    · exact h.slot_lt kind slot (List.mem_filterMap.2 ⟨item, hitem, hslot⟩)
    · cases kind <;> cases hslot
  · intro kind
    rw [← slots_described, hdescribed]
    have hnodup := h.slots_nodup kind
    rw [← slots_described] at hnodup
    cases kind with
    | uniform => exact (hperm.map Prod.fst).nodup_iff.2 h.uniforms_nodup
    | «attribute» => exact hnodup
    | output => exact hnodup
  · intro declarator hdeclarator
    obtain ⟨item, hitem, hdeclarator⟩ := List.mem_filterMap.1 hdeclarator
    rcases hmem item hitem with hitem | ⟨_, _, rfl⟩
    · exact h.length_ne declarator (List.mem_filterMap.2 ⟨item, hitem, hdeclarator⟩)
    · cases hdeclarator
  · rw [← (names_described_perm _).nodup_iff, hdescribed]
    have hnames := ((((hperm.map (·.2.name)).append_left ((described items).properties.map (·.name))
      ).append_right ((described items).attributes.map (·.declaration.name))).append_right
        ((described items).varyings.map (·.name))).append_right
          ((described items).outputs.map (·.declaration.name))
    exact hnames.nodup_iff.2 ((names_described_perm items).nodup_iff.2 h.names_nodup)

/-! ## The written source -/

/-- Every item of a source stands somewhere in it. -/
theorem stands_of_mem {items : List Item} {text : List Char} (h : Source items text) {item : Item}
    (hitem : item ∈ items) : ∃ start rest, item.Stands start rest := by
  induction h with
  | nil => cases hitem
  | cons hfirst hmore ih =>
    rcases List.mem_cons.1 hitem with rfl | hitem
    · exact ⟨_, _, hfirst⟩
    · exact ih hitem

/-- The tokens of the items of a source can be written. -/
theorem writable_of_mem {items : List Item} {text : List Char} (h : Source items text) {item : Item}
    (hitem : item ∈ items) : ∀ token ∈ item.allTokens, token.Writable := by
  obtain ⟨start, rest, mid, hdirective, body, htokens, -⟩ := stands_of_mem h hitem
  exact writable_of_spells (spells_cons_iff.2 ⟨mid, hdirective, htokens⟩)

/-- The blocks of a source can be written and read again. -/
theorem exists_printed {items : List Item} {text : List Char} (h : Source items text)
    (hconsistent : Consistent items) (kind : BlockKind) {segments : Body}
    (hblock : (described items).block kind = some segments) : ∃ parts, Printed segments parts := by
  obtain ⟨parts, hitem, rfl⟩ := (block_described_eq_some_iff hconsistent).1 hblock
  obtain ⟨start, rest, mid, -, body, -, hclosed⟩ := stands_of_mem h hitem
  obtain ⟨more, hbody, hprinted⟩ := exists_parts_bodyText hclosed
  exact ⟨more, hbody, hprinted⟩

/-- How a declaration is written does not depend on places. -/
theorem written_unplaced (declared : Declaration) :
    declared.unplaced.written = declared.written := by
  rw [← declaration_written, written_declaration]

/-- Listing uniforms with their slots does not depend on places. -/
theorem slotted_unplaced (table : List (Option Declaration)) :
    slotted (table.map (Option.map (·.unplaced))) =
      (slotted table).map fun entry => (entry.1, entry.2.unplaced) := by
  rw [slotted, slotted, List.zipIdx_map, List.filterMap_map, List.map_filterMap]
  congr 1
  funext entry
  obtain ⟨_ | declared, slot⟩ := entry <;> rfl

/-- The items of a shader do not depend on places. -/
theorem items_unplaced (shader : Shader) : shader.unplaced.items = shader.items := by
  have hcondition (condition : Option PropertyRef) :
      (condition.map (·.unplaced)).map (·.name) = condition.map (·.name) := by
    cases condition <;> rfl
  simp [Shader.items, Shader.unplaced, slotted_unplaced, written_unplaced, PropertyDecl.item,
    PropertyDecl.unplaced, SlotDecl.attributeItem, SlotDecl.outputItem, SlotDecl.unplaced,
    hcondition, Function.comp_def]

/-- How a body is written does not depend on places. -/
theorem bodyText_unplaced (segments : Body) : bodyText segments.unplaced = bodyText segments := by
  rw [bodyText, bodyText, Body.unplaced, List.flatMap_map]
  congr 1
  funext segment
  cases segment <;> rfl

/-- Writing a shader does not need its places. -/
theorem print_unplaced (shader : Shader) : shader.unplaced.print = shader.print := by
  have hblock (kind : BlockKind) (segments : Body) :
      blockText kind segments.unplaced = blockText kind segments := by
    rw [blockText, blockText, bodyText_unplaced]
  rw [Shader.print, Shader.print, items_unplaced]
  simp [Shader.unplaced, hblock, Function.comp_def]

/-- A compiled shader that is written as a source compiles to the same shader, places aside. -/
theorem compile_print {source : String} {shader : Shader} (h : compile source = .ok shader) :
    ∃ again, compile shader.print = .ok again ∧ again.unplaced = shader.unplaced := by
  obtain ⟨items, hsource, hconsistent, hshader⟩ := compile_unplaced_iff.1 ⟨shader, h, rfl⟩
  obtain ⟨hresolved, vertex, fragment, hvertex, hfragment, hresult⟩ :=
    Draft.toShader_eq_ok_iff.1 hshader
  obtain ⟨vertexParts, hvertexParts⟩ := exists_printed hsource hconsistent (.stage .vertex) hvertex
  obtain ⟨fragmentParts, hfragmentParts⟩ :=
    exists_printed hsource hconsistent (.stage .fragment) hfragment
  obtain ⟨sharedParts, hsharedParts⟩ :
      ∃ sharedParts, Option.Rel Printed (described items).shared sharedParts := by
    cases hshared : (described items).shared with
    | none => exact ⟨none, .none⟩
    | some segments =>
      obtain ⟨parts, hparts⟩ := exists_printed hsource hconsistent .shared hshared
      exact ⟨some parts, .some hparts⟩
  have hwritable : ∀ item ∈ ((described items).shader vertex fragment).items,
      ∀ token ∈ item.allTokens, token.Writable := by
    intro item hitem
    exact writable_of_mem hsource (mem_of_mem_items hconsistent hitem)
  have hprint := source_print hwritable hsharedParts hvertexParts hfragmentParts
  rw [hresult, print_unplaced] at hprint
  refine compile_unplaced_iff.2 ⟨_, hprint, ?_, ?_⟩
  · rw [← hresult]
    exact consistent_itemsWith hconsistent ..
  · have hshared : sharedParts.map body = (described items).shared := by
      generalize (described items).shared = segments? at hsharedParts ⊢
      cases hsharedParts with
      | none => rfl
      | some hparts => rw [Option.map_some, hparts.body_eq]
    rw [← hresult, described_itemsWith hconsistent, hshared, hvertexParts.body_eq,
      hfragmentParts.body_eq, hresult, ← hshader, ← hvertex, ← hfragment]
    have hperm := Draft.slotted_uniformTable_perm hconsistent.uniforms_nodup
    exact Draft.toShader_of_perm hperm hconsistent.uniforms_nodup

/-- A source with free slots, a condition and a body that ends in a comment with blanks. -/
def commentedSource : String :=
  "property bool P; uniform 2 highp vec4 u[3]; attribute 1 vec2 a if P;
vertex \x7b $P // end  \n \x7d fragment \x7b\x7d"

/-- The commented source compiles, and so does what is written for it. -/
theorem compile_print_commentedSource : ∃ shader again, compile commentedSource = .ok shader ∧
    compile shader.print = .ok again ∧ again.unplaced = shader.unplaced := by
  have hok : (compile commentedSource).isOk = true := by decide +kernel
  cases hshader : compile commentedSource with
  | error e =>
    rw [hshader] at hok
    cases hok
  | ok shader =>
    obtain ⟨again, hagain, hplaces⟩ := compile_print hshader
    exact ⟨shader, again, rfl, hagain, hplaces⟩

end ShaderPipeline.Language
