import ShaderPipeline.Proofs.Language.ItemReads
import ShaderPipeline.Proofs.Language.Resolution

/-!
# Which sources compile

The main result is `compile_isOk_iff`: a source compiles exactly if it is a sequence of items of
the grammar and the items are well formed. What it is compiled to is described by the same items,
places aside (`compile_unplaced_iff`).

What is left after the items have been read is to compare the checks of the draft, which look at
lists by kind and stop at the first fault, with the conditions on the items. Which fault is
reported for a source that does not compile is not covered.
-/

namespace ShaderPipeline.Language

open Grammar

namespace Grammar

/-! ## References in bodies -/

/-- The property that a piece refers to. -/
def pieceRef? : Piece → Option PropertyRef
  | .text _ => none
  | .property reference => some reference

/-- A text in front does not change what is referred to. -/
theorem filterMap_pieceRef?_prepend (text : List Char) (found : List Piece) :
    (Piece.prepend text found).filterMap pieceRef? = found.filterMap pieceRef? := by
  cases found with
  | nil => rfl
  | cons piece found => cases piece <;> rfl

/-- Trimming the start does not change what is referred to. -/
theorem filterMap_pieceRef?_trimFirst (found : List Piece) :
    (Piece.trimFirst found).filterMap pieceRef? = found.filterMap pieceRef? := by
  cases found with
  | nil => rfl
  | cons piece found => cases piece <;> rfl

/-- Trimming the end does not change what is referred to. -/
theorem filterMap_pieceRef?_trimLast (found : List Piece) :
    (Piece.trimLast found).filterMap pieceRef? = found.filterMap pieceRef? := by
  induction found with
  | nil => rfl
  | cons piece found ih =>
    cases found with
    | nil => cases piece <;> rfl
    | cons second found =>
      rw [Piece.trimLast_cons_cons, List.filterMap_cons, ih, ← List.filterMap_cons]

/-- The references of the segments are those of the pieces. -/
theorem propertyRefs_filterMap_segment? (found : List Piece) :
    Body.propertyRefs (found.filterMap Piece.segment?) = found.filterMap pieceRef? := by
  rw [Body.propertyRefs, List.filterMap_filterMap]
  congr 1
  funext piece
  cases piece with
  | text content =>
    by_cases hcontent : content.isEmpty <;>
    simp [Piece.segment?, hcontent, pieceRef?, Body.segmentRef?]
  | property reference => rfl

/-- A body refers to what its pieces refer to, trimmed or not. -/
theorem propertyRefs_body (parts : List Part) :
    (body parts).propertyRefs = (parts.filterMap Part.reference?).map referenceTo := by
  rw [body, propertyRefs_filterMap_segment?, filterMap_pieceRef?_trimLast,
    filterMap_pieceRef?_trimFirst]
  induction parts with
  | nil => rfl
  | cons part parts ih =>
    cases part with
    | comment text => rw [pieces, filterMap_pieceRef?_prepend, ih]; rfl
    | reference name => rw [pieces, List.filterMap_cons, ih]; rfl
    | char c => rw [pieces, filterMap_pieceRef?_prepend, ih]; rfl

/-! ## What the draft of the items says of them -/

/-- The uniforms that consistent items describe have different slots. -/
theorem Consistent.uniforms_nodup {items : List Item} (h : Consistent items) :
    ((described items).uniforms.map Prod.fst).Nodup := by
  have hnodup := h.slots_nodup .uniform
  rwa [← slots_described] at hnodup

/-- Consistent items have at most one block of a kind. -/
theorem Consistent.bodies_eq {items : List Item} (h : Consistent items) (kind : BlockKind) :
    items.filterMap (Item.body? kind) = [] ∨
      ∃ parts, items.filterMap (Item.body? kind) = [parts] := by
  have hle := h.blocks_le kind
  cases hbodies : items.filterMap (Item.body? kind) with
  | nil => exact .inl rfl
  | cons parts more =>
    rw [hbodies, List.length_cons] at hle
    have hmore : more = [] := List.eq_nil_of_length_eq_zero (by omega)
    exact .inr ⟨parts, by rw [hmore]⟩

/-- A block of a described draft is a block of the items. -/
theorem block_described_eq_some_iff {items : List Item} (h : Consistent items) {kind : BlockKind}
    {found : Body} :
    (described items).block kind = some found ↔
      ∃ parts, Item.block kind parts ∈ items ∧ body parts = found := by
  have hmem (parts : List Part) :
      parts ∈ items.filterMap (Item.body? kind) ↔ Item.block kind parts ∈ items := by
    rw [List.mem_filterMap]
    constructor
    · intro hparts
      obtain ⟨item, hitem, hbody⟩ := hparts
      cases item with
      | block other found =>
        obtain ⟨rfl, rfl⟩ : other = kind ∧ found = parts := by simpa [Item.body?] using hbody
        exact hitem
      | _ => cases hbody
    · intro hparts
      exact ⟨_, hparts, by simp [Item.body?]⟩
  rw [block_described, Option.map_eq_some_iff]
  simp only [← hmem]
  rcases h.bodies_eq kind with hnone | ⟨parts, hone⟩
  · simp [hnone]
  · simp [hone]

/-- The properties of a described draft have the types that the items give them. -/
theorem propertyType?_described_iff {items : List Item} (h : Consistent items) {name : String}
    {type : PropertyType} :
    (described items).propertyType? name = some type ↔
      (name, type) ∈ items.filterMap Item.property? := by
  have hpairs : (described items).properties.map (fun declared => (declared.name, declared.type)) =
      items.filterMap Item.property? := by
    rw [described, List.map_filterMap]
    congr 1
    funext item
    cases item <;> rfl
  have hlookup (declared : List PropertyDecl) :
      (declared.find? (·.name == name)).map (·.type) =
        (declared.map fun declared => (declared.name, declared.type)).lookup name := by
    induction declared with
    | nil => rfl
    | cons first declared ih =>
      rw [List.find?_cons, List.map_cons, List.lookup_cons, ← ih, Bool.beq_comm]
      split <;> simp_all
  have hnodup : (described items).names.Nodup :=
    (names_described_perm items).nodup_iff.2 h.names_nodup
  rw [Draft.propertyType?, hlookup, ← hpairs]
  refine Draft.lookup_eq_some_iff_mem ?_
  rw [List.map_map]
  exact hnodup.of_append_left.of_append_left.of_append_left.of_append_left

/-- The declarations of a described draft are those of the declarators. -/
theorem mem_declarations_described_iff {items : List Item} (h : Consistent items)
    {declared : Declaration} :
    declared ∈ (described items).declarations ↔
      ∃ item ∈ items, item.declarator?.map (·.declaration) = some declared := by
  simp only [Draft.declarations, List.mem_append, Draft.mem_uniformTable_iff h.uniforms_nodup]
  simp only [described, List.mem_map, List.mem_filterMap]
  constructor
  · intro hfound
    rcases hfound with ((⟨_, ⟨item, hitem, hmade⟩, rfl⟩ | ⟨_, ⟨item, hitem, hmade⟩, rfl⟩) |
      ⟨item, hitem, hmade⟩) | ⟨_, ⟨item, hitem, hmade⟩, rfl⟩ <;>
    · cases item <;> cases hmade
      exact ⟨_, hitem, rfl⟩
  · intro hfound
    obtain ⟨item, hitem, hmade⟩ := hfound
    cases item with
    | property type name => cases hmade
    | block kind parts => cases hmade
    | uniform slot declarator =>
      cases hmade
      exact .inl (.inl (.inl ⟨_, ⟨_, hitem, rfl⟩, rfl⟩))
    | «attribute» slot declarator condition =>
      cases hmade
      exact .inl (.inl (.inr ⟨_, ⟨_, hitem, rfl⟩, rfl⟩))
    | varying declarator =>
      cases hmade
      exact .inl (.inr ⟨_, hitem, rfl⟩)
    | output slot declarator condition =>
      cases hmade
      exact .inr ⟨_, ⟨_, hitem, rfl⟩, rfl⟩

/-- The array lengths of a described draft name the properties that the declarators name. -/
theorem forall_lengthRef?_described_iff {items : List Item} (h : Consistent items)
    {claim : String → Prop} :
    (∀ reference ∈ (described items).declarations.filterMap Draft.lengthRef?,
      claim reference.name) ↔ ∀ name ∈ items.filterMap Item.lengthProperty?, claim name := by
  have hlength (declarator : Declarator) (reference : PropertyRef) :
      Draft.lengthRef? declarator.declaration = some reference ↔
        ∃ name, declarator.length = some (.property name) ∧ referenceTo name = reference := by
    obtain ⟨precision, type, name, length⟩ := declarator
    match length with
    | none => simp [Declarator.declaration, Draft.lengthRef?]
    | some (.literal length) =>
      simp [Declarator.declaration, Draft.lengthRef?, Length.arrayLength]
    | some (.property length) =>
      simp [Declarator.declaration, Draft.lengthRef?, Length.arrayLength, referenceTo]
  simp only [List.mem_filterMap, mem_declarations_described_iff h]
  constructor
  · intro hall name hname
    obtain ⟨item, hitem, hproperty⟩ := hname
    obtain ⟨declarator, hdeclarator, hproperty⟩ := Option.bind_eq_some_iff.1 hproperty
    refine hall (referenceTo name)
      ⟨declarator.declaration, ⟨item, hitem, by rw [hdeclarator]; rfl⟩, (hlength ..).2 ?_⟩
    split at hproperty
    · rename_i other hother
      obtain rfl := Option.some.inj hproperty
      exact ⟨other, hother, rfl⟩
    · cases hproperty
  · intro hall reference hreference
    obtain ⟨declared, ⟨item, hitem, hmade⟩, hreference⟩ := hreference
    obtain ⟨declarator, hdeclarator, rfl⟩ := Option.map_eq_some_iff.1 hmade
    obtain ⟨name, hname, rfl⟩ := (hlength ..).1 hreference
    refine hall name ⟨item, hitem, ?_⟩
    simp [Item.lengthProperty?, hdeclarator, hname]

/-- The conditions of a described draft name the properties that the items name. -/
theorem forall_conditions_described_iff {items : List Item} {claim : String → Prop} :
    (∀ reference ∈ (described items).conditions, claim reference.name) ↔
      ∀ name ∈ items.filterMap Item.condition?, claim name := by
  simp only [Draft.conditions, described, List.filterMap_append, List.filterMap_filterMap,
    List.mem_append, List.mem_filterMap]
  constructor
  · intro hall name hname
    obtain ⟨item, hitem, hname⟩ := hname
    cases item with
    | «attribute» slot declarator condition =>
      obtain rfl : condition = some name := hname
      exact hall (referenceTo name) (.inl ⟨_, hitem, by simp [Item.attribute?]⟩)
    | output slot declarator condition =>
      obtain rfl : condition = some name := hname
      exact hall (referenceTo name) (.inr ⟨_, hitem, by simp [Item.output?]⟩)
    | _ => cases hname
  · intro hall reference hreference
    rcases hreference with ⟨item, hitem, hreference⟩ | ⟨item, hitem, hreference⟩
    · cases item with
      | «attribute» slot declarator condition =>
        obtain ⟨name, rfl, rfl⟩ : ∃ name, condition = some name ∧ referenceTo name = reference := by
          simpa [Item.attribute?] using hreference
        exact hall name ⟨_, hitem, rfl⟩
      | _ => cases hreference
    · cases item with
      | output slot declarator condition =>
        obtain ⟨name, rfl, rfl⟩ : ∃ name, condition = some name ∧ referenceTo name = reference := by
          simpa [Item.output?] using hreference
        exact hall name ⟨_, hitem, rfl⟩
      | _ => cases hreference

/-- The blocks of a described draft refer to the properties that the bodies refer to. -/
theorem forall_references_described_iff {items : List Item} (h : Consistent items)
    {claim : String → Prop} :
    (∀ reference ∈ (described items).references, claim reference.name) ↔
      ∀ name ∈ items.flatMap Item.references, claim name := by
  have hblocks (draft : Draft) (reference : PropertyRef) :
      reference ∈ draft.references ↔
        ∃ kind found, draft.block kind = some found ∧ reference ∈ Body.propertyRefs found := by
    have hblock (block : Option Body) : reference ∈ Body.propertyRefs (block.getD []) ↔
        ∃ found, block = some found ∧ reference ∈ Body.propertyRefs found := by
      cases block <;> simp [Body.propertyRefs]
    simp only [Draft.references, List.mem_append, hblock]
    constructor
    · intro hmem
      rcases hmem with (hmem | hmem) | hmem
      · exact ⟨.shared, hmem⟩
      · exact ⟨.stage .vertex, hmem⟩
      · exact ⟨.stage .fragment, hmem⟩
    · intro hmem
      obtain ⟨kind, hmem⟩ := hmem
      cases kind with
      | shared => exact .inl (.inl hmem)
      | stage stage =>
        cases stage with
        | vertex => exact .inl (.inr hmem)
        | fragment => exact .inr hmem
  simp only [hblocks, block_described_eq_some_iff h, List.mem_flatMap]
  constructor
  · intro hall name hname
    obtain ⟨item, hitem, hname⟩ := hname
    cases item with
    | block kind parts =>
      refine hall (referenceTo name) ⟨kind, _, ⟨parts, hitem, rfl⟩, ?_⟩
      rw [propertyRefs_body]
      exact List.mem_map_of_mem hname
    | _ => cases hname
  · intro hall reference hreference
    obtain ⟨kind, _, ⟨parts, hitem, rfl⟩, hreference⟩ := hreference
    rw [propertyRefs_body] at hreference
    obtain ⟨name, hname, rfl⟩ := List.mem_map.1 hreference
    exact hall name ⟨_, hitem, hname⟩

/-- The properties of consistent items are resolved exactly if every property that is used is
declared with the type that its use asks for. -/
theorem resolved_described_iff {items : List Item} (h : Consistent items) :
    (described items).Resolved ↔
      (∀ name ∈ items.filterMap Item.lengthProperty?,
        (name, PropertyType.int) ∈ items.filterMap Item.property?) ∧
      (∀ name ∈ items.filterMap Item.condition?,
        (name, PropertyType.bool) ∈ items.filterMap Item.property?) ∧
      ∀ name ∈ items.flatMap Item.references,
        ∃ type, (name, type) ∈ items.filterMap Item.property? := by
  simp only [← forall_lengthRef?_described_iff h, ← forall_conditions_described_iff,
    ← forall_references_described_iff h, ← propertyType?_described_iff h]
  simp only [← Option.isSome_iff_exists]
  constructor
  · intro hresolved
    exact ⟨hresolved.length_int, hresolved.condition_bool, hresolved.reference_declared⟩
  · intro huses
    exact ⟨huses.1, huses.2.1, huses.2.2⟩

/-- Consistent items describe a shader exactly if they are well formed. -/
theorem wellFormed_iff {items : List Item} (h : Consistent items) :
    WellFormed items ↔ ∃ shader, (described items).toShader = .ok shader := by
  have hstage (stage : StageKind) :
      (items.filterMap (Item.body? (.stage stage))).length = 1 ↔
        ((described items).block (.stage stage)).isSome := by
    rw [block_described]
    rcases h.bodies_eq (.stage stage) with hnone | ⟨parts, hone⟩
    · simp [hnone]
    · simp [hone]
  simp only [Draft.toShader_eq_ok_iff, resolved_described_iff h]
  constructor
  · intro hwell
    obtain ⟨vertex, hvertex⟩ := Option.isSome_iff_exists.1 ((hstage .vertex).1 (hwell.stage_eq _))
    obtain ⟨fragment, hfragment⟩ :=
      Option.isSome_iff_exists.1 ((hstage .fragment).1 (hwell.stage_eq _))
    exact ⟨_, ⟨hwell.length_int, hwell.condition_bool, hwell.reference_declared⟩, vertex, fragment,
      hvertex, hfragment, rfl⟩
  · intro hshader
    obtain ⟨_, hresolved, vertex, fragment, hvertex, hfragment, -⟩ := hshader
    obtain ⟨hlength, hcondition, hreference⟩ := hresolved
    refine ⟨h, fun stage => (hstage stage).2 ?_, hlength, hcondition, hreference⟩
    cases stage with
    | vertex => exact Option.isSome_iff_exists.2 ⟨vertex, hvertex⟩
    | fragment => exact Option.isSome_iff_exists.2 ⟨fragment, hfragment⟩

/-- Nothing is inconsistent about no items. -/
theorem consistent_nil : Consistent [] :=
  ⟨by simp, by simp, by simp, by simp, by simp⟩

end Grammar

/-- What a source is compiled to, places aside, is described by the items of the source. -/
theorem compile_unplaced_iff {source : String} {result : Shader} :
    (∃ shader, compile source = .ok shader ∧ shader.unplaced = result) ↔
      ∃ items, Source items source.toList ∧ Consistent items ∧
        (described items).toShader = .ok result := by
  have hempty : ({} : Draft).unplaced = described [] := rfl
  unfold compile
  constructor
  · intro h
    obtain ⟨shader, hshader, hresult⟩ := h
    cases hread : readItems {} (.atStart source.toList) with
    | error e =>
      rw [hread] at hshader
      cases hshader
    | ok draft =>
      rw [hread] at hshader
      obtain ⟨items, hsource, hconsistent, hdraft⟩ := readItems_sound hread hempty consistent_nil
      refine ⟨items, hsource, hconsistent, ?_⟩
      rw [List.nil_append] at hdraft
      rw [← hdraft]
      exact Draft.toShader_unplaced_iff.2 ⟨shader, hshader, hresult⟩
  · intro h
    obtain ⟨items, hsource, hconsistent, hresult⟩ := h
    obtain ⟨draft, hread, hdraft⟩ := readItems_complete (c := .atStart source.toList) hsource hempty
      hconsistent
    rw [List.nil_append] at hdraft
    rw [← hdraft] at hresult
    rw [hread]
    exact Draft.toShader_unplaced_iff.1 hresult

/-- A source compiles exactly if it is a sequence of items of the grammar that are well formed. -/
theorem compile_isOk_iff (source : String) :
    (∃ shader, compile source = .ok shader) ↔
      ∃ items, Source items source.toList ∧ WellFormed items := by
  constructor
  · intro h
    obtain ⟨shader, hshader⟩ := h
    obtain ⟨items, hsource, hconsistent, hdescribed⟩ :=
      compile_unplaced_iff.1 ⟨shader, hshader, rfl⟩
    exact ⟨items, hsource, (wellFormed_iff hconsistent).2 ⟨_, hdescribed⟩⟩
  · intro h
    obtain ⟨items, hsource, hwellFormed⟩ := h
    have hconsistent := hwellFormed.toConsistent
    obtain ⟨result, hdescribed⟩ := (wellFormed_iff hconsistent).1 hwellFormed
    obtain ⟨shader, hshader, -⟩ :=
      compile_unplaced_iff.2 ⟨items, hsource, hconsistent, hdescribed⟩
    exact ⟨shader, hshader⟩

end ShaderPipeline.Language
