import Mathlib.Data.List.Nodup
import ShaderPipeline.Proofs.Language.Unplaced

/-!
# Resolving a draft

When the draft of a whole source is a shader, and which one. The checks of a draft are a sequence
that stops at the first fault; here they are the conditions that all of them pass together. Since
the conditions do not look at places, a draft is a shader exactly if it is one without its places,
and the two shaders then differ in places only.

The list of uniforms by slot is described by what it holds at each slot, so nothing here depends on
the order in which uniforms are declared.
-/

namespace ShaderPipeline.Language

/-- Checks in sequence succeed exactly if each of them does. -/
theorem forM_eq_ok_iff {ε α : Type} {values : List α} {check : α → Except ε Unit} :
    values.forM check = .ok () ↔ ∀ value ∈ values, check value = .ok () := by
  induction values with
  | nil => simp [pure, Except.pure]
  | cons value values ih =>
    rw [List.forM_eq_forM] at ih ⊢
    rw [List.forM_cons, List.forall_mem_cons, ← ih]
    cases hvalue : check value with
    | error e => simp [bind, Except.bind]
    | ok u => simp [bind, Except.bind]

namespace Draft

/-! ## Uniforms by slot -/

/-- The number of entries in the list of uniforms by slot. -/
def tableSize (draft : Draft) : Nat :=
  draft.uniforms.foldl (fun size entry => max size (entry.1 + 1)) 0

/-- A maximum over entries is bounded exactly if its start and all entries are. -/
theorem foldl_max_le_iff {α : Type} {entries : List (Nat × α)} {start bound : Nat} :
    entries.foldl (fun size entry => max size (entry.1 + 1)) start ≤ bound ↔
      start ≤ bound ∧ ∀ entry ∈ entries, entry.1 < bound := by
  induction entries generalizing start with
  | nil => simp
  | cons entry entries ih =>
    rw [List.foldl_cons, ih, List.forall_mem_cons, Nat.max_le, Nat.succ_le_iff, and_assoc]

/-- The list of uniforms by slot goes up to the highest slot. -/
theorem tableSize_le_iff {draft : Draft} {bound : Nat} :
    draft.tableSize ≤ bound ↔ ∀ entry ∈ draft.uniforms, entry.1 < bound := by
  simp [tableSize, foldl_max_le_iff]

/-- The list of uniforms by slot reaches every slot that is taken. -/
theorem lt_tableSize {draft : Draft} {entry : Nat × Declaration} (h : entry ∈ draft.uniforms) :
    entry.1 < draft.tableSize :=
  tableSize_le_iff.1 (Nat.le_refl draft.tableSize) entry h

/-- What the list of uniforms holds at a slot. -/
theorem uniformTable_eq (draft : Draft) :
    draft.uniformTable = (List.range draft.tableSize).map fun slot => draft.uniforms.lookup slot :=
  rfl

/-- An entry is found under its key exactly if it is there, where no key stands twice. -/
theorem lookup_eq_some_iff_mem {κ α : Type} [DecidableEq κ] {entries : List (κ × α)}
    (h : (entries.map Prod.fst).Nodup) {key : κ} {value : α} :
    entries.lookup key = some value ↔ (key, value) ∈ entries := by
  induction entries with
  | nil => simp
  | cons entry entries ih =>
    obtain ⟨other, found⟩ := entry
    rw [List.map_cons, List.nodup_cons] at h
    rw [List.lookup_cons, List.mem_cons, ← ih h.2]
    by_cases hkey : key = other
    · subst hkey
      have hnone : entries.lookup key ≠ some value := by
        rw [ne_eq, ih h.2]
        intro hmem
        exact h.1 (List.mem_map.2 ⟨(key, value), hmem, rfl⟩)
      simp [hnone, eq_comm]
    · simp [hkey, beq_false_of_ne hkey]

/-- The uniforms of the list by slot are those that were declared. -/
theorem mem_uniformTable_iff {draft : Draft} (h : (draft.uniforms.map Prod.fst).Nodup)
    {declared : Declaration} :
    declared ∈ draft.uniformTable.filterMap id ↔ declared ∈ draft.uniforms.map Prod.snd := by
  rw [uniformTable_eq, List.filterMap_map]
  simp only [List.mem_filterMap, List.mem_range, List.mem_map, Function.comp_apply, id_eq]
  constructor
  · intro hfound
    obtain ⟨slot, -, hlookup⟩ := hfound
    exact ⟨(slot, declared), (lookup_eq_some_iff_mem h).1 hlookup, rfl⟩
  · intro hmem
    obtain ⟨⟨slot, found⟩, hmem, rfl⟩ := hmem
    exact ⟨slot, lt_tableSize hmem, (lookup_eq_some_iff_mem h).2 hmem⟩

/-- The list of uniforms by slot without places. -/
theorem uniformTable_unplaced (draft : Draft) :
    draft.unplaced.uniformTable = draft.uniformTable.map (Option.map (·.unplaced)) := by
  have hsize : draft.unplaced.tableSize = draft.tableSize := by
    simp [tableSize, unplaced, List.foldl_map]
  have hlookup (slot : Nat) (entries : List (Nat × Declaration)) :
      (entries.map fun entry => (entry.1, entry.2.unplaced)).lookup slot =
        (entries.lookup slot).map (·.unplaced) := by
    induction entries with
    | nil => rfl
    | cons entry entries ih =>
      rw [List.map_cons, List.lookup_cons, List.lookup_cons, ih]
      split <;> rfl
  rw [uniformTable_eq, uniformTable_eq, hsize, List.map_map]
  refine List.map_congr_left fun slot _ => ?_
  exact hlookup slot draft.uniforms

/-! ## The properties that are used -/

/-- The type with which a property is declared. -/
def propertyType? (draft : Draft) (name : String) : Option PropertyType :=
  (draft.properties.find? (·.name == name)).map (·.type)

/-- The type of a property that is used is the one with which it is declared. -/
theorem usedType_eq_ok_iff {draft : Draft} {reference : PropertyRef} {type : PropertyType} :
    draft.usedType reference = .ok type ↔ draft.propertyType? reference.name = some type := by
  unfold usedType propertyType?
  cases draft.properties.find? (·.name == reference.name) <;> simp

/-- A use of a property passes its check exactly if the property is declared with its type. -/
theorem checkUse_eq_ok_iff {draft : Draft} {use : PropertyUse} {reference : PropertyRef} :
    draft.checkUse use reference = .ok () ↔
      draft.propertyType? reference.name = some use.type := by
  rw [← usedType_eq_ok_iff]
  unfold checkUse
  cases draft.usedType reference with
  | error e => simp [bind, Except.bind]
  | ok type =>
    by_cases htype : type = use.type <;> simp [bind, Except.bind, htype, pure, Except.pure]

/-- A reference passes its check exactly if the property is declared. -/
theorem checkDeclared_eq_ok_iff {draft : Draft} {reference : PropertyRef} :
    draft.checkDeclared reference = .ok () ↔ (draft.propertyType? reference.name).isSome := by
  rw [Option.isSome_iff_exists]
  simp only [← usedType_eq_ok_iff]
  unfold checkDeclared
  cases draft.usedType reference with
  | error e => simp [bind, Except.bind]
  | ok type => simp [bind, Except.bind, pure, Except.pure]

/-- The places in the blocks of a draft that name a property. -/
def references (draft : Draft) : List PropertyRef :=
  (draft.shared.getD []).propertyRefs ++ Body.propertyRefs (draft.vertex.getD []) ++
    Body.propertyRefs (draft.fragment.getD [])

/-- Every property that is used is declared, with the type that its use asks for. -/
structure Resolved (draft : Draft) : Prop where
  length_int : ∀ reference ∈ draft.declarations.filterMap lengthRef?,
    draft.propertyType? reference.name = some .int
  condition_bool : ∀ reference ∈ draft.conditions,
    draft.propertyType? reference.name = some .bool
  reference_declared : ∀ reference ∈ draft.references,
    (draft.propertyType? reference.name).isSome

/-- The shader of a draft with the bodies of its stages. -/
def shader (draft : Draft) (vertex fragment : Body) : Shader where
  properties := draft.properties
  uniforms := draft.uniformTable
  attributes := draft.attributes
  varyings := draft.varyings
  outputs := draft.outputs
  shared := draft.shared
  vertex := vertex
  fragment := fragment

/-- The checks of a draft with both stages pass exactly if all properties are resolved. -/
theorem resolved_iff {draft : Draft} {vertex fragment : Body} (hvertex : draft.vertex = some vertex)
    (hfragment : draft.fragment = some fragment) :
    draft.Resolved ↔
      (draft.declarations.filterMap lengthRef?).forM (draft.checkUse .arrayLength) = .ok () ∧
        draft.conditions.forM (draft.checkUse .condition) = .ok () ∧
          ((draft.shared.getD []).propertyRefs ++ vertex.propertyRefs ++
            fragment.propertyRefs).forM draft.checkDeclared = .ok () := by
  simp only [forM_eq_ok_iff, checkUse_eq_ok_iff, checkDeclared_eq_ok_iff]
  constructor
  · intro h
    refine ⟨h.length_int, h.condition_bool, ?_⟩
    simpa [references, hvertex, hfragment] using h.reference_declared
  · intro h
    obtain ⟨hlength, hcondition, hreference⟩ := h
    refine ⟨hlength, hcondition, ?_⟩
    simpa [references, hvertex, hfragment] using hreference

/-- A draft is a shader exactly if both stages have a block and all properties are resolved. -/
theorem toShader_eq_ok_iff {draft : Draft} {shader : Shader} :
    draft.toShader = .ok shader ↔ draft.Resolved ∧ ∃ vertex fragment,
      draft.vertex = some vertex ∧ draft.fragment = some fragment ∧
        draft.shader vertex fragment = shader := by
  unfold toShader
  cases hvertex : draft.vertex with
  | none => simp
  | some vertex =>
    cases hfragment : draft.fragment with
    | none => simp
    | some fragment =>
      have hchecks := resolved_iff hvertex hfragment
      simp only [Option.some.injEq, exists_and_left, exists_eq_left', hchecks]
      cases (draft.declarations.filterMap lengthRef?).forM (draft.checkUse .arrayLength) with
      | error e => simp [bind, Except.bind]
      | ok u =>
        cases draft.conditions.forM (draft.checkUse .condition) with
        | error e => simp [bind, Except.bind]
        | ok u =>
          cases ((draft.shared.getD []).propertyRefs ++ vertex.propertyRefs ++
            fragment.propertyRefs).forM draft.checkDeclared with
          | error e => simp [bind, Except.bind]
          | ok u => simp [bind, Except.bind, pure, Except.pure, Draft.shader]

/-! ## Drafts without places -/

/-- The declarations of a draft without places. -/
theorem declarations_unplaced (draft : Draft) :
    draft.unplaced.declarations = draft.declarations.map (·.unplaced) := by
  simp only [declarations, uniformTable_unplaced]
  simp [unplaced, Function.comp_def, SlotDecl.unplaced, List.map_filterMap, List.filterMap_map]

/-- The property that a declaration takes its array length from, without its place. -/
theorem lengthRef?_unplaced (declared : Declaration) :
    lengthRef? declared.unplaced = (lengthRef? declared).map (·.unplaced) := by
  obtain ⟨name, type, precision, array, location⟩ := declared
  cases array with
  | none => rfl
  | some length => cases length <;> rfl

/-- The conditions of a draft without places. -/
theorem conditions_unplaced (draft : Draft) :
    draft.unplaced.conditions = draft.conditions.map (·.unplaced) := by
  simp [conditions, unplaced, List.filterMap_map, List.map_filterMap, SlotDecl.unplaced]

/-- The references of a body without places. -/
theorem propertyRefs_unplaced (body : Body) :
    Body.propertyRefs body.unplaced = body.propertyRefs.map (·.unplaced) := by
  rw [Body.propertyRefs, Body.propertyRefs, Body.unplaced, List.filterMap_map, List.map_filterMap]
  congr 1
  funext segment
  cases segment <;> rfl

/-- The references of the blocks of a draft without places. -/
theorem references_unplaced (draft : Draft) :
    draft.unplaced.references = draft.references.map (·.unplaced) := by
  have hblock (block : Option Body) :
      ((block.map Body.unplaced).getD []).propertyRefs =
        (Body.propertyRefs (block.getD [])).map (·.unplaced) := by
    cases block with
    | none => rfl
    | some body => exact propertyRefs_unplaced body
  simp [references, unplaced, hblock]

/-- The type with which a property is declared does not depend on places. -/
theorem propertyType?_unplaced (draft : Draft) (name : String) :
    draft.unplaced.propertyType? name = draft.propertyType? name := by
  simp [propertyType?, unplaced, List.find?_map, Function.comp_def, PropertyDecl.unplaced]

/-- Whether the properties are resolved does not depend on places. -/
theorem resolved_unplaced_iff {draft : Draft} : draft.unplaced.Resolved ↔ draft.Resolved := by
  have hlengths : draft.unplaced.declarations.filterMap lengthRef? =
      (draft.declarations.filterMap lengthRef?).map (·.unplaced) := by
    rw [declarations_unplaced, List.filterMap_map, List.map_filterMap]
    congr 1
    funext declared
    exact lengthRef?_unplaced declared
  constructor
  · intro h
    obtain ⟨hlength, hcondition, hreference⟩ := h
    rw [hlengths, List.forall_mem_map] at hlength
    rw [conditions_unplaced, List.forall_mem_map] at hcondition
    rw [references_unplaced, List.forall_mem_map] at hreference
    simp only [propertyType?_unplaced] at hlength hcondition hreference
    exact ⟨hlength, hcondition, hreference⟩
  · intro h
    refine ⟨?_, ?_, ?_⟩
    · rw [hlengths, List.forall_mem_map]
      intro reference hreference
      rw [propertyType?_unplaced]
      exact h.length_int reference hreference
    · rw [conditions_unplaced, List.forall_mem_map]
      intro reference hreference
      rw [propertyType?_unplaced]
      exact h.condition_bool reference hreference
    · rw [references_unplaced, List.forall_mem_map]
      intro reference hreference
      rw [propertyType?_unplaced]
      exact h.reference_declared reference hreference

/-- The shader of a draft without places. -/
theorem shader_unplaced (draft : Draft) (vertex fragment : Body) :
    (draft.shader vertex fragment).unplaced =
      draft.unplaced.shader vertex.unplaced fragment.unplaced := by
  simp only [shader, Shader.unplaced, uniformTable_unplaced]
  rfl

/-- A draft is a shader exactly if it is one without its places, which is then that shader without
its places. -/
theorem toShader_unplaced_iff {draft : Draft} {result : Shader} :
    draft.unplaced.toShader = .ok result ↔
      ∃ shader, draft.toShader = .ok shader ∧ shader.unplaced = result := by
  simp only [toShader_eq_ok_iff, resolved_unplaced_iff]
  constructor
  · intro h
    obtain ⟨hresolved, vertex, fragment, hvertex, hfragment, rfl⟩ := h
    obtain ⟨vertex', hvertex', rfl⟩ := Option.map_eq_some_iff.1 hvertex
    obtain ⟨fragment', hfragment', rfl⟩ := Option.map_eq_some_iff.1 hfragment
    exact ⟨_, ⟨hresolved, vertex', fragment', hvertex', hfragment', rfl⟩, shader_unplaced ..⟩
  · intro h
    obtain ⟨_, ⟨hresolved, vertex, fragment, hvertex, hfragment, rfl⟩, rfl⟩ := h
    exact ⟨hresolved, vertex.unplaced, fragment.unplaced,
      Option.map_eq_some_iff.2 ⟨_, hvertex, rfl⟩, Option.map_eq_some_iff.2 ⟨_, hfragment, rfl⟩,
      (shader_unplaced ..).symm⟩

end Draft

end ShaderPipeline.Language
