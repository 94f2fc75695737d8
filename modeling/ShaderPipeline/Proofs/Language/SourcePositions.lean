import ShaderPipeline.Proofs.Language.Checked
import ShaderPipeline.Proofs.Language.PlacedItems

/-!
# Reported places

The places that a compiled shader and a compile error carry are true. A shader gets its places from
the draft of its source, so all that is left is that no check moves one.

An error is a fault in the form of the source, or it comes from the checks of the whole draft. Of
those only a missing block has no place; a property that is not declared, or not with the type that
its use asks for, is reported where it is used. `Draft.Faulty` lists these errors apart from the
order in which the checks are made.
-/

namespace ShaderPipeline.Language

open Grammar

/-! ## Shaders -/

/-- The places of a shader are right. -/
structure Shader.Placed (source : List Char) (shader : Shader) : Prop where
  property_at : ∀ declared ∈ shader.properties, NameAt source declared.name declared.location
  uniform_at : ∀ declared ∈ shader.uniforms.filterMap id, declared.Placed source
  attribute_at : ∀ slot ∈ shader.attributes, slot.Placed source
  varying_at : ∀ declared ∈ shader.varyings, declared.Placed source
  output_at : ∀ slot ∈ shader.outputs, slot.Placed source
  shared_at : ∀ body ∈ shader.shared, Body.Placed source body
  stage_at : ∀ stage, Body.Placed source (shader.stage stage)

/-- The list of uniforms by slot holds nothing but declared uniforms. -/
theorem Draft.exists_of_mem_uniformTable {draft : Draft} {declared : Declaration}
    (h : declared ∈ draft.uniformTable.filterMap id) :
    ∃ slot, (slot, declared) ∈ draft.uniforms := by
  rw [uniformTable_eq, List.filterMap_map, List.mem_filterMap] at h
  obtain ⟨slot, -, hlookup⟩ := h
  obtain ⟨front, back, huniforms, -⟩ := List.lookup_eq_some_iff.1 hlookup
  exact ⟨slot, by rw [huniforms]; simp⟩

variable {source : List Char}

/-- The uniforms by slot stand where the uniforms of the draft do. -/
theorem Draft.Placed.table_at {draft : Draft} (h : draft.Placed source) :
    ∀ declared ∈ draft.uniformTable.filterMap id, declared.Placed source := by
  intro declared hdeclared
  obtain ⟨slot, hslot⟩ := exists_of_mem_uniformTable hdeclared
  exact h.uniform_at (slot, declared) hslot

/-- A shader has the places of the draft that it is made of. -/
theorem Draft.Placed.shader {draft : Draft} (h : draft.Placed source) {shader : Shader}
    (hshader : draft.toShader = .ok shader) : shader.Placed source := by
  obtain ⟨-, vertex, fragment, hvertex, hfragment, rfl⟩ := Draft.toShader_eq_ok_iff.1 hshader
  refine ⟨h.property_at, h.table_at, h.attribute_at, h.varying_at, h.output_at,
    h.block_at .shared, fun stage => ?_⟩
  cases stage with
  | vertex => exact h.block_at (.stage .vertex) vertex hvertex
  | fragment => exact h.block_at (.stage .fragment) fragment hfragment

/-! ## Errors of a whole draft -/

/-- A computation in two parts fails in the first part, or in the second after the first. -/
theorem fails_of_bind {ε α β : Type} {x : Except ε α} {f : α → Except ε β} {e : ε}
    (h : (x >>= f) = .error e) : x = .error e ∨ ∃ a, x = .ok a ∧ f a = .error e := by
  cases x with
  | error other => exact .inl (congrArg Except.error (Except.error.inj h))
  | ok a => exact .inr ⟨a, rfl, h⟩

/-- A fault of checks in sequence is that of one of them. -/
theorem exists_of_forM_eq_error {ε α : Type} {values : List α} {check : α → Except ε Unit} {e : ε}
    (h : values.forM check = .error e) : ∃ value ∈ values, check value = .error e := by
  induction values with
  | nil => cases h
  | cons value values ih =>
    rw [List.forM_eq_forM, List.forM_cons] at h
    rcases fails_of_bind h with hvalue | ⟨_, -, hrest⟩
    · exact ⟨value, List.mem_cons_self, hvalue⟩
    · obtain ⟨other, hother, hcheck⟩ := ih hrest
      exact ⟨other, List.mem_cons_of_mem _ hother, hcheck⟩

namespace Draft

/-- The places of a draft that use a property, by the use. One that fixes no type is a reference in
a body. -/
def uses (draft : Draft) : Option PropertyUse → List PropertyRef
  | some .arrayLength => draft.declarations.filterMap lengthRef?
  | some .condition => draft.conditions
  | none => draft.references

/-- What can be wrong with the draft of a whole source. -/
inductive Faulty (draft : Draft) : CompileError → Prop where
  | noBlock {stage : StageKind} (hblock : draft.block (.stage stage) = none) :
    draft.Faulty ⟨.missingBlock stage, none⟩
  | undeclared {use : Option PropertyUse} {reference : PropertyRef}
    (huse : reference ∈ draft.uses use) (hnone : draft.propertyType? reference.name = none) :
    draft.Faulty (.located reference.location (.undeclaredProperty reference.name))
  | mistyped {use : PropertyUse} {reference : PropertyRef} {declared : PropertyType}
    (huse : reference ∈ draft.uses (some use))
    (hdeclared : draft.propertyType? reference.name = some declared)
    (hne : declared ≠ use.type) :
    draft.Faulty (.located reference.location (.mistypedProperty reference.name use declared))

variable {draft : Draft}

/-- A property without a type is reported where it is used. -/
theorem usedType_eq_error_iff {reference : PropertyRef} {e : CompileError} :
    draft.usedType reference = .error e ↔ draft.propertyType? reference.name = none ∧
      e = .located reference.location (.undeclaredProperty reference.name) := by
  unfold usedType propertyType?
  cases draft.properties.find? (·.name == reference.name) <;> simp [eq_comm]

/-- What a use of a property is reported for. -/
theorem faulty_of_checkUse {use : PropertyUse} {reference : PropertyRef} {e : CompileError}
    (h : draft.checkUse use reference = .error e) (huse : reference ∈ draft.uses (some use)) :
    draft.Faulty e := by
  rcases fails_of_bind h with htype | ⟨declared, htype, hcheck⟩
  · obtain ⟨hnone, rfl⟩ := usedType_eq_error_iff.1 htype
    exact .undeclared huse hnone
  · split at hcheck
    · cases hcheck
    · rename_i hne
      obtain rfl := Except.error.inj hcheck
      exact .mistyped huse (usedType_eq_ok_iff.1 htype) hne

/-- What a reference in a body is reported for. -/
theorem faulty_of_checkDeclared {reference : PropertyRef} {e : CompileError}
    (h : draft.checkDeclared reference = .error e) (huse : reference ∈ draft.uses none) :
    draft.Faulty e := by
  rcases fails_of_bind h with htype | ⟨_, -, hcheck⟩
  · obtain ⟨hnone, rfl⟩ := usedType_eq_error_iff.1 htype
    exact .undeclared huse hnone
  · cases hcheck

/-- What a draft is reported for. -/
theorem faulty_of_toShader {e : CompileError} (h : draft.toShader = .error e) :
    draft.Faulty e := by
  unfold toShader at h
  cases hvertex : draft.vertex with
  | none =>
    rw [hvertex] at h
    obtain rfl := Except.error.inj h
    exact .noBlock hvertex
  | some vertex =>
    cases hfragment : draft.fragment with
    | none =>
      rw [hvertex, hfragment] at h
      obtain rfl := Except.error.inj h
      exact .noBlock hfragment
    | some fragment =>
      have hreferences : draft.references = (draft.shared.getD []).propertyRefs ++
          vertex.propertyRefs ++ fragment.propertyRefs := by
        simp [references, hvertex, hfragment]
      simp only [hvertex, hfragment, ← hreferences] at h
      rcases fails_of_bind h with hlengths | ⟨_, -, h⟩
      · obtain ⟨reference, huse, hcheck⟩ := exists_of_forM_eq_error hlengths
        exact faulty_of_checkUse hcheck huse
      rcases fails_of_bind h with hconditions | ⟨_, -, h⟩
      · obtain ⟨reference, huse, hcheck⟩ := exists_of_forM_eq_error hconditions
        exact faulty_of_checkUse hcheck huse
      rcases fails_of_bind h with hbodies | ⟨_, -, h⟩
      · obtain ⟨reference, huse, hcheck⟩ := exists_of_forM_eq_error hbodies
        exact faulty_of_checkDeclared hcheck huse
      cases h

end Draft

/-! ## Places of errors -/

/-- What stands at the place of a use of a property. -/
def UseAt (source : List Char) : Option PropertyUse → PropertyRef → Prop
  | some .arrayLength => LengthAt source
  | some .condition => ConditionAt source
  | none => ReferenceAt source

/-- A draft is what a whole source declares, and the source is made of items that describe it. -/
structure Draft.OfSource (source : String) (items : List Item) (draft : Draft) : Prop where
  read_eq : readItems {} (.atStart source.toList) = .ok draft
  source_eq : Source items source.toList
  consistent : Consistent items
  described_eq : draft.unplaced = described items

/-- The place of an error is right. -/
structure CompileError.Placed (source : String) (e : CompileError) : Prop where
  /-- An error without a place is a missing block in a source that was read to its end. -/
  unplaced : e.location = none → ∃ items draft stage, Draft.OfSource source items draft ∧
    items.filterMap (Item.body? (.stage stage)) = [] ∧ e.fault = .missingBlock stage
  /-- The place is that of a character, or the one behind the last. -/
  placed : ∀ place ∈ e.location, IsPlace source.toList place
  /-- An undeclared property is used at the place, and declared nowhere in the source. -/
  undeclared : ∀ name, e.fault = .undeclaredProperty name →
    ∃ items draft use place, Draft.OfSource source items draft ∧ e.location = some place ∧
      ⟨name, place⟩ ∈ draft.uses use ∧ UseAt source.toList use ⟨name, place⟩ ∧
        draft.propertyType? name = none
  /-- A property of the wrong type is used at the place, and declared with that type. -/
  mistyped : ∀ name use declared, e.fault = .mistypedProperty name use declared →
    ∃ items draft place, Draft.OfSource source items draft ∧ e.location = some place ∧
      ⟨name, place⟩ ∈ draft.uses (some use) ∧ UseAt source.toList (some use) ⟨name, place⟩ ∧
        draft.propertyType? name = some declared ∧ declared ≠ use.type

namespace Draft.Placed

variable {draft : Draft} {reference : PropertyRef}

/-- All that can be an array stands at its place. -/
theorem declaration_at (h : draft.Placed source) :
    ∀ declared ∈ draft.declarations, declared.Placed source := by
  intro declared hdeclared
  simp only [declarations, List.mem_append, List.mem_map] at hdeclared
  rcases hdeclared with ((htable | ⟨slot, hslot, rfl⟩) | hvarying) | ⟨slot, hslot, rfl⟩
  · exact h.table_at declared htable
  · exact (h.attribute_at slot hslot).declaration_at
  · exact h.varying_at declared hvarying
  · exact (h.output_at slot hslot).declaration_at

/-- Array lengths stand at their places. -/
theorem lengthAt (h : draft.Placed source) (huse : reference ∈ draft.uses (some .arrayLength)) :
    LengthAt source reference := by
  obtain ⟨declared, hdeclared, hreference⟩ := List.mem_filterMap.1 huse
  unfold lengthRef? at hreference
  split at hreference
  · rename_i found harray
    obtain rfl := Option.some.inj hreference
    exact (h.declaration_at declared hdeclared).length_at _ harray
  · cases hreference

/-- Conditions stand at their places. -/
theorem conditionAt (h : draft.Placed source) (huse : reference ∈ draft.uses (some .condition)) :
    ConditionAt source reference := by
  obtain ⟨slot, hslot, hreference⟩ := List.mem_filterMap.1 huse
  rcases List.mem_append.1 hslot with hattribute | houtput
  · exact (h.attribute_at slot hattribute).condition_at reference hreference
  · exact (h.output_at slot houtput).condition_at reference hreference

/-- References in the bodies stand at their places. -/
theorem referenceAt (h : draft.Placed source) (huse : reference ∈ draft.uses none) :
    ReferenceAt source reference := by
  have hblock : ∀ kind, reference ∈ Body.propertyRefs ((draft.block kind).getD []) →
      ReferenceAt source reference := by
    intro kind hreference
    cases hbody : draft.block kind with
    | none =>
      rw [hbody] at hreference
      cases hreference
    | some body =>
      rw [hbody] at hreference
      exact h.block_at kind body hbody reference hreference
  simp only [uses, references, List.mem_append] at huse
  rcases huse with (hshared | hvertex) | hfragment
  · exact hblock .shared hshared
  · exact hblock (.stage .vertex) hvertex
  · exact hblock (.stage .fragment) hfragment

/-- Whatever uses a property stands at its place. -/
theorem useAt (h : draft.Placed source) {use : Option PropertyUse}
    (huse : reference ∈ draft.uses use) : UseAt source use reference := by
  rcases use with _ | _ | _
  · exact h.referenceAt huse
  · exact h.lengthAt huse
  · exact h.conditionAt huse

end Draft.Placed

/-- Where a property is used is a place of the source. -/
theorem UseAt.isPlace {use : Option PropertyUse} {reference : PropertyRef}
    (h : UseAt source use reference) : IsPlace source reference.location := by
  rcases use with _ | _ | _
  · obtain ⟨after, rest, hstands, -⟩ := h
    exact hstands.isPlace
  · obtain ⟨after, start, rest, hstands, -⟩ := h
    exact hstands.isPlace
  · obtain ⟨place, text, after, rest, hstands, hif, hword⟩ := h
    exact hword.isPlace

/-- A fault in the form of a source is not about the use of a property. -/
theorem FormFault.placed {source : String} {e : CompileError} (h : FormFault source.toList e) :
    e.Placed source := by
  obtain ⟨⟨place, hlocation, hplace⟩, hfault⟩ := h
  refine ⟨fun hnone => ?_, fun other hother => ?_, fun name hname => ?_,
    fun name use declared hname => ?_⟩
  · rw [hlocation] at hnone
    cases hnone
  · obtain rfl : place = other := Option.some.inj (hlocation.symm.trans hother)
    exact hplace
  · rw [hname] at hfault
    cases hfault
  · rw [hname] at hfault
    cases hfault

/-- A fault of the draft of a source stands where the source has it. -/
theorem Draft.OfSource.placed {source : String} {items : List Item} {draft : Draft}
    (h : Draft.OfSource source items draft) {e : CompileError} (hfaulty : draft.Faulty e) :
    e.Placed source := by
  have hplaced := placed_of_readItems (standsAt_start source.toList) .empty h.read_eq
  cases hfaulty with
  | @noBlock stage hblock =>
    have hmissing : items.filterMap (Item.body? (.stage stage)) = [] := by
      refine filterMap_body?_eq_nil ?_
      rw [← h.described_eq, Draft.block_unplaced, hblock]
      rfl
    exact ⟨fun _ => ⟨items, draft, stage, h, hmissing, rfl⟩, nofun, nofun, nofun⟩
  | @undeclared use reference huse hnone =>
    have huseAt := hplaced.useAt huse
    refine ⟨nofun, fun place hplace => ?_, fun name hname => ?_, nofun⟩
    · obtain rfl := Option.some.inj hplace
      exact huseAt.isPlace
    · obtain rfl := Fault.undeclaredProperty.inj hname
      exact ⟨items, draft, use, reference.location, h, rfl, huse, huseAt, hnone⟩
  | @mistyped use reference declared huse hdeclared hne =>
    have huseAt := hplaced.useAt huse
    refine ⟨nofun, fun place hplace => ?_, nofun, fun name other type hname => ?_⟩
    · obtain rfl := Option.some.inj hplace
      exact huseAt.isPlace
    · obtain ⟨rfl, rfl, rfl⟩ := Fault.mistypedProperty.inj hname
      exact ⟨items, draft, reference.location, h, rfl, huse, huseAt, hdeclared, hne⟩

/-- Reported places are true. All places of a compiled shader are those where its source has the
name, the dollar sign or the condition that they belong to. An error has no place only if a block is
missing from a source that was read to its end; any other error has a place of the source, which for
a property that is undeclared or of the wrong type is that of its use. -/
theorem compile_placed (source : String) :
    (∀ shader, compile source = .ok shader → shader.Placed source.toList) ∧
      ∀ e, compile source = .error e → e.Placed source := by
  have hstart := standsAt_start source.toList
  constructor
  · intro shader h
    obtain ⟨draft, hread, hshader⟩ := toShader_of_compile h
    exact (placed_of_readItems hstart .empty hread).shader hshader
  · intro e h
    rcases fails_of_bind h with hread | ⟨draft, hread, hshader⟩
    · exact (formFault_of_readItems hstart .empty hread).placed
    · obtain ⟨items, hsource, hconsistent, hdescribed⟩ := readItems_sound hread rfl consistent_nil
      rw [List.nil_append] at hconsistent hdescribed
      have hof : Draft.OfSource source items draft := ⟨hread, hsource, hconsistent, hdescribed⟩
      exact hof.placed (Draft.faulty_of_toShader hshader)

end ShaderPipeline.Language
