import ShaderPipeline.Proofs.Language.Checked
import ShaderPipeline.Proofs.Glsl.Outcome

/-!
# Resolved properties

The values of a checked shader are the context's values of its declared properties, promoted where
a floating-point number is declared. Whoever looks a property up while a stage is written finds it,
and finds it with the type that the place asks for: `Resolved` says so for the three kinds of
places, and the values of every checked shader are resolved (`resolved_of_values`).

So the faults that the lookups can report never occur. What remains are the faults of the values
themselves, which `values_eq` lists, and array lengths that are not positive.
-/

namespace ShaderPipeline

open ShaderPipeline.Language

namespace Language.Shader.Checked

variable {shader : Shader}

/-- A property is found under its name. -/
theorem property?_eq_some_iff (h : shader.Checked) {name : String} {declared : PropertyDecl} :
    shader.property? name = some declared ↔
      declared ∈ shader.properties ∧ declared.name = name := by
  constructor
  · intro hfound
    have hname := List.find?_some hfound
    exact ⟨List.mem_of_find?_eq_some hfound, by simpa using hname⟩
  · intro hdeclared
    have hsome : (shader.property? name).isSome := by
      rw [Shader.property?, List.find?_isSome]
      exact ⟨declared, hdeclared.1, by simpa using hdeclared.2⟩
    obtain ⟨found, hfound⟩ := Option.isSome_iff_exists.1 hsome
    have hname : found.name = declared.name := by
      have := List.find?_some hfound
      rw [hdeclared.2]
      simpa using this
    have hsame : found = declared :=
      List.inj_on_of_nodup_map h.properties_nodup (List.mem_of_find?_eq_some hfound) hdeclared.1
        hname
    rw [hfound, hsame]

end Language.Shader.Checked

namespace Glsl

/-! ## The values of the declared properties -/

/-- The value of a declared property, whatever there is to object to it. -/
def valueOf (context : PropertyContext) (declared : PropertyDecl) : PropertyValue :=
  promote declared.type ((context.get? declared.name).getD (.bool false))

/-- What there is to object to the value of a declared property. -/
def offence? (context : PropertyContext) (declared : PropertyDecl) : Option GenerateError :=
  fault? (declaredValue context declared)

/-- The value of a name where a shader uses it. -/
def value? (shader : Shader) (context : PropertyContext) (name : String) : Option PropertyValue :=
  (shader.propertyType? name).bind fun type => (context.get? name).map (promote type)

theorem declaredValue_eq (context : PropertyContext) (declared : PropertyDecl) :
    declaredValue context declared =
      outcome (offence? context declared) (valueOf context declared) := by
  unfold offence? valueOf declaredValue
  cases context.get? declared.name with
  | none => rfl
  | some given =>
    simp only [Option.getD_some]
    split
    · rfl
    · split <;> rfl

/-- What is objected to first decides; otherwise every declaration has its value. -/
theorem ofDeclarations_eq (context : PropertyContext) (declared : List PropertyDecl)
    (known : Values) :
    Values.ofDeclarations context declared known =
      outcome (declared.findSome? (offence? context))
        ((declared.map fun d => (d.name, valueOf context d)).reverse ++ known) := by
  induction declared generalizing known with
  | nil => rfl
  | cons first rest ih =>
    have hfault : (first :: rest).findSome? (offence? context) =
        (offence? context first).or (rest.findSome? (offence? context)) := by
      rw [List.findSome?_cons]
      cases offence? context first <;> rfl
    rw [Values.ofDeclarations, declaredValue_eq, hfault, List.map_cons, List.reverse_cons,
      List.append_assoc]
    apply outcome_bind
    exact ih _

/-- The values of a shader, or the first thing there is to object to them. -/
theorem values_eq (shader : Shader) (context : PropertyContext) :
    values shader context =
      outcome (shader.properties.findSome? (offence? context))
        (shader.properties.map fun d => (d.name, valueOf context d)).reverse := by
  rw [values, ofDeclarations_eq, List.append_nil]

/-! ## Looking a property up -/

section

variable {shader : Shader} {context : PropertyContext} {known : Values}

/-- A declared property that has a value is in the context. -/
theorem valueOf_eq_of_values (h : values shader context = .ok known) {declared : PropertyDecl}
    (hmem : declared ∈ shader.properties) :
    (context.get? declared.name).map (promote declared.type) = some (valueOf context declared) := by
  rw [values_eq, outcome_eq_ok_iff, List.findSome?_eq_none_iff] at h
  have hnone := h.1 declared hmem
  unfold offence? declaredValue at hnone
  unfold valueOf
  cases hget : context.get? declared.name with
  | none =>
    rw [hget] at hnone
    cases hnone
  | some given => rfl

/-- The type of a declared property is that of its value. -/
theorem type_of_values (h : values shader context = .ok known) {declared : PropertyDecl}
    (hmem : declared ∈ shader.properties) : (valueOf context declared).type = declared.type := by
  have hsome := valueOf_eq_of_values h hmem
  obtain ⟨given, hget, hvalue⟩ := Option.map_eq_some_iff.1 hsome
  rw [values_eq, outcome_eq_ok_iff, List.findSome?_eq_none_iff] at h
  have hnone := h.1 declared hmem
  unfold offence? declaredValue at hnone
  rw [hget] at hnone
  rw [← hvalue]
  by_contra htype
  simp only [if_pos htype] at hnone
  cases hnone

/-- A name stands for the context's value of the property declared under it. -/
theorem lookup_values (hchecked : shader.Checked) (h : values shader context = .ok known)
    (name : String) : known.lookup name = value? shader context name := by
  have hknown : known = (shader.properties.map fun d => (d.name, valueOf context d)).reverse := by
    rw [values_eq, outcome_eq_ok_iff] at h
    exact h.2.symm
  have hnodup : (known.map Prod.fst).Nodup := by
    rw [hknown, List.map_reverse, List.nodup_reverse, List.map_map]
    exact hchecked.properties_nodup
  have hvalue (value : PropertyValue) :
      value? shader context name = some value ↔
        ∃ declared ∈ shader.properties,
          declared.name = name ∧ valueOf context declared = value := by
    unfold value? Shader.propertyType?
    constructor
    · intro hsome
      obtain ⟨type, htype, hget⟩ := Option.bind_eq_some_iff.1 hsome
      obtain ⟨declared, hfound, rfl⟩ := Option.map_eq_some_iff.1 htype
      obtain ⟨hmem, rfl⟩ := hchecked.property?_eq_some_iff.1 hfound
      rw [valueOf_eq_of_values h hmem] at hget
      exact ⟨declared, hmem, rfl, Option.some.inj hget⟩
    · intro hdeclared
      obtain ⟨declared, hmem, rfl, rfl⟩ := hdeclared
      rw [hchecked.property?_eq_some_iff.2 ⟨hmem, rfl⟩]
      exact valueOf_eq_of_values h hmem
  apply Option.ext
  intro value
  rw [Draft.lookup_eq_some_iff_mem hnodup, hvalue, hknown, List.mem_reverse, List.mem_map]
  simp only [Prod.mk.injEq]

end

/-! ## The places that look properties up -/

/-- Values in which the places of a shader find what they ask for. -/
structure Resolved (shader : Shader) (context : PropertyContext) (known : Values) : Prop where
  /-- An array length is an integer of the context. -/
  length_int : ∀ declared ∈ shader.declarations, ∀ reference,
    declared.array = some (.property reference) → ∃ value,
      known.get reference = .ok (.int value) ∧ context.get? reference.name = some (.int value)
  /-- A condition is a truth value of the context. -/
  condition_bool : ∀ slot ∈ shader.attributes ++ shader.outputs, ∀ reference ∈ slot.condition,
    ∃ value, known.get reference = .ok (.bool value) ∧
      context.get? reference.name = some (.bool value)
  /-- What a block refers to has the value of its name. -/
  reference_value : ∀ reference ∈ shader.references, ∃ value,
    known.get reference = .ok value ∧ value? shader context reference.name = some value

section

variable {shader : Shader} {context : PropertyContext} {known : Values}

/-- A reference to a declared property gets a value of the declared type. -/
theorem get_of_values (hchecked : shader.Checked) (h : values shader context = .ok known)
    {reference : PropertyRef} {type : PropertyType}
    (htype : shader.propertyType? reference.name = some type) :
    ∃ given, context.get? reference.name = some given ∧
      known.get reference = .ok (promote type given) ∧ (promote type given).type = type := by
  obtain ⟨declared, hfound, rfl⟩ := Option.map_eq_some_iff.1 htype
  obtain ⟨hmem, hname⟩ := hchecked.property?_eq_some_iff.1 hfound
  have hvalue := valueOf_eq_of_values h hmem
  obtain ⟨given, hget, hgiven⟩ := Option.map_eq_some_iff.1 hvalue
  rw [hname] at hget
  have hlookup : known.lookup reference.name = some (promote declared.type given) := by
    rw [lookup_values hchecked h, value?, htype, hget]
    rfl
  refine ⟨given, hget, ?_, ?_⟩
  · rw [Values.get, hlookup]
  · rw [hgiven]
    exact type_of_values h hmem

/-- Where no promotion takes place, the value is that of the context. -/
theorem promote_of_ne {type : PropertyType} (h : type ≠ .float) (value : PropertyValue) :
    promote type value = value := by
  cases type <;> first | rfl | exact absurd rfl h

theorem exists_int_of_type {value : PropertyValue} (h : value.type = .int) :
    ∃ n, value = .int n := by
  cases value with
  | int n => exact ⟨n, rfl⟩
  | _ => cases h

theorem exists_bool_of_type {value : PropertyValue} (h : value.type = .bool) :
    ∃ b, value = .bool b := by
  cases value with
  | bool b => exact ⟨b, rfl⟩
  | _ => cases h

/-- The values of a checked shader are resolved. -/
theorem resolved_of_values (hchecked : shader.Checked) (h : values shader context = .ok known) :
    Resolved shader context known where
  length_int := by
    intro declared hdeclared reference harray
    have htype := hchecked.length_int declared hdeclared reference harray
    obtain ⟨given, hget, hknown, hint⟩ := get_of_values hchecked h htype
    rw [promote_of_ne (by decide)] at hknown hint
    obtain ⟨n, rfl⟩ := exists_int_of_type hint
    exact ⟨n, hknown, hget⟩
  condition_bool := by
    intro slot hslot reference hreference
    have htype := hchecked.condition_bool slot hslot reference hreference
    obtain ⟨given, hget, hknown, hbool⟩ := get_of_values hchecked h htype
    rw [promote_of_ne (by decide)] at hknown hbool
    obtain ⟨b, rfl⟩ := exists_bool_of_type hbool
    exact ⟨b, hknown, hget⟩
  reference_value := by
    intro reference hreference
    have hsome := hchecked.reference_declared reference hreference
    obtain ⟨type, htype⟩ := Option.isSome_iff_exists.1 hsome
    obtain ⟨given, hget, hknown, -⟩ := get_of_values hchecked h htype
    refine ⟨promote type given, hknown, ?_⟩
    rw [value?, htype, hget]
    rfl

end

end Glsl

end ShaderPipeline
