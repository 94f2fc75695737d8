import ShaderPipeline.Proofs.Decimal.Rounding
import ShaderPipeline.Proofs.Glsl.Layouts

/-!
# When generation fails

A compiled shader can be generated where the context supplies what the shader declares: a suitable
value for every property, and a positive one for every property that is the length of an array that
is written. `Decided` says what every entry point of the generator gives for a shader, a context and
a dialect, in terms of the declarations and the context alone; `compile_decided` shows that it
describes every compiled shader.

Array lengths are looked at only where they are written, so one stage can fail where the other one
does not, and which lengths matter depends on the conditions that hold. Faults of properties go
before faults of lengths, whatever the stage.
-/

namespace ShaderPipeline

open ShaderPipeline.Language Decimal

/-! ## Integers of the context -/

/-- Whether an integer has 64 bits. -/
def PropertyValue.fits : PropertyValue → Bool
  | .int n => decide (Int64.minValue.toInt ≤ n ∧ n ≤ Int64.maxValue.toInt)
  | _ => true

/-- A context whose integers have 64 bits, as all that are read from files have. -/
def PropertyContext.IntegersFit (context : PropertyContext) : Prop :=
  ∀ entry ∈ context.entries, entry.2.fits = true

instance (context : PropertyContext) : Decidable context.IntegersFit :=
  inferInstanceAs (Decidable (∀ entry ∈ context.entries, entry.2.fits = true))

/-- The values of such a context have integers of 64 bits. -/
theorem PropertyContext.IntegersFit.fits {context : PropertyContext} (h : context.IntegersFit)
    {name : String} {value : PropertyValue} (hget : context.get? name = some value) :
    value.fits = true := by
  have hmem : (name, value) ∈ context.entries := by
    obtain ⟨front, back, hentries, -⟩ := List.lookup_eq_some_iff.1 hget
    rw [hentries]
    exact List.mem_append_right _ List.mem_cons_self
  exact h (name, value) hmem

/-- An integer of 64 bits is not rounded to infinity. -/
theorem isFinite_of_fits {n : Int} (h : (PropertyValue.int n).fits = true) :
    (Binary64.ofInt n).isFinite = true := by
  have hrange : Int64.minValue.toInt ≤ n ∧ n ≤ Int64.maxValue.toInt := of_decide_eq_true h
  have hleast : Int64.minValue.toInt = -2 ^ 63 := by decide
  have hgreatest : Int64.maxValue.toInt = 2 ^ 63 - 1 := by decide
  apply Binary64.isFinite_ofInt
  by_cases hzero : n.natAbs = 0
  · rw [hzero]
    decide
  · have hsmall : n.natAbs < 2 ^ 64 := by omega
    have hlog : n.natAbs.log2 < 64 := (Nat.log2_lt hzero).2 hsmall
    omega

namespace Glsl

/-! ## What can be said of a context -/

/-- A value is one of the given type: an integer may stand for a floating-point number, and
floating-point numbers are finite. -/
inductive Suits : PropertyType → PropertyValue → Prop
  | bool (value : Bool) : Suits .bool (.bool value)
  | int (value : Int) : Suits .int (.int value)
  | string (value : String) : Suits .string (.text value)
  | float (value : Binary64) (finite : value.isFinite = true) : Suits .float (.float value)
  | promoted (value : Int) : Suits .float (.int value)

/-- A declared property has a suitable value. -/
def Suited (context : PropertyContext) (declared : PropertyDecl) : Prop :=
  ∃ value, context.get? declared.name = some value ∧ Suits declared.type value

/-- A declared property has no value, one of another type or one that is not finite. -/
inductive Offends (context : PropertyContext) (declared : PropertyDecl) : GenerateError → Prop
  | missing (absent : context.get? declared.name = none) :
      Offends context declared (.missingProperty declared.name)
  | mistyped {value : PropertyValue} (given : context.get? declared.name = some value)
      (differs : value.type ≠ declared.type)
      (kept : ¬(declared.type = .float ∧ value.type = .int)) :
      Offends context declared (.typeMismatch declared.name declared.type value.type)
  | nonFinite {value : Binary64} (given : context.get? declared.name = some (.float value))
      (typed : declared.type = .float) (infinite : value.isFinite = false) :
      Offends context declared (.nonFiniteValue declared.name)

/-- All properties of a shader have suitable values. -/
def Supplied (context : PropertyContext) (shader : Shader) : Prop :=
  ∀ declared ∈ shader.properties, Suited context declared

/-- The error is that of the first property in the list whose value is not suitable. -/
def FirstOffence (context : PropertyContext) (properties : List PropertyDecl)
    (error : GenerateError) : Prop :=
  ∃ front declared back, properties = front ++ declared :: back ∧
    (∀ earlier ∈ front, Suited context earlier) ∧ Offends context declared error

/-- A property that is the length of an array is positive. -/
def Sized (context : PropertyContext) (declared : Declaration) : Prop :=
  ∀ reference, declared.array = some (.property reference) →
    ∃ value, context.get? reference.name = some (.int value) ∧ 0 < value

/-- The error is that of the first array in the list whose length is not positive. -/
def FirstUnsized (context : PropertyContext) (declarations : List Declaration)
    (error : GenerateError) : Prop :=
  ∃ front declared back reference value, declarations = front ++ declared :: back ∧
    (∀ earlier ∈ front, Sized context earlier) ∧
    declared.array = some (.property reference) ∧
    context.get? reference.name = some (.int value) ∧ ¬0 < value ∧
    error = .invalidArrayLength reference.name value

/-- All arrays that a stage writes have a positive length. -/
def StageSized (context : PropertyContext) (shader : Shader) (stage : StageKind) : Prop :=
  ∀ declared ∈ stageDeclarations shader context stage, Sized context declared

/-! ## What generation gives -/

/-- Both stages, their pair and the program source fail with the same error. -/
structure FailsWith (dialect : Dialect) (shader : Shader) (context : PropertyContext)
    (error : GenerateError) : Prop where
  stage : ∀ stage, stageText dialect shader context stage = .error error
  texts : stageTexts dialect shader context = .error error
  source : programSource dialect shader context = .error error

/-- What generation gives for a shader, a context and a dialect. -/
structure Decided (dialect : Dialect) (shader : Shader) (context : PropertyContext) : Prop where
  /-- No attribute is outside the table of attributes. -/
  attribute_lt : ∀ slot ∈ shader.attributes, slot.slot < SlotKind.attribute.capacity
  /-- No output is outside its limit. -/
  output_lt : ∀ slot ∈ shader.outputs, slot.slot < SlotKind.output.capacity
  /-- No uniform is outside its limit. -/
  uniforms_le : shader.uniforms.length ≤ SlotKind.uniform.capacity
  /-- Once the values are there, whatever is looked up is found with its type. -/
  resolved : ∀ known, values shader context = .ok known → Resolved shader context known
  /-- A stage is generated where its values are suitable and its arrays have a length. -/
  stage_iff : ∀ stage, (∃ text, stageText dialect shader context stage = .ok text) ↔
    Supplied context shader ∧ StageSized context shader stage
  /-- Both stages are generated together where each of them is. -/
  texts_iff : (∃ texts, stageTexts dialect shader context = .ok texts) ↔
    ∀ stage, ∃ text, stageText dialect shader context stage = .ok text
  /-- A program source is generated where each of the stages is. -/
  source_iff : (∃ program, programSource dialect shader context = .ok program) ↔
    ∀ stage, ∃ text, stageText dialect shader context stage = .ok text
  /-- Without suitable values everything fails with the first property that has none. -/
  offence : ¬Supplied context shader → ∃ error,
    FirstOffence context shader.properties error ∧ FailsWith dialect shader context error
  /-- With suitable values a stage fails with the first array that has no length. -/
  unsized : Supplied context shader → ∀ stage, ¬StageSized context shader stage → ∃ error,
    FirstUnsized context (stageDeclarations shader context stage) error ∧
      stageText dialect shader context stage = .error error
  /-- A fault of the vertex stage is that of the whole. -/
  vertex_first : ∀ error, stageText dialect shader context .vertex = .error error →
    stageTexts dialect shader context = .error error ∧
      programSource dialect shader context = .error error
  /-- After the vertex stage, a fault of the fragment stage is that of the whole. -/
  fragment_second : ∀ text error, stageText dialect shader context .vertex = .ok text →
    stageText dialect shader context .fragment = .error error →
      stageTexts dialect shader context = .error error ∧
        programSource dialect shader context = .error error

/-! ## Values -/

/-- A value suits a type exactly if what is made of it there has the type and can be written. -/
theorem suits_iff {type : PropertyType} {value : PropertyValue} (hfits : value.fits = true) :
    Suits type value ↔
      (promote type value).type = type ∧ isWritable (promote type value) = true := by
  constructor
  · intro hsuits
    cases hsuits with
    | bool | int | string => exact ⟨rfl, rfl⟩
    | float value hfinite => exact ⟨rfl, hfinite⟩
    | promoted value => exact ⟨rfl, isFinite_of_fits hfits⟩
  · intro hpromoted
    obtain ⟨htype, hwritable⟩ := hpromoted
    cases value with
    | bool value => cases type <;> first | exact .bool value | cases htype
    | int value => cases type <;> first | exact .int value | exact .promoted value | cases htype
    | float value => cases type <;> first | exact .float value hwritable | cases htype
    | text value => cases type <;> first | exact .string value | cases htype

/-- What has the type but cannot be written is a floating-point number that is not finite: a
promoted integer is finite. -/
theorem exists_infinite {type : PropertyType} {value : PropertyValue} (hfits : value.fits = true)
    (htype : (promote type value).type = type)
    (hwritable : isWritable (promote type value) = false) :
    type = .float ∧ ∃ x, value = .float x ∧ x.isFinite = false := by
  cases value with
  | float x =>
    cases type <;> first | exact ⟨rfl, x, rfl, hwritable⟩ | cases htype
  | int n =>
    cases type with
    | float =>
      have hfinite : isWritable (promote .float (.int n)) = true := isFinite_of_fits hfits
      rw [hfinite] at hwritable
      cases hwritable
    | _ => cases hwritable
  | _ => cases type <;> cases hwritable

section

variable {context : PropertyContext} {declared : PropertyDecl}

/-- There is nothing to object to a property exactly if its value is suitable. -/
theorem offence?_eq_none_iff (hfit : context.IntegersFit) :
    offence? context declared = none ↔ Suited context declared := by
  unfold offence? declaredValue Suited
  cases hget : context.get? declared.name with
  | none => simp [fault?]
  | some value =>
    have hfits := hfit.fits hget
    simp only [Option.some.injEq, exists_eq_left', suits_iff hfits]
    by_cases htype : (promote declared.type value).type = declared.type
    · cases hwritable : isWritable (promote declared.type value) <;> simp [htype, fault?]
    · simp [htype, fault?]

/-- What there is to object to a property is what its value offends against. -/
theorem offends_of_offence? (hfit : context.IntegersFit) {error : GenerateError}
    (h : offence? context declared = some error) : Offends context declared error := by
  unfold offence? declaredValue at h
  cases hget : context.get? declared.name with
  | none =>
    rw [hget] at h
    cases h
    exact .missing hget
  | some value =>
    have hfits := hfit.fits hget
    rw [hget] at h
    simp only at h
    by_cases htype : (promote declared.type value).type = declared.type
    · rw [if_neg (not_not_intro htype)] at h
      cases hwritable : isWritable (promote declared.type value) with
      | true =>
        rw [hwritable] at h
        cases h
      | false =>
        rw [hwritable] at h
        cases h
        obtain ⟨hfloat, x, rfl, hinfinite⟩ := exists_infinite hfits htype hwritable
        exact .nonFinite hget hfloat hinfinite
    · rw [if_pos htype] at h
      cases h
      have hkept : ¬(declared.type = .float ∧ value.type = .int) := by
        intro hpromoted
        obtain ⟨n, rfl⟩ := exists_int_of_type hpromoted.2
        rw [hpromoted.1] at htype
        exact htype rfl
      have hsame : promote declared.type value = value := by
        cases hdeclared : declared.type <;> cases value <;> first | rfl | skip
        exact absurd ⟨hdeclared, rfl⟩ hkept
      rw [hsame] at htype
      exact .mistyped hget htype hkept

/-- A shader is supplied exactly if there is nothing to object to its properties. -/
theorem supplied_iff (hfit : context.IntegersFit) {shader : Shader} :
    Supplied context shader ↔ shader.properties.findSome? (offence? context) = none := by
  rw [List.findSome?_eq_none_iff]
  simp only [offence?_eq_none_iff hfit, Supplied]

/-- The first thing to object to is the first offence. -/
theorem firstOffence_of_findSome? (hfit : context.IntegersFit) {properties : List PropertyDecl}
    {error : GenerateError} (h : properties.findSome? (offence? context) = some error) :
    FirstOffence context properties error := by
  obtain ⟨front, declared, back, hsplit, hfault, hnone⟩ := List.findSome?_eq_some_iff.1 h
  refine ⟨front, declared, back, hsplit, ?_, offends_of_offence? hfit hfault⟩
  intro earlier hearlier
  exact (offence?_eq_none_iff hfit).1 (hnone earlier hearlier)

end

/-! ## Array lengths -/

section

variable {shader : Shader} {context : PropertyContext}

/-- A declaration that a stage writes is one of the shader. -/
theorem mem_declarations_of_mem_stageDeclarations {stage : StageKind} {declared : Declaration}
    (h : declared ∈ stageDeclarations shader context stage) : declared ∈ shader.declarations := by
  have hslots (slots : List SlotDecl)
      (hmem : declared ∈ (slots.filter (enabledIn context)).map (·.declaration)) :
      declared ∈ slots.map (·.declaration) := by
    obtain ⟨slot, hslot, rfl⟩ := List.mem_map.1 hmem
    exact List.mem_map_of_mem (List.mem_of_mem_filter hslot)
  have hattributes := hslots shader.attributes
  have houtputs := hslots shader.outputs
  cases stage <;>
    simp only [stageDeclarations, interfaceDeclarations, Shader.declarations, List.mem_append]
      at h ⊢ <;> tauto

/-- There is nothing to object to the length of an array exactly if it is positive. -/
theorem lengthFault?_eq_none_iff {known : Values} (h : Resolved shader context known)
    {declared : Declaration} (hdeclared : declared ∈ shader.declarations) :
    lengthFault? context declared = none ↔ Sized context declared := by
  have hlength := h.length_int declared hdeclared
  unfold lengthFault? Sized
  cases harray : declared.array with
  | none => simp
  | some length =>
    cases length with
    | fixed length => simp
    | property reference =>
      obtain ⟨value, -, hget⟩ := hlength reference harray
      simp [hget]

/-- A fault of a length says which property has which value. -/
theorem exists_of_lengthFault? {declared : Declaration} {error : GenerateError}
    (h : lengthFault? context declared = some error) :
    ∃ reference value, declared.array = some (.property reference) ∧
      context.get? reference.name = some (.int value) ∧ ¬0 < value ∧
      error = .invalidArrayLength reference.name value := by
  unfold lengthFault? at h
  split at h
  · rename_i reference harray
    split at h
    · rename_i value hget
      split at h
      · cases h
      · rename_i hpositive
        cases h
        exact ⟨reference, value, harray, hget, hpositive, rfl⟩
    · cases h
  · cases h

/-- A stage has its lengths exactly if there is nothing to object to them. -/
theorem stageSized_iff {known : Values} (h : Resolved shader context known) (stage : StageKind) :
    StageSized context shader stage ↔
      (stageDeclarations shader context stage).findSome? (lengthFault? context) = none := by
  rw [List.findSome?_eq_none_iff, StageSized]
  apply forall₂_congr
  intro declared hdeclared
  exact (lengthFault?_eq_none_iff h (mem_declarations_of_mem_stageDeclarations hdeclared)).symm

/-- The first fault of a length is that of the first array without one. -/
theorem firstUnsized_of_findSome? {known : Values} (h : Resolved shader context known)
    {stage : StageKind} {error : GenerateError}
    (hfault : (stageDeclarations shader context stage).findSome? (lengthFault? context) =
      some error) :
    FirstUnsized context (stageDeclarations shader context stage) error := by
  obtain ⟨front, declared, back, hsplit, hlength, hnone⟩ := List.findSome?_eq_some_iff.1 hfault
  obtain ⟨reference, value, harray, hget, hpositive, herror⟩ := exists_of_lengthFault? hlength
  refine ⟨front, declared, back, reference, value, hsplit, ?_, harray, hget, hpositive, herror⟩
  intro earlier hearlier
  have hmem : earlier ∈ stageDeclarations shader context stage := by
    rw [hsplit]
    exact List.mem_append_left _ hearlier
  exact (lengthFault?_eq_none_iff h (mem_declarations_of_mem_stageDeclarations hmem)).1
    (hnone earlier hearlier)

/-! ## Every compiled shader is decided -/

/-- There is nothing to object to a stage exactly if it is supplied and has its lengths. -/
theorem stageFault?_eq_none_iff (hchecked : shader.Checked) (hfit : context.IntegersFit)
    (stage : StageKind) :
    stageFault? shader context stage = none ↔
      Supplied context shader ∧ StageSized context shader stage := by
  rw [stageFault?, Option.or_eq_none_iff, supplied_iff hfit]
  apply and_congr_right
  intro hnone
  rcases values_cases shader context with ⟨known, hknown, -⟩ | ⟨e, -, hsome⟩
  · exact (stageSized_iff (resolved_of_values hchecked hknown) stage).symm
  · rw [hnone] at hsome
    cases hsome

/-- Without suitable values both stages have the same fault. -/
theorem exists_firstOffence (hfit : context.IntegersFit) (h : ¬Supplied context shader) :
    ∃ error, FirstOffence context shader.properties error ∧
      ∀ stage, stageFault? shader context stage = some error := by
  rw [supplied_iff hfit] at h
  obtain ⟨error, herror⟩ := Option.ne_none_iff_exists'.1 h
  refine ⟨error, firstOffence_of_findSome? hfit herror, ?_⟩
  intro stage
  rw [stageFault?, herror]
  rfl

/-- With suitable values the fault of a stage is that of a length. -/
theorem exists_firstUnsized (hchecked : shader.Checked) (hfit : context.IntegersFit)
    (hsupplied : Supplied context shader) {stage : StageKind}
    (h : ¬StageSized context shader stage) :
    ∃ error, FirstUnsized context (stageDeclarations shader context stage) error ∧
      stageFault? shader context stage = some error := by
  have hnone := (supplied_iff hfit).1 hsupplied
  rcases values_cases shader context with ⟨known, hknown, -⟩ | ⟨e, -, hsome⟩
  · have hresolved := resolved_of_values hchecked hknown
    rw [stageSized_iff hresolved] at h
    obtain ⟨error, herror⟩ := Option.ne_none_iff_exists'.1 h
    refine ⟨error, firstUnsized_of_findSome? hresolved herror, ?_⟩
    rw [stageFault?, hnone, Option.none_or]
    exact herror
  · rw [hnone] at hsome
    cases hsome

/-- A stage is generated exactly if there is nothing to object to it. -/
theorem stageText_isOk_iff (hchecked : shader.Checked) (dialect : Dialect) (stage : StageKind) :
    (∃ text, stageText dialect shader context stage = .ok text) ↔
      stageFault? shader context stage = none := by
  simp only [stageText_eq hchecked, outcome_eq_ok_iff]
  simp

/-- All stages are generated exactly if there is nothing to object to one of the two. -/
theorem forall_stage_iff (hchecked : shader.Checked) {dialect : Dialect} :
    (stageFault? shader context .vertex).or (stageFault? shader context .fragment) = none ↔
      ∀ stage, ∃ text, stageText dialect shader context stage = .ok text := by
  simp only [stageText_isOk_iff hchecked, Option.or_eq_none_iff]
  constructor
  · intro hnone stage
    cases stage with
    | vertex => exact hnone.1
    | fragment => exact hnone.2
  · intro hall
    exact ⟨hall .vertex, hall .fragment⟩

/-- The first fault of the two stages is that of the whole. -/
theorem whole_of_fault (hchecked : shader.Checked) {dialect : Dialect} {error : GenerateError}
    (hfault : (stageFault? shader context .vertex).or (stageFault? shader context .fragment) =
      some error) :
    stageTexts dialect shader context = .error error ∧
      programSource dialect shader context = .error error := by
  rw [stageTexts_eq hchecked, programSource_eq hchecked, outcome_eq_error_iff,
    outcome_eq_error_iff]
  exact ⟨hfault, hfault⟩

/-- Generation gives for a checked shader what its declarations and the context decide. -/
theorem decided_of_checked (hchecked : shader.Checked) (hfit : context.IntegersFit)
    (dialect : Dialect) : Decided dialect shader context := by
  refine
    { attribute_lt := hchecked.attribute_lt
      output_lt := hchecked.output_lt
      uniforms_le := hchecked.uniforms_le
      resolved := fun known hknown => resolved_of_values hchecked hknown
      stage_iff := fun stage =>
        (stageText_isOk_iff hchecked dialect stage).trans
          (stageFault?_eq_none_iff hchecked hfit stage)
      texts_iff := ?_
      source_iff := ?_
      offence := ?_
      unsized := ?_
      vertex_first := ?_
      fragment_second := ?_ }
  · rw [← forall_stage_iff hchecked]
    simp only [stageTexts_eq hchecked, outcome_eq_ok_iff]
    simp
  · rw [← forall_stage_iff hchecked]
    simp only [programSource_eq hchecked, outcome_eq_ok_iff]
    simp
  · intro hsupplied
    obtain ⟨error, hfirst, hfault⟩ := exists_firstOffence hfit hsupplied
    have hwhole := @whole_of_fault shader context hchecked dialect error
      (by rw [hfault .vertex]; rfl)
    refine ⟨error, hfirst, fun stage => ?_, hwhole.1, hwhole.2⟩
    rw [stageText_eq hchecked, outcome_eq_error_iff]
    exact hfault stage
  · intro hsupplied stage hsized
    obtain ⟨error, hfirst, hfault⟩ := exists_firstUnsized hchecked hfit hsupplied hsized
    refine ⟨error, hfirst, ?_⟩
    rw [stageText_eq hchecked, outcome_eq_error_iff]
    exact hfault
  · intro error hvertex
    rw [stageText_eq hchecked, outcome_eq_error_iff] at hvertex
    apply whole_of_fault hchecked
    rw [hvertex]
    rfl
  · intro text error hvertex hfragment
    rw [stageText_eq hchecked, outcome_eq_ok_iff] at hvertex
    rw [stageText_eq hchecked, outcome_eq_error_iff] at hfragment
    apply whole_of_fault hchecked
    rw [hvertex.1, hfragment]
    rfl

end

/-- What generation gives for a compiled shader is decided by its declarations and the context. -/
theorem compile_decided {source : String} {shader : Shader} (hcompile : compile source = .ok shader)
    {context : PropertyContext} (hfit : context.IntegersFit) (dialect : Dialect) :
    Decided dialect shader context :=
  decided_of_checked (checked_of_compile hcompile) hfit dialect

/-- A source with an array in each stage, whose lengths are properties. -/
def arraySource : String :=
  "property int N; property int M; property bool P; attribute 0 vec4 a[$N] if P;
output 1 vec4 o[$M]; vertex \x7b\x7d fragment \x7b\x7d"

/-- The array source is decided in a context where neither array has a positive length, but only the
attribute is not enabled. -/
theorem compile_decided_arraySource :
    ∃ shader, compile arraySource = .ok shader ∧
      Decided .gl330 shader (.ofList [("N", .int 0), ("M", .int 0), ("P", .bool false)]) := by
  have hok : (compile arraySource).isOk = true := by decide +kernel
  obtain ⟨shader, hshader⟩ := exists_ok_of_isOk hok
  exact ⟨shader, hshader, compile_decided hshader (by decide +kernel) .gl330⟩

end Glsl

end ShaderPipeline
