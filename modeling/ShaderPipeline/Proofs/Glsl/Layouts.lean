import ShaderPipeline.Proofs.Glsl.Resolved

/-!
# Layouts of checked shaders

Once the properties of a checked shader are resolved, its layouts are plain functions of the
context: which declarations are enabled, how long the arrays are and what stands for a reference
can be read off the context without asking what may go wrong. The only fault that is left is an
array length that is not positive, and a stage fails with the first one among the declarations that
it writes (`layout_eq`).
-/

namespace ShaderPipeline.Glsl

open ShaderPipeline.Language

/-! ## What a context gives -/

/-- Whether a declaration with a slot exists in a context. -/
def enabledIn (context : PropertyContext) (slot : SlotDecl) : Bool :=
  slot.condition.all fun reference => decide (context.get? reference.name = some (.bool true))

/-- The number of elements of an array. -/
def lengthIn (context : PropertyContext) : ArrayLength → Nat
  | .fixed length => length
  | .property reference =>
    match context.get? reference.name with
    | some (.int value) => value.toNat
    | _ => 0

/-- What there is to object to the array length of a declaration. -/
def lengthFault? (context : PropertyContext) (declared : Declaration) : Option GenerateError :=
  match declared.array with
  | some (.property reference) =>
    match context.get? reference.name with
    | some (.int value) =>
      if 0 < value then none else some (.invalidArrayLength reference.name value)
    | _ => none
  | _ => none

/-- A declaration with its array length filled in. -/
def plainIn (context : PropertyContext) (declared : Declaration) : PlainDeclaration :=
  ⟨declared.precision, declared.type, declared.name, declared.array.map (lengthIn context)⟩

/-- The declarations with a slot that exist in a context, as a stage reads or writes them. -/
def slotVariablesIn (context : PropertyContext) (direction : Direction) (slots : List SlotDecl) :
    List InterfaceVariable :=
  (slots.filter (enabledIn context)).map fun slot =>
    ⟨some slot.slot, direction, plainIn context slot.declaration⟩

/-- The varyings as a stage reads or writes them. -/
def varyingsIn (shader : Shader) (context : PropertyContext) (direction : Direction) :
    List InterfaceVariable :=
  shader.varyings.map fun declared => ⟨none, direction, plainIn context declared⟩

/-- The interface variables of a stage. -/
def interfaceIn (shader : Shader) (context : PropertyContext) :
    StageKind → List InterfaceVariable
  | .vertex => slotVariablesIn context .input shader.attributes ++ varyingsIn shader context .output
  | .fragment => varyingsIn shader context .input ++ slotVariablesIn context .output shader.outputs

/-- The literal that stands for a property. -/
def literalIn (shader : Shader) (context : PropertyContext) (name : String) : String :=
  ((value? shader context name).map (·.literal)).getD ""

/-- The text that stands for a segment. -/
def segmentIn (shader : Shader) (context : PropertyContext) : Segment → String
  | .text content => content
  | .property reference => literalIn shader context reference.name

/-- The text of a body. -/
def bodyIn (shader : Shader) (context : PropertyContext) (body : Body) : String :=
  String.join (body.map (segmentIn shader context))

theorem bodyIn_cons (shader : Shader) (context : PropertyContext) (segment : Segment)
    (body : Body) :
    bodyIn shader context (segment :: body) =
      segmentIn shader context segment ++ bodyIn shader context body := by
  rw [bodyIn, List.map_cons, String.join_cons]
  rfl

/-- The layout of a stage. -/
def layoutIn (shader : Shader) (context : PropertyContext) (stage : StageKind) : StageLayout where
  uniforms := (shader.uniforms.filterMap id).map (plainIn context)
  interface := interfaceIn shader context stage
  shared := shader.shared.map (bodyIn shader context)
  main :=
    if (shader.stage stage).isEmpty then none
    else some (bodyIn shader context (shader.stage stage))

/-- The declarations that a stage reads from or writes to what it is connected with. -/
def interfaceDeclarations (shader : Shader) (context : PropertyContext) :
    StageKind → List Declaration
  | .vertex => (shader.attributes.filter (enabledIn context)).map (·.declaration) ++ shader.varyings
  | .fragment => shader.varyings ++ (shader.outputs.filter (enabledIn context)).map (·.declaration)

/-- The declarations that a stage writes, in the order in which it writes them. -/
def stageDeclarations (shader : Shader) (context : PropertyContext) (stage : StageKind) :
    List Declaration :=
  shader.uniforms.filterMap id ++ interfaceDeclarations shader context stage

/-! ## Reading declarations -/

namespace Resolved

variable {shader : Shader} {context : PropertyContext} {known : Values}

/-- A condition holds if its property is true. -/
theorem holds_eq (h : Resolved shader context known) {slot : SlotDecl}
    (hslot : slot ∈ shader.attributes ++ shader.outputs) :
    known.holds slot.condition = .ok (enabledIn context slot) := by
  unfold enabledIn
  cases hcondition : slot.condition with
  | none => rfl
  | some reference =>
    obtain ⟨value, hknown, hget⟩ := h.condition_bool slot hslot reference hcondition
    rw [Values.holds, hknown, Option.all_some, hget]
    cases value <;> rfl

/-- The enabled declarations are those whose condition holds. -/
theorem enabled_eq (h : Resolved shader context known) {slots : List SlotDecl}
    (hslots : ∀ slot ∈ slots, slot ∈ shader.attributes ++ shader.outputs) :
    known.enabled slots = .ok (slots.filter (enabledIn context)) := by
  induction slots with
  | nil => rfl
  | cons slot slots ih =>
    have hfirst := h.holds_eq (hslots slot List.mem_cons_self)
    have hrest := ih fun other hother => hslots other (List.mem_cons_of_mem slot hother)
    rw [Values.enabled, hfirst, hrest, List.filter_cons]
    rfl

/-- An array length is the value of its property unless that is not positive. -/
theorem plain_eq (h : Resolved shader context known) {declared : Declaration}
    (hdeclared : declared ∈ shader.declarations) :
    known.plain declared = outcome (lengthFault? context declared) (plainIn context declared) := by
  have hlength := h.length_int declared hdeclared
  unfold Values.plain lengthFault? plainIn
  cases harray : declared.array with
  | none => rfl
  | some length =>
    cases length with
    | fixed length => rfl
    | property reference =>
      obtain ⟨value, hknown, hget⟩ := hlength reference harray
      simp only [Values.arrayLength, Option.map_some, lengthIn, hknown, hget]
      by_cases hpositive : 0 < value
      · simp only [if_pos hpositive]
        change (if 0 < value then _ else _) >>= _ = _
        rw [if_pos hpositive]
        rfl
      · simp only [if_neg hpositive]
        change (if 0 < value then _ else _) >>= _ = _
        rw [if_neg hpositive]
        rfl

/-- The uniforms of a stage. -/
theorem uniforms_eq (h : Resolved shader context known) :
    known.uniforms shader =
      outcome ((shader.uniforms.filterMap id).findSome? (lengthFault? context))
        ((shader.uniforms.filterMap id).map (plainIn context)) := by
  apply mapM_eq_outcome
  intro declared hdeclared
  apply h.plain_eq
  simp only [Shader.declarations, List.mem_append]
  exact .inl (.inl (.inl hdeclared))

/-- The interface variables of declarations with a slot. -/
theorem slotVariables_eq (h : Resolved shader context known) (direction : Direction)
    {slots : List SlotDecl} (hslots : ∀ slot ∈ slots, slot ∈ shader.attributes ++ shader.outputs) :
    known.slotVariables direction slots =
      outcome (((slots.filter (enabledIn context)).map (·.declaration)).findSome?
          (lengthFault? context))
        (slotVariablesIn context direction slots) := by
  rw [Values.slotVariables, h.enabled_eq hslots, List.findSome?_map]
  apply mapM_eq_outcome
  intro slot hslot
  have hmem := hslots slot (List.mem_of_mem_filter hslot)
  have hdeclared : slot.declaration ∈ shader.declarations := by
    simp only [Shader.declarations, List.mem_append, List.mem_map] at hmem ⊢
    exact hmem.elim (fun hattribute => .inl (.inl (.inr ⟨slot, hattribute, rfl⟩)))
      fun houtput => .inr ⟨slot, houtput, rfl⟩
  rw [h.plain_eq hdeclared]
  exact outcome_map rfl

/-- The interface variables of the varyings. -/
theorem varyings_eq (h : Resolved shader context known) (direction : Direction) :
    known.varyings direction shader =
      outcome (shader.varyings.findSome? (lengthFault? context))
        (varyingsIn shader context direction) := by
  apply mapM_eq_outcome
  intro declared hdeclared
  have hmem : declared ∈ shader.declarations := by
    simp only [Shader.declarations, List.mem_append]
    exact .inl (.inr hdeclared)
  rw [h.plain_eq hmem]
  exact outcome_map rfl

/-- The interface of a stage fails with the first array length that is not positive. -/
theorem interface_eq (h : Resolved shader context known) (stage : StageKind) :
    known.interface shader stage =
      outcome ((interfaceDeclarations shader context stage).findSome? (lengthFault? context))
        (interfaceIn shader context stage) := by
  cases stage with
  | vertex =>
    have hslots : ∀ slot ∈ shader.attributes, slot ∈ shader.attributes ++ shader.outputs :=
      fun slot hslot => List.mem_append_left _ hslot
    rw [Values.interface, h.slotVariables_eq .input hslots, h.varyings_eq,
      interfaceDeclarations, List.findSome?_append]
    apply outcome_bind
    exact outcome_map rfl
  | fragment =>
    have hslots : ∀ slot ∈ shader.outputs, slot ∈ shader.attributes ++ shader.outputs :=
      fun slot hslot => List.mem_append_right _ hslot
    rw [Values.interface, h.slotVariables_eq .output hslots, h.varyings_eq,
      interfaceDeclarations, List.findSome?_append]
    apply outcome_bind
    exact outcome_map rfl

/-! ## Reading bodies -/

/-- What a block refers to has its literal. -/
theorem literal_eq (h : Resolved shader context known) {reference : PropertyRef}
    (hreference : reference ∈ shader.references) :
    known.literal reference = .ok (literalIn shader context reference.name) := by
  obtain ⟨value, hknown, hvalue⟩ := h.reference_value reference hreference
  rw [Values.literal, hknown, literalIn, hvalue]
  rfl

/-- The text of a body has the literals in place of the references. -/
theorem bodyText_eq (h : Resolved shader context known) {body : Body}
    (hbody : ∀ reference ∈ body.propertyRefs, reference ∈ shader.references) :
    known.bodyText body = .ok (bodyIn shader context body) := by
  induction body with
  | nil => rfl
  | cons segment body ih =>
    cases segment with
    | text content =>
      have hrest : known.bodyText body = .ok (bodyIn shader context body) := ih hbody
      rw [Values.bodyText, hrest, bodyIn_cons]
      rfl
    | property reference =>
      have hfirst := h.literal_eq (hbody reference List.mem_cons_self)
      have hrest : known.bodyText body = .ok (bodyIn shader context body) :=
        ih fun other hother => hbody other (List.mem_cons_of_mem reference hother)
      rw [Values.bodyText, hfirst, hrest, bodyIn_cons]
      rfl

/-- The text of the shared block. -/
theorem sharedText_eq (h : Resolved shader context known) :
    known.sharedText shader = .ok (shader.shared.map (bodyIn shader context)) := by
  unfold Values.sharedText
  cases hshared : shader.shared with
  | none => rfl
  | some body =>
    have hbody : known.bodyText body = .ok (bodyIn shader context body) := by
      apply h.bodyText_eq
      intro reference hreference
      simp only [Shader.references, hshared, Option.getD_some, List.mem_append]
      exact .inl (.inl hreference)
    simp only [hbody]
    rfl

/-- The text of the block of a stage. -/
theorem mainText_eq (h : Resolved shader context known) (stage : StageKind) :
    known.mainText (shader.stage stage) = .ok (layoutIn shader context stage).main := by
  have hbody : known.bodyText (shader.stage stage) =
      .ok (bodyIn shader context (shader.stage stage)) := by
    apply h.bodyText_eq
    intro reference hreference
    simp only [Shader.references, List.mem_append]
    cases stage with
    | vertex => exact .inl (.inr hreference)
    | fragment => exact .inr hreference
  unfold Values.mainText layoutIn
  cases (shader.stage stage).isEmpty with
  | true => rfl
  | false =>
    simp only [hbody]
    rfl

end Resolved

/-! ## What is generated -/

/-- What there is to object to a stage: first to the values of its properties, then to the lengths
of the arrays that it writes. -/
def stageFault? (shader : Shader) (context : PropertyContext) (stage : StageKind) :
    Option GenerateError :=
  (shader.properties.findSome? (offence? context)).or
    ((stageDeclarations shader context stage).findSome? (lengthFault? context))

/-- The program source of a shader. -/
def programIn (dialect : Dialect) (shader : Shader) (context : PropertyContext) :
    ProgramSource where
  vertex := (layoutIn shader context .vertex).text dialect
  fragment := (layoutIn shader context .fragment).text dialect
  attributes := attributeTable (shader.attributes.filter (enabledIn context))
  uniforms := shader.uniformNames

section

variable {shader : Shader} {context : PropertyContext}

/-- With all properties resolved, a stage fails with the first array length that is not positive. -/
theorem layout_of_values (hchecked : shader.Checked) {known : Values}
    (hknown : values shader context = .ok known) (stage : StageKind) :
    layout shader context stage =
      outcome ((stageDeclarations shader context stage).findSome? (lengthFault? context))
        (layoutIn shader context stage) := by
  have h := resolved_of_values hchecked hknown
  rw [layout, hknown, stageDeclarations, List.findSome?_append]
  change (known.uniforms shader >>= _) = _
  rw [h.uniforms_eq]
  apply outcome_bind
  rw [h.interface_eq]
  apply outcome_map
  rw [h.sharedText_eq, h.mainText_eq]
  rfl

/-- The values of a shader are there, or their first fault is that of every stage. -/
theorem values_cases (shader : Shader) (context : PropertyContext) :
    (∃ known, values shader context = .ok known ∧
      shader.properties.findSome? (offence? context) = none) ∨
    ∃ e, values shader context = .error e ∧
      shader.properties.findSome? (offence? context) = some e := by
  rw [values_eq]
  cases shader.properties.findSome? (offence? context) with
  | none => exact .inl ⟨_, rfl, rfl⟩
  | some e => exact .inr ⟨e, rfl, rfl⟩

/-- The layout of a stage, or what there is to object to it. -/
theorem layout_eq (hchecked : shader.Checked) (stage : StageKind) :
    layout shader context stage =
      outcome (stageFault? shader context stage) (layoutIn shader context stage) := by
  rw [stageFault?]
  rcases values_cases shader context with ⟨known, hknown, hnone⟩ | ⟨e, herror, hsome⟩
  · rw [hnone, Option.none_or]
    exact layout_of_values hchecked hknown stage
  · rw [hsome, layout, herror]
    rfl

/-- The text of a stage. -/
theorem stageText_eq (hchecked : shader.Checked) (dialect : Dialect) (stage : StageKind) :
    stageText dialect shader context stage =
      outcome (stageFault? shader context stage)
        ((layoutIn shader context stage).text dialect) := by
  rw [stageText, layout_eq hchecked]
  exact outcome_map rfl

/-- Both texts, where the fault of the vertex stage goes before that of the fragment stage. -/
theorem stageTexts_eq (hchecked : shader.Checked) (dialect : Dialect) :
    stageTexts dialect shader context =
      outcome ((stageFault? shader context .vertex).or (stageFault? shader context .fragment))
        ((layoutIn shader context .vertex).text dialect,
          (layoutIn shader context .fragment).text dialect) := by
  rw [stageTexts, stageText_eq hchecked, stageText_eq hchecked]
  apply outcome_bind
  exact outcome_map rfl

/-- The program source fails exactly as the pair of its texts does. -/
theorem programSource_eq (hchecked : shader.Checked) (dialect : Dialect) :
    programSource dialect shader context =
      outcome ((stageFault? shader context .vertex).or (stageFault? shader context .fragment))
        (programIn dialect shader context) := by
  rw [programSource, stageTexts_eq hchecked]
  rcases values_cases shader context with ⟨known, hknown, -⟩ | ⟨e, herror, hsome⟩
  · apply outcome_map
    have henabled : known.enabled shader.attributes =
        .ok (shader.attributes.filter (enabledIn context)) :=
      (resolved_of_values hchecked hknown).enabled_eq fun slot hslot =>
        List.mem_append_left _ hslot
    rw [hknown]
    change (known.enabled shader.attributes >>= _) = _
    rw [henabled]
    rfl
  · have hvertex : stageFault? shader context .vertex = some e := by
      rw [stageFault?, hsome]
      rfl
    rw [hvertex]
    rfl

end

end ShaderPipeline.Glsl
