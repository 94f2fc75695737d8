import ShaderPipeline.Language.Compile

/-!
# Shaders without their places

Everything that came from a place in the source carries that place. What is left of a draft or a
shader when the places are forgotten is the same draft or shader with every place moved to the
start of the source; two shaders differ in nothing but places if they become the same. No check
looks at a place, so forgetting places commutes with everything that is done with a draft.
-/

namespace ShaderPipeline.Language

/-- A reference without its place. -/
def PropertyRef.unplaced (reference : PropertyRef) : PropertyRef := ⟨reference.name, .start⟩

/-- An array length without its place. -/
def ArrayLength.unplaced : ArrayLength → ArrayLength
  | .fixed length => .fixed length
  | .property reference => .property reference.unplaced

/-- A declaration without its places. -/
def Declaration.unplaced (declared : Declaration) : Declaration :=
  { declared with array := declared.array.map (·.unplaced), location := .start }

/-- A property declaration without its place. -/
def PropertyDecl.unplaced (declared : PropertyDecl) : PropertyDecl :=
  { declared with location := .start }

/-- An attribute or output without its places. -/
def SlotDecl.unplaced (declared : SlotDecl) : SlotDecl :=
  { declared with
    declaration := declared.declaration.unplaced
    condition := declared.condition.map (·.unplaced) }

/-- A segment without its place. -/
def Segment.unplaced : Segment → Segment
  | .text content => .text content
  | .property reference => .property reference.unplaced

/-- A body without its places. -/
def Body.unplaced (body : Body) : Body := body.map (·.unplaced)

/-- A shader without its places. -/
def Shader.unplaced (shader : Shader) : Shader where
  properties := shader.properties.map (·.unplaced)
  uniforms := shader.uniforms.map (Option.map (·.unplaced))
  attributes := shader.attributes.map (·.unplaced)
  varyings := shader.varyings.map (·.unplaced)
  outputs := shader.outputs.map (·.unplaced)
  shared := shader.shared.map Body.unplaced
  vertex := Body.unplaced shader.vertex
  fragment := Body.unplaced shader.fragment

namespace Draft

/-- A draft without its places. -/
def unplaced (draft : Draft) : Draft where
  properties := draft.properties.map (·.unplaced)
  uniforms := draft.uniforms.map fun entry => (entry.1, entry.2.unplaced)
  attributes := draft.attributes.map (·.unplaced)
  varyings := draft.varyings.map (·.unplaced)
  outputs := draft.outputs.map (·.unplaced)
  shared := draft.shared.map Body.unplaced
  vertex := draft.vertex.map Body.unplaced
  fragment := draft.fragment.map Body.unplaced

/-- The declared names do not depend on places. -/
@[simp] theorem names_unplaced (draft : Draft) : draft.unplaced.names = draft.names := by
  simp [names, unplaced, Function.comp_def, PropertyDecl.unplaced, Declaration.unplaced,
    SlotDecl.unplaced]

/-- The blocks that were read do not depend on places. -/
@[simp] theorem block_unplaced (draft : Draft) (kind : BlockKind) :
    draft.unplaced.block kind = (draft.block kind).map Body.unplaced := by
  cases kind with
  | shared => rfl
  | stage stage => cases stage <;> rfl

/-- Adding a block commutes with forgetting places. -/
theorem unplaced_withBlock (draft : Draft) (body : Body) (kind : BlockKind) :
    (draft.withBlock body kind).unplaced = draft.unplaced.withBlock body.unplaced kind := by
  cases kind with
  | shared => rfl
  | stage stage => cases stage <;> rfl

end Draft

end ShaderPipeline.Language
