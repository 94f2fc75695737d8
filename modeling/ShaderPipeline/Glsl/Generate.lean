import ShaderPipeline.Glsl.Layout
import ShaderPipeline.Program.Source

/-!
# Stage generation

The layouts of both stages of a shader for given property values, and the program source made of
them. The vertex stage reads the attributes and writes the varyings; the fragment stage reads the
varyings and writes the outputs. Generation depends on the shader, the values and the dialect
alone.
-/

namespace ShaderPipeline.Glsl

open ShaderPipeline.Language

namespace Values

/-- A declaration with its array length filled in. -/
def plain (values : Values) (d : Declaration) : Except GenerateError PlainDeclaration :=
  match d.array with
  | none => .ok ⟨d.precision, d.type, d.name, none⟩
  | some length => do
    return ⟨d.precision, d.type, d.name, some (← values.arrayLength length)⟩

/-- The uniforms in slot order. -/
def uniforms (values : Values) (shader : Shader) :
    Except GenerateError (List PlainDeclaration) :=
  (shader.uniforms.filterMap id).mapM values.plain

/-- The interface variables of the enabled declarations that have a slot. -/
def slotVariables (values : Values) (direction : Direction) (slots : List SlotDecl) :
    Except GenerateError (List InterfaceVariable) := do
  let present ← values.enabled slots
  present.mapM fun slot => do
    return ⟨some slot.slot, direction, ← values.plain slot.declaration⟩

/-- The interface variables of the varyings. -/
def varyings (values : Values) (direction : Direction) (shader : Shader) :
    Except GenerateError (List InterfaceVariable) :=
  shader.varyings.mapM fun d => do return ⟨none, direction, ← values.plain d⟩

/-- The interface variables of a stage, what it reads before what it writes. -/
def interface (values : Values) (shader : Shader) :
    StageKind → Except GenerateError (List InterfaceVariable)
  | .vertex => do
    let inputs ← values.slotVariables .input shader.attributes
    return inputs ++ (← values.varyings .output shader)
  | .fragment => do
    let inputs ← values.varyings .input shader
    return inputs ++ (← values.slotVariables .output shader.outputs)

/-- The text of the shared block, if there is one. -/
def sharedText (values : Values) (shader : Shader) : Except GenerateError (Option String) :=
  match shader.shared with
  | none => .ok none
  | some body => do return some (← values.bodyText body)

/-- The text of the block of a stage, if it is not empty. -/
def mainText (values : Values) (body : Body) : Except GenerateError (Option String) :=
  if body.isEmpty then .ok none else do return some (← values.bodyText body)

end Values

/-- The values that a context gives to the declared properties of a shader. -/
def values (shader : Shader) (context : PropertyContext) : Except GenerateError Values :=
  Values.ofDeclarations context shader.properties []

/-- The layout of a stage. -/
def layout (shader : Shader) (context : PropertyContext) (stage : StageKind) :
    Except GenerateError StageLayout := do
  let known ← values shader context
  let uniforms ← known.uniforms shader
  let interface ← known.interface shader stage
  let shared ← known.sharedText shader
  let main ← known.mainText (shader.stage stage)
  return { uniforms, interface, shared, main }

/-- The text of a stage. -/
def stageText (dialect : Dialect) (shader : Shader) (context : PropertyContext)
    (stage : StageKind) : Except GenerateError String := do
  return (← layout shader context stage).text dialect

/-- The texts of the vertex and the fragment stage. -/
def stageTexts (dialect : Dialect) (shader : Shader) (context : PropertyContext) :
    Except GenerateError (String × String) := do
  let vertex ← stageText dialect shader context .vertex
  let fragment ← stageText dialect shader context .fragment
  return (vertex, fragment)

/-- The name at each attribute slot for the attributes that are enabled. -/
def attributeTable (slots : List SlotDecl) : List (Option String) :=
  slots.foldl (fun table slot => table.set slot.slot (some slot.declaration.name))
    (List.replicate SlotKind.attribute.capacity none)

/-- The program source of a shader: the texts of both stages and the names of its slots. -/
def programSource (dialect : Dialect) (shader : Shader) (context : PropertyContext) :
    Except GenerateError ProgramSource := do
  let (vertex, fragment) ← stageTexts dialect shader context
  let present ← (← values shader context).enabled shader.attributes
  return {
    vertex
    fragment
    attributes := attributeTable present
    uniforms := shader.uniformNames }

end ShaderPipeline.Glsl
