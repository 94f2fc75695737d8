import ShaderPipeline.Language.Draft

/-!
# Compilation

A source compiles if its items can be read, both stages have a block, and every property that is
used is declared, as an integer where it is an array length and as a truth value where it is a
condition. Compilation is a function of the source text alone.
-/

namespace ShaderPipeline.Language

namespace Draft

/-- The uniforms by slot, up to the highest slot in use. -/
def uniformTable (draft : Draft) : List (Option Declaration) :=
  let size := draft.uniforms.foldl (fun size entry => max size (entry.1 + 1)) 0
  (List.range size).map fun slot => draft.uniforms.lookup slot

/-- The declarations that can be arrays, in the order in which they are checked. -/
def declarations (draft : Draft) : List Declaration :=
  draft.uniformTable.filterMap id ++ draft.attributes.map (·.declaration) ++ draft.varyings ++
    draft.outputs.map (·.declaration)

/-- The property that a declaration takes its array length from. -/
def lengthRef? (declared : Declaration) : Option PropertyRef :=
  match declared.array with
  | some (.property reference) => some reference
  | _ => none

/-- The conditions, in the order in which they are checked. -/
def conditions (draft : Draft) : List PropertyRef :=
  (draft.attributes ++ draft.outputs).filterMap (·.condition)

/-- The type of a property that is used. -/
def usedType (draft : Draft) (reference : PropertyRef) : Except CompileError PropertyType :=
  match draft.properties.find? (·.name == reference.name) with
  | some declared => .ok declared.type
  | none => .error (.located reference.location (.undeclaredProperty reference.name))

/-- Checks that a property is declared. -/
def checkDeclared (draft : Draft) (reference : PropertyRef) : Except CompileError Unit := do
  let _ ← draft.usedType reference

/-- Checks that a property is declared with the type that its use asks for. -/
def checkUse (draft : Draft) (use : PropertyUse) (reference : PropertyRef) :
    Except CompileError Unit := do
  let declared ← draft.usedType reference
  if declared = use.type then pure ()
  else .error (.located reference.location (.mistypedProperty reference.name use declared))

/-- The shader that a draft of a whole source describes. -/
def toShader (draft : Draft) : Except CompileError Shader := do
  let some vertex := draft.vertex | .error ⟨.missingBlock .vertex, none⟩
  let some fragment := draft.fragment | .error ⟨.missingBlock .fragment, none⟩
  (draft.declarations.filterMap lengthRef?).forM (draft.checkUse .arrayLength)
  draft.conditions.forM (draft.checkUse .condition)
  ((draft.shared.getD []).propertyRefs ++ vertex.propertyRefs ++ fragment.propertyRefs).forM
    draft.checkDeclared
  return {
    properties := draft.properties
    uniforms := draft.uniformTable
    attributes := draft.attributes
    varyings := draft.varyings
    outputs := draft.outputs
    shared := draft.shared
    vertex
    fragment }

end Draft

/-- Compiles a shader source. The first item that cannot be read is reported. If all can be read, it
is a missing block, of the vertex stage before the fragment stage, or else the first wrong use of a
property: array lengths are checked before conditions, and conditions before references in blocks.
-/
def compile (source : String) : Except CompileError Shader := do
  let draft ← readItems {} (.atStart source.toList)
  draft.toShader

end ShaderPipeline.Language
