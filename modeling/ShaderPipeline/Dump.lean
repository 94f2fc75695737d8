import ShaderPipeline.JsonText
import ShaderPipeline.Language.Shader
import ShaderPipeline.Program.Source

/-!
# Dumps

Compiled shaders and program sources as JSON values. A uniform is shown with its slot, and an
unused slot as null; the two forms of an array length and of a segment are told apart by the name
of their single member.
-/

namespace ShaderPipeline.Dump

open ShaderPipeline.Language

/-- The name of a type. -/
def typeName : GlslType → String
  | .float => "Float"
  | .int => "Int"
  | .bool => "Bool"
  | .vec2 => "Vec2"
  | .vec3 => "Vec3"
  | .vec4 => "Vec4"
  | .ivec2 => "IVec2"
  | .ivec3 => "IVec3"
  | .ivec4 => "IVec4"
  | .bvec2 => "BVec2"
  | .bvec3 => "BVec3"
  | .bvec4 => "BVec4"
  | .mat2 => "Mat2"
  | .mat3 => "Mat3"
  | .mat4 => "Mat4"
  | .sampler2D => "Sampler2D"

/-- The name of a precision. -/
def precisionName : Precision → String
  | .low => "Low"
  | .medium => "Medium"
  | .high => "High"

/-- A position. -/
def position (p : Position) : JsonValue :=
  .object [("line", .number p.line), ("column", .number p.column)]

/-- A reference to a property. -/
def reference (r : PropertyRef) : JsonValue :=
  .object [("name", .string r.name), ("location", position r.location)]

/-- An array length. -/
def arrayLength : ArrayLength → JsonValue
  | .fixed length => .object [("Fixed", .number length)]
  | .property r => .object [("Property", reference r)]

/-- A declaration. -/
def declaration (d : Declaration) : JsonValue :=
  .object [("name", .string d.name), ("ty", .string (typeName d.type)),
    ("precision", .ofOption (fun p => .string (precisionName p)) d.precision),
    ("array", .ofOption arrayLength d.array), ("location", position d.location)]

/-- A property declaration. -/
def property (d : PropertyDecl) : JsonValue :=
  .object [("name", .string d.name), ("ty", .string d.type.keyword),
    ("location", position d.location)]

/-- The uniforms from a slot on. -/
def uniformsFrom (slot : Nat) : List (Option Declaration) → List JsonValue
  | [] => []
  | none :: rest => .null :: uniformsFrom (slot + 1) rest
  | some d :: rest =>
    .object [("slot", .number slot), ("declaration", declaration d)] :: uniformsFrom (slot + 1) rest

/-- An attribute or output. -/
def slot (d : SlotDecl) : JsonValue :=
  .object [("slot", .number d.slot), ("declaration", declaration d.declaration),
    ("condition", .ofOption reference d.condition)]

/-- A segment of a body. -/
def segment : Segment → JsonValue
  | .text content => .object [("Text", .string content)]
  | .property r => .object [("Property", reference r)]

/-- A body. -/
def body (b : Body) : JsonValue := .object [("segments", .ofList segment b)]

/-- A compiled shader. -/
def shader (s : Shader) : JsonValue :=
  .object [("properties", .ofList property s.properties),
    ("uniforms", .array (uniformsFrom 0 s.uniforms)),
    ("attributes", .ofList slot s.attributes), ("varyings", .ofList declaration s.varyings),
    ("outputs", .ofList slot s.outputs), ("shared", .ofOption body s.shared),
    ("vertex", body s.vertex), ("fragment", body s.fragment)]

/-- The names of a slot table. -/
def names (table : List (Option String)) : JsonValue := .ofList (.ofOption .string) table

/-- A program source. -/
def program (s : ProgramSource) : JsonValue :=
  .object [("vertex", .string s.vertex), ("fragment", .string s.fragment),
    ("attributes", names s.attributes), ("uniforms", names s.uniforms)]

/-- A compiled shader with the program source made of it. -/
def both (s : Shader) (source : ProgramSource) : JsonValue :=
  .object [("shader", shader s), ("program", program source)]

end ShaderPipeline.Dump
