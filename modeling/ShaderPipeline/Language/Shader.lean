import ShaderPipeline.Property.Value
import ShaderPipeline.Program.Slot
import ShaderPipeline.Language.Position

/-!
# Compiled shaders

What a shader source declares, independent of the dialect it will be written in: the properties it
expects, its uniforms by slot, its attributes, varyings and outputs, and the bodies of its blocks
with the properties that they refer to. Everything that came from a place in the source carries
that place.
-/

namespace ShaderPipeline.Language

/-- The types of uniforms, attributes, varyings and outputs. -/
inductive GlslType where
  | float | int | bool
  | vec2 | vec3 | vec4
  | ivec2 | ivec3 | ivec4
  | bvec2 | bvec3 | bvec4
  | mat2 | mat3 | mat4
  | sampler2D
deriving DecidableEq, Repr

namespace GlslType

/-- All types. -/
def all : List GlslType :=
  [.float, .int, .bool, .vec2, .vec3, .vec4, .ivec2, .ivec3, .ivec4, .bvec2, .bvec3, .bvec4, .mat2,
    .mat3, .mat4, .sampler2D]

/-- The word that stands for a type. -/
def keyword : GlslType → String
  | .float => "float"
  | .int => "int"
  | .bool => "bool"
  | .vec2 => "vec2"
  | .vec3 => "vec3"
  | .vec4 => "vec4"
  | .ivec2 => "ivec2"
  | .ivec3 => "ivec3"
  | .ivec4 => "ivec4"
  | .bvec2 => "bvec2"
  | .bvec3 => "bvec3"
  | .bvec4 => "bvec4"
  | .mat2 => "mat2"
  | .mat3 => "mat3"
  | .mat4 => "mat4"
  | .sampler2D => "sampler2D"

/-- The type that a word stands for. -/
def ofKeyword? (word : String) : Option GlslType :=
  all.find? (·.keyword == word)

theorem ofKeyword?_keyword (t : GlslType) : ofKeyword? t.keyword = some t := by
  cases t <;> rfl

end GlslType

/-- The precision of a declaration, which only some dialects write. -/
inductive Precision where
  | low
  | medium
  | high
deriving DecidableEq, Repr

namespace Precision

/-- The word that stands for a precision. -/
def keyword : Precision → String
  | .low => "lowp"
  | .medium => "mediump"
  | .high => "highp"

/-- The precision that a word stands for. -/
def ofKeyword? : String → Option Precision
  | "lowp" => some .low
  | "mediump" => some .medium
  | "highp" => some .high
  | _ => none

theorem ofKeyword?_keyword (p : Precision) : ofKeyword? p.keyword = some p := by
  cases p <;> rfl

end Precision

/-- A place that names a property. -/
structure PropertyRef where
  name : String
  location : Position
deriving DecidableEq

/-- The length of an array: a number, or the value of an integer property. -/
inductive ArrayLength where
  | fixed (length : Nat)
  | property (reference : PropertyRef)
deriving DecidableEq

/-- A named thing with its type. -/
structure Declaration where
  name : String
  type : GlslType
  precision : Option Precision
  array : Option ArrayLength
  location : Position
deriving DecidableEq

/-- A property that the shader expects. -/
structure PropertyDecl where
  name : String
  type : PropertyType
  location : Position
deriving DecidableEq

/-- An attribute or output with its slot. With a condition it exists only where that property is
true. -/
structure SlotDecl where
  slot : Nat
  declaration : Declaration
  condition : Option PropertyRef
deriving DecidableEq

/-- A piece of a body: text that is copied, or a property whose value is written in its place. -/
inductive Segment where
  | text (content : String)
  | property (reference : PropertyRef)
deriving DecidableEq

/-- The contents of a block. -/
abbrev Body := List Segment

namespace Body

/-- The property that a segment names. -/
def segmentRef? : Segment → Option PropertyRef
  | .text _ => none
  | .property reference => some reference

/-- The places in a body that name a property, in order. -/
def propertyRefs (body : Body) : List PropertyRef := body.filterMap segmentRef?

end Body

/-- A compiled shader. The entry of a uniform in the list is its slot. -/
structure Shader where
  properties : List PropertyDecl
  uniforms : List (Option Declaration)
  attributes : List SlotDecl
  varyings : List Declaration
  outputs : List SlotDecl
  shared : Option Body
  vertex : Body
  fragment : Body
deriving DecidableEq

namespace Shader

/-- The body of a stage. -/
def stage (shader : Shader) : StageKind → Body
  | .vertex => shader.vertex
  | .fragment => shader.fragment

/-- The name of the uniform at each slot, up to the highest slot that is in use. -/
def uniformNames (shader : Shader) : List (Option String) :=
  shader.uniforms.map fun entry => entry.map (·.name)

/-- The declaration of a property. -/
def property? (shader : Shader) (name : String) : Option PropertyDecl :=
  shader.properties.find? (·.name == name)

end Shader

end ShaderPipeline.Language
