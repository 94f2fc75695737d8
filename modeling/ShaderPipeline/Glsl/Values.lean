import ShaderPipeline.Property.Context
import ShaderPipeline.Language.Shader

/-!
# Values of declared properties

Before a stage is written, every property that the shader declares gets its value from the
context: the value must be there, be of the declared type (an integer may stand for a
floating-point number) and be finite. Only declared properties have a value afterwards. If a name
is declared twice, each declaration is checked and the later value counts.
-/

namespace ShaderPipeline.Glsl

open ShaderPipeline.Language Decimal

/-- Why a stage cannot be written. -/
inductive GenerateError where
  | missingProperty (name : String)
  | typeMismatch (name : String) (expected found : PropertyType)
  | nonFiniteValue (name : String)
  | invalidArrayLength (name : String) (value : Int)
deriving DecidableEq

/-- The message of an error. -/
def GenerateError.message : GenerateError → String
  | .missingProperty name => s!"No value defined for property: {name}"
  | .typeMismatch name expected found =>
    "Property declaration for " ++ name ++ " and value type conflict: " ++ expected.keyword ++
      " <-> " ++ found.keyword
  | .nonFiniteValue name => s!"Property {name} has a non-finite value"
  | .invalidArrayLength name value =>
    s!"Property {name} has value {value}, which is not a valid array length"

/-- A value used where a type is declared: an integer becomes the nearest floating-point number
where one is declared. -/
def promote : PropertyType → PropertyValue → PropertyValue
  | .float, .int value => .float (.ofInt value)
  | _, value => value

/-- Whether a value may be written into a shader. -/
def isWritable : PropertyValue → Bool
  | .float value => value.isFinite
  | _ => true

/-- The value of one declared property. -/
def declaredValue (context : PropertyContext) (declared : PropertyDecl) :
    Except GenerateError PropertyValue :=
  match context.get? declared.name with
  | none => .error (.missingProperty declared.name)
  | some given =>
    let value := promote declared.type given
    if value.type ≠ declared.type then
      .error (.typeMismatch declared.name declared.type given.type)
    else if isWritable value then .ok value
    else .error (.nonFiniteValue declared.name)

/-- The values of the declared properties, the latest declaration first. -/
abbrev Values := List PropertyEntry

/-- The values of a list of declarations put in front of those that are known. -/
def Values.ofDeclarations (context : PropertyContext) :
    List PropertyDecl → Values → Except GenerateError Values
  | [], known => .ok known
  | declared :: rest, known => do
    let value ← declaredValue context declared
    ofDeclarations context rest ((declared.name, value) :: known)

namespace Values

/-- The value that a reference stands for. -/
def get (values : Values) (reference : PropertyRef) : Except GenerateError PropertyValue :=
  match values.lookup reference.name with
  | some value => .ok value
  | none => .error (.missingProperty reference.name)

/-- The literal that is written for a reference. -/
def literal (values : Values) (reference : PropertyRef) : Except GenerateError String := do
  return (← values.get reference).literal

/-- Whether a declaration with the given condition exists. -/
def holds (values : Values) : Option PropertyRef → Except GenerateError Bool
  | none => .ok true
  | some reference => do
    match ← values.get reference with
    | .bool enabled => return enabled
    | other => throw (.typeMismatch reference.name .bool other.type)

/-- The number of elements of an array. -/
def arrayLength (values : Values) : ArrayLength → Except GenerateError Nat
  | .fixed length => .ok length
  | .property reference => do
    match ← values.get reference with
    | .int value =>
      if 0 < value then return value.toNat
      else throw (.invalidArrayLength reference.name value)
    | other => throw (.typeMismatch reference.name .int other.type)

/-- The declarations of a list whose condition holds. -/
def enabled (values : Values) : List SlotDecl → Except GenerateError (List SlotDecl)
  | [] => .ok []
  | slot :: rest => do
    let present ← values.holds slot.condition
    let others ← enabled values rest
    return if present then slot :: others else others

/-- The text of a body with all references replaced by literals. -/
def bodyText (values : Values) : Body → Except GenerateError String
  | [] => .ok ""
  | .text content :: rest => do return content ++ (← bodyText values rest)
  | .property reference :: rest => do
    let written ← values.literal reference
    return written ++ (← bodyText values rest)

end Values

end ShaderPipeline.Glsl
