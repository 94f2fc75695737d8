import ShaderPipeline.Language.Token
import ShaderPipeline.Language.Shader

/-!
# Compile errors

Why a source is not a shader, and where. Each cause has one message. Only a missing block has no
place in the source.
-/

namespace ShaderPipeline.Language

/-- What a declaration expects next. -/
inductive Expectation where
  | item
  | type
  | name
  | propertyType
  | propertyName
  | arrayLength
  | slotIndex (kind : SlotKind)
  | token (wanted : Token)
deriving DecidableEq

namespace Expectation

/-- What a message says is expected where something else was found. -/
def text : Expectation → String
  | .item => "a declaration or block"
  | .type => "a type"
  | .name => "an identifier"
  | .propertyType => "a property type"
  | .propertyName => "a property name"
  | .arrayLength => "an array length"
  | .slotIndex kind => "a " ++ kind.title ++ " slot index"
  | .token wanted => wanted.quoted

/-- What a message says is expected where the source ends. A slot is named without its kind. -/
def textAtEnd : Expectation → String
  | .slotIndex _ => "a slot index"
  | expected => expected.text

end Expectation

/-- The three kinds of blocks. -/
inductive BlockKind where
  | shared
  | stage (kind : StageKind)
deriving DecidableEq

/-- The name of a block kind. -/
def BlockKind.name : BlockKind → String
  | .shared => "shared"
  | .stage kind => kind.name

/-- The uses of a property that fix its type. -/
inductive PropertyUse where
  | arrayLength
  | condition
deriving DecidableEq

namespace PropertyUse

/-- How a message calls a use. -/
def text : PropertyUse → String
  | .arrayLength => "an array length"
  | .condition => "a condition"

/-- The type that a use asks for. -/
def type : PropertyUse → PropertyType
  | .arrayLength => .int
  | .condition => .bool

end PropertyUse

/-- Why a source is not a shader. -/
inductive Fault where
  | unterminatedComment
  | unterminatedBlock
  | malformedInteger (digits : String)
  | integerOutOfRange (digits : String)
  | unexpectedCharacter (char : Char)
  | unnamedProperty
  | unexpectedEnd (expected : Expectation)
  | unexpected (expected : Expectation) (found : Token)
  | unknownDirective (word : String)
  | unknownType (word : String)
  | unknownPropertyType (word : String)
  | slotOutOfRange (kind : SlotKind) (slot : Nat)
  | duplicateSlot (kind : SlotKind) (slot : Nat)
  | redeclared (name : String)
  | emptyArray
  | duplicateBlock (kind : BlockKind)
  | missingBlock (stage : StageKind)
  | undeclaredProperty (name : String)
  | mistypedProperty (name : String) (use : PropertyUse) (declared : PropertyType)
deriving DecidableEq

/-- The message of a fault. -/
def Fault.message : Fault → String
  | .unterminatedComment => "Unterminated block comment"
  | .unterminatedBlock => "Unterminated block, expected '\x7d'"
  | .malformedInteger digits => s!"Malformed integer literal starting with '{digits}'"
  | .integerOutOfRange digits => s!"Integer literal out of range: {digits}"
  | .unexpectedCharacter char => s!"Unexpected character '{char}'"
  | .unnamedProperty => "Expected property name after '$'"
  | .unexpectedEnd expected => "Unexpected end of input, expected " ++ expected.textAtEnd
  | .unexpected expected found => "Expected " ++ expected.text ++ ", found " ++ found.quoted
  | .unknownDirective word => s!"Unknown directive: {word}"
  | .unknownType word => s!"Unknown type: {word}"
  | .unknownPropertyType word => s!"Unknown property type: {word}"
  | .slotOutOfRange kind slot =>
    s!"{kind.title} slot {slot} out of range, must be below {kind.capacity}"
  | .duplicateSlot kind slot => s!"Duplicate {kind.name} slot: {slot}"
  | .redeclared name => s!"Redeclaring identifier: {name}"
  | .emptyArray => "Array length must be positive"
  | .duplicateBlock kind => s!"Duplicate {kind.name} block"
  | .missingBlock stage => s!"Missing {stage.name} block"
  | .undeclaredProperty name => s!"Undeclared property: {name}"
  | .mistypedProperty name use declared =>
    "Property " ++ name ++ " is used as " ++ use.text ++ " and must be " ++ use.type.keyword ++
      ", but is declared " ++ declared.keyword

/-- A fault and the place where it was found. -/
structure CompileError where
  fault : Fault
  location : Option Position
deriving DecidableEq

namespace CompileError

/-- A fault at a place of the source. -/
def located (location : Position) (fault : Fault) : CompileError := ⟨fault, some location⟩

/-- The message of the fault after its place. -/
def message (e : CompileError) : String :=
  match e.location with
  | none => e.fault.message
  | some location => location.text ++ ": " ++ e.fault.message

end CompileError

end ShaderPipeline.Language
