import ShaderPipeline.Decimal.Shortest

/-!
# Property values

A property is a named value that a shader may refer to. Its value is a truth value, an integer, a
floating-point number or a text. The type of a value is fixed by its form: an integer is never a
floating-point number, and the promotion of one to the other belongs to the code that uses a
property, not to the value.
-/

namespace ShaderPipeline

open Decimal

/-- The types that a property declaration can name. -/
inductive PropertyType where
  | int
  | float
  | bool
  | string
deriving DecidableEq, Repr

/-- The word that stands for a property type in shader sources and messages. -/
def PropertyType.keyword : PropertyType → String
  | .int => "int"
  | .float => "float"
  | .bool => "bool"
  | .string => "string"

/-- The property type that a word stands for. -/
def PropertyType.ofKeyword? : String → Option PropertyType
  | "int" => some .int
  | "float" => some .float
  | "bool" => some .bool
  | "string" => some .string
  | _ => none

theorem PropertyType.ofKeyword?_keyword (t : PropertyType) : ofKeyword? t.keyword = some t := by
  cases t <;> rfl

/-- The value of a property. Integers are those of 64 bits, which every reader of values checks. -/
inductive PropertyValue where
  | bool (value : Bool)
  | int (value : Int)
  | float (value : Binary64)
  | text (value : String)
deriving DecidableEq

namespace PropertyValue

/-- The type of a value. -/
def type : PropertyValue → PropertyType
  | .bool _ => .bool
  | .int _ => .int
  | .float _ => .float
  | .text _ => .string

/-- Equality of values in which floating-point numbers are compared as numbers. -/
def sameValue : PropertyValue → PropertyValue → Bool
  | .bool a, .bool b => a == b
  | .int a, .int b => a == b
  | .float a, .float b => a.numericallyEqual b
  | .text a, .text b => a == b
  | _, _ => false

/-- A text that is marked as a floating-point literal: a whole number gets a fraction of zero. -/
def markedAsFloat (text : String) : String :=
  if text.toList.any (fun c => c == '.' || c == 'e' || c == 'E') then text else text ++ ".0"

/-- The literal that stands for a value in generated shader text. A text stands for itself. -/
def literal : PropertyValue → String
  | .bool true => "true"
  | .bool false => "false"
  | .int value => toString value
  | .float value => markedAsFloat value.toText
  | .text value => value

end PropertyValue

end ShaderPipeline
