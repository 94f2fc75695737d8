import ShaderPipeline.Decimal.Reading
import ShaderPipeline.Property.Value
import ShaderPipeline.Yaml.Node

/-!
# Values of scalars

What a scalar means as a property value. A plain scalar without a tag is a truth value, an integer
or a floating-point number if it is spelled like one, and a text otherwise; a quoted scalar is a
text. A tag of the core schema asks for one kind of value, and a choice by name is no value.
Integers that need between 64 and 128 bits are refused, and a number with leading zeros is a text.
-/

namespace ShaderPipeline.Yaml

open Decimal

/-- The words for the absence of a value. -/
def isNull (text : String) : Bool :=
  text == "~" || text == "null" || text == "Null" || text == "NULL"

/-- The truth value that a word stands for. -/
def bool? (text : String) : Option Bool :=
  if text == "true" || text == "True" || text == "TRUE" then some true
  else if text == "false" || text == "False" || text == "FALSE" then some false
  else none

/-- The value of a non-empty list of digits of a base. -/
def digits? (base : Nat) (text : List Char) : Option Nat :=
  if text.isEmpty then none
  else
    text.foldlM (fun n c => do
      let d ← hexDigit? c
      if d < base then some (base * n + d) else none) 0

/-- Whether a text is an optional sign and digits of which the first is a superfluous zero. -/
def hasLeadingZero (text : List Char) : Bool :=
  let digits := (splitSign text).2
  1 < digits.length && digits.head? == some '0' && digits.all Char.isDigit

/-- The natural number that a text without sign spells, in any base that its start names. -/
def unsigned? (text : List Char) : Option Nat :=
  match text with
  | '0' :: 'x' :: digits => digits? 16 digits
  | '0' :: 'o' :: digits => digits? 8 digits
  | '0' :: 'b' :: digits => digits? 2 digits
  | _ => digits? 10 text

/-- The integer that a text spells, of any size. -/
def integer? (text : List Char) : Option Int :=
  if hasLeadingZero text then none
  else
    let (negative, digits) := splitSign text
    (unsigned? digits).map fun n => if negative then -(n : Int) else n

/-- The floating-point number that a text spells: one of the words for infinity and not-a-number,
or a decimal number that is finite. -/
def float? (text : String) : Option Binary64 :=
  match text with
  | ".inf" | ".Inf" | ".INF" | "+.inf" | "+.Inf" | "+.INF" => some (.infinite false)
  | "-.inf" | "-.Inf" | "-.INF" => some (.infinite true)
  | ".nan" | ".NaN" | ".NAN" => some .nan
  | _ => (Binary64.ofText? text.toList).filter (·.isFinite)

/-- The value of an integer, if it can be held: as an integer of 64 bits, or from there up to the
greatest natural number of 64 bits as a floating-point number. -/
def ofInteger? (n : Int) : Option PropertyValue :=
  if Int64.minValue.toInt ≤ n && n ≤ Int64.maxValue.toInt then some (.int n)
  else if Int64.maxValue.toInt < n && n < UInt64.size then some (.float (.ofInt n))
  else none

/-- Whether an integer has at most 128 bits. -/
def fitsWide (n : Int) : Bool := -Nat.pow 2 127 ≤ n && n < Nat.pow 2 128

/-- The value of a plain scalar without a tag. -/
def plainValue? (text : String) : Option PropertyValue :=
  if text.isEmpty || isNull text then none
  else
    match bool? text with
    | some b => some (.bool b)
    | none =>
      let number := (integer? text.toList).filter fitsWide
      match number with
      | some n => ofInteger? n
      | none =>
        if hasLeadingZero text.toList then some (.text text)
        else
          match float? text with
          | some x => some (.float x)
          | none => some (.text text)

/-- The value of a scalar. -/
def scalarValue? (tag : Option Tag) (plain : Bool) (text : String) : Option PropertyValue :=
  match tag with
  | none | some .illegible => if plain then plainValue? text else some (.text text)
  | some .bool => (bool? text).map .bool
  | some .int => ((integer? text.toList).filter fitsWide).bind ofInteger?
  | some .float => (float? text).map .float
  | some .null | some (.choice _) => none
  | some .text => some (.text text)

end ShaderPipeline.Yaml
