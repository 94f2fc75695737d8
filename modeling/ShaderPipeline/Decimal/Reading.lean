import ShaderPipeline.Decimal.Binary64

/-!
# Reading decimal numbers

The grammar of a decimal floating-point number: an optional sign, then digits with an optional
point among, before or after them and at least one digit, then an optional exponent `e` or `E` with
an optional sign and at least one digit. The words for infinity and not-a-number are not part of
it; the formats that have them name their own spellings.
-/

namespace ShaderPipeline.Decimal

/-- The value of a list of decimal digits. -/
def digitsValue (digits : List Char) : Nat :=
  digits.foldl (fun n c => 10 * n + (c.toNat - '0'.toNat)) 0

/-- Splits an optional sign off; the flag says that it is a minus. -/
def splitSign : List Char → Bool × List Char
  | '-' :: rest => (true, rest)
  | '+' :: rest => (false, rest)
  | text => (false, text)

/-- The value of a non-empty list of decimal digits, and nothing for any other text. -/
def natural? (text : List Char) : Option Nat :=
  if text.isEmpty || !text.all Char.isDigit then none else some (digitsValue text)

/-- The value of an exponent part, which is zero if the part is absent. -/
def exponent? : List Char → Option Int
  | [] => some 0
  | c :: rest =>
    if c = 'e' || c = 'E' then
      let (negative, digits) := splitSign rest
      (natural? digits).map fun n => if negative then -(n : Int) else n
    else none

/-- The number nearest to a decimal text without its sign. -/
def magnitude? (negative : Bool) (text : List Char) : Option Binary64 :=
  let whole := text.takeWhile Char.isDigit
  let afterWhole := text.dropWhile Char.isDigit
  let (fraction, tail) :=
    match afterWhole with
    | '.' :: rest => (rest.takeWhile Char.isDigit, rest.dropWhile Char.isDigit)
    | rest => ([], rest)
  if whole.isEmpty && fraction.isEmpty then none
  else
    (exponent? tail).map fun power =>
      .ofDecimal negative (digitsValue (whole ++ fraction)) (power - fraction.length)

/-- The number nearest to a decimal text. -/
def Binary64.ofText? (text : List Char) : Option Binary64 :=
  let (negative, rest) := splitSign text
  magnitude? negative rest

end ShaderPipeline.Decimal
