/-!
# Binary floating-point numbers of 64 bits

The numbers that a floating-point property can hold, as an exact data type. A finite number is a
sign and a magnitude, where the magnitude is the number's position in the increasing list of all
finite magnitudes: position 0 is zero, the first 2^52 positions are the multiples of 2^-1074 below
2^-1022, and each further block of 2^52 positions is one binade. The position is the bit pattern
of the number without its sign.

Conversions from integers, ratios and decimal notation round to the nearest number, and a tie goes
to the even neighbour. Payloads of not-a-number values are not represented.
-/

namespace ShaderPipeline.Decimal

/-- The count of magnitudes in one binade, which is 2^52. -/
def binadeSize : Nat := 4503599627370496

/-- The count of finite magnitudes. -/
def magnitudeCount : Nat := 2047 * binadeSize

/-- A floating-point number of 64 bits. -/
inductive Binary64 where
  | nan
  | infinite (negative : Bool)
  | finite (negative : Bool) (magnitude : Fin magnitudeCount)
deriving DecidableEq

namespace Binary64

/-- Positive zero. -/
def zero : Binary64 := .finite false ⟨0, by decide⟩

instance : Inhabited Binary64 := ⟨zero⟩

/-- Neither infinite nor not-a-number. -/
def isFinite : Binary64 → Bool
  | .finite _ _ => true
  | _ => false

/-- Numeric equality: not-a-number differs from everything, and the two zeros are equal. -/
def numericallyEqual : Binary64 → Binary64 → Bool
  | .finite s m, .finite t n => m == n && (s == t || m.val == 0)
  | .infinite s, .infinite t => s == t
  | _, _ => false

/-- The integer `m` of a magnitude `m · 2^e`. -/
def significand (magnitude : Nat) : Nat :=
  if magnitude < binadeSize then magnitude else binadeSize + magnitude % binadeSize

/-- The exponent `e` of a magnitude `m · 2^e`. -/
def exponent (magnitude : Nat) : Int :=
  if magnitude < binadeSize then -1074 else (magnitude / binadeSize : Nat) - 1075

/-- The integer nearest to `num / den`, a tie going to the even one. -/
def nearestEven (num den : Nat) : Nat :=
  let whole := num / den
  let left := num % den
  if 2 * left < den then whole
  else if den < 2 * left then whole + 1
  else if whole % 2 = 0 then whole
  else whole + 1

/-- Whether `2^e ≤ num / den`. -/
def powerAtMost (e : Int) (num den : Nat) : Bool :=
  decide (den * Nat.pow 2 e.toNat ≤ num * Nat.pow 2 (-e).toNat)

/-- The greatest `e` with `2^e ≤ num / den`, for positive `num` and `den`. -/
def floorLog2 (num den : Nat) : Int :=
  let guess : Int := (num.log2 : Int) - den.log2
  if powerAtMost guess num den then guess else guess - 1

/-- The number nearest to `num / den` with the given sign. -/
def ofRatio (negative : Bool) (num den : Nat) : Binary64 :=
  if num = 0 then .finite negative ⟨0, by decide⟩
  else
    let e := max (-1074) (floorLog2 num den - 52)
    let steps := nearestEven (num * Nat.pow 2 (-e).toNat) (den * Nat.pow 2 e.toNat)
    let position := (e + 1074).toNat * binadeSize + steps
    if h : position < magnitudeCount then .finite negative ⟨position, h⟩ else .infinite negative

/-- The number nearest to an integer. -/
def ofInt (n : Int) : Binary64 :=
  ofRatio (decide (n < 0)) n.natAbs 1

/-- The number nearest to `digits · 10^power`.

Beyond 10^310 every number is infinite and below 10^-330 every number is zero, so that the power
of ten that is computed stays small. -/
def ofDecimal (negative : Bool) (digits : Nat) (power : Int) : Binary64 :=
  let reach : Int := (Nat.toDigits 10 digits).length + power
  if digits = 0 || reach < -330 then .finite negative ⟨0, by decide⟩
  else if 310 < reach then .infinite negative
  else ofRatio negative (digits * Nat.pow 10 power.toNat) (Nat.pow 10 (-power).toNat)

end Binary64

end ShaderPipeline.Decimal
