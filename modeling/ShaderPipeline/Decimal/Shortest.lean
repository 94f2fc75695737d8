import ShaderPipeline.Decimal.Binary64

/-!
# Shortest decimal text

The decimal text of a floating-point number: the fewest digits that read back to the same number
and, among the numbers with so few digits, the nearest one; two equally near ones are decided for
the greater. The text is always positional, never with an exponent, and a whole number has no
decimal point.

All arithmetic is on natural numbers. A magnitude `m · 2^e` is read back from every real number
between the midpoints to its two neighbours, the midpoints included exactly when `m` is even; the
search looks at the two points of each decimal grid next to the magnitude, from the coarsest grid
on.
-/

namespace ShaderPipeline.Decimal

/-- The number `digits · 10^power`. -/
structure Scaled where
  digits : Nat
  power : Int
deriving DecidableEq, Repr

/-- A real number between two others, as multiples of a common unit, with the rule for the ends. -/
structure Interval where
  low : Nat
  value : Nat
  high : Nat
  closed : Bool

namespace Interval

/-- Whether a point `num / den` of the unit lies in the interval. -/
def contains (i : Interval) (num den : Nat) : Bool :=
  (i.low * den < num || i.closed && i.low * den == num) &&
    (num < i.high * den || i.closed && num == i.high * den)

/-- The numbers that round to the given magnitude, in units of a quarter of its last place. -/
def ofMagnitude (magnitude : Nat) : Interval :=
  let m := Binary64.significand magnitude
  let atBinadeStart := m == binadeSize && 2 * binadeSize ≤ magnitude
  { low := 4 * m - (if atBinadeStart then 1 else 2)
    value := 4 * m
    high := 4 * m + 2
    closed := m % 2 == 0 }

end Interval

/-- The point of the grid of multiples of `10^power` chosen for the interval, if one lies in it.
The interval's unit is `2^unit`. -/
def gridPoint? (i : Interval) (unit power : Int) : Option Nat :=
  let num := Nat.pow 2 unit.toNat * Nat.pow 10 (-power).toNat
  let den := Nat.pow 2 (-unit).toNat * Nat.pow 10 power.toNat
  let below := i.value * num / den
  let left := i.value * num % den
  let hitBelow := i.contains (below * den) num
  let hitAbove := i.contains ((below + 1) * den) num
  if hitBelow && hitAbove then
    some (if 2 * left < den then below else below + 1)
  else if hitBelow then some below
  else if hitAbove then some (below + 1)
  else none

/-- The first grid with a point in the interval, among `count` grids, each ten times finer than
the one before it and the first one of step `10^power`. -/
def firstGrid (i : Interval) (unit : Int) : Nat → Int → Scaled
  | 0, power => ⟨0, power⟩
  | count + 1, power =>
    match gridPoint? i unit power with
    | some digits => ⟨digits, power⟩
    | none => firstGrid i unit count (power - 1)

/-- The number of digits before the decimal point of a positive magnitude; negative if zeros
follow the point. It is counted on a grid that is finer than every magnitude. -/
def wholeDigits (i : Interval) (unit : Int) : Int :=
  let fine := i.value * Nat.pow 2 unit.toNat * Nat.pow 10 400 / Nat.pow 2 (-unit).toNat
  (Nat.toDigits 10 fine).length - 400

/-- The shortest decimal number that reads back to the given positive magnitude. Seventeen digits
are always enough. -/
def shortest (magnitude : Nat) : Scaled :=
  let i := Interval.ofMagnitude magnitude
  let unit := Binary64.exponent magnitude - 2
  firstGrid i unit 17 (wholeDigits i unit - 1)

/-- Positional notation of a decimal number. -/
def Scaled.positional (x : Scaled) : List Char :=
  let digits := Nat.toDigits 10 x.digits
  if 0 ≤ x.power then digits ++ List.replicate x.power.toNat '0'
  else
    let places := (-x.power).toNat
    let padded := List.replicate (places + 1 - digits.length) '0' ++ digits
    let whole := padded.take (padded.length - places)
    let fraction := (padded.drop (padded.length - places)).reverse.dropWhile (· == '0')
    if fraction.isEmpty then whole else whole ++ '.' :: fraction.reverse

/-- The decimal text of a floating-point number. -/
def Binary64.toText : Binary64 → String
  | .nan => "NaN"
  | .infinite negative => if negative then "-inf" else "inf"
  | .finite negative magnitude =>
    let digits := if magnitude.val = 0 then ['0'] else (shortest magnitude).positional
    String.ofList (if negative then '-' :: digits else digits)

end ShaderPipeline.Decimal
