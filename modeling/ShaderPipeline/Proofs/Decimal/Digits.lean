import ShaderPipeline.Decimal.Reading

/-!
# Natural numbers in decimal digits

A text of decimal digits is read as a natural number exactly if it is not empty, and the digits of a
number are read as that number. Signs, points and exponents are not covered.
-/

namespace ShaderPipeline.Decimal

/-- What is read as a natural number. -/
theorem natural?_eq_some_iff {text : List Char} {n : Nat} :
    natural? text = some n ↔
      text ≠ [] ∧ (∀ c ∈ text, c.isDigit = true) ∧ digitsValue text = n := by
  rw [natural?, Option.ite_none_left_eq_some]
  simp [and_assoc]

/-- The text of a number in decimal digits has that number as its value. -/
theorem digitsValue_toDigits (n : Nat) : digitsValue (Nat.toDigits 10 n) = n :=
  Nat.ofDigitChars_ten_toDigits

/-- The digits of a number are read as that number. -/
theorem natural?_toDigits (n : Nat) : natural? (Nat.toDigits 10 n) = some n := by
  rw [natural?_eq_some_iff]
  refine ⟨Nat.toDigits_ne_nil, ?_, digitsValue_toDigits n⟩
  intro c hc
  exact Nat.isDigit_of_mem_toDigits (by decide) (by decide) hc

end ShaderPipeline.Decimal
