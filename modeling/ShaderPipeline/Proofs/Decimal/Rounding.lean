import ShaderPipeline.Decimal.Binary64

/-!
# Rounding of integers

An integer is rounded on the grid of its binade, which has 2^53 steps up to the next power of two
at most. So the magnitude of the result is in the binade of the integer or at the start of the next
one, and an integer of few bits is never rounded to infinity. How near the result is to the integer
is not covered.
-/

namespace ShaderPipeline.Decimal.Binary64

/-- Rounding to nearest goes up by one at most. -/
theorem nearestEven_le (num den : Nat) : nearestEven num den ≤ num / den + 1 := by
  unfold nearestEven
  simp only
  split
  · omega
  · split
    · omega
    · split <;> omega

/-- The binade of a positive integer is that of its leading bit. -/
theorem floorLog2_one {num : Nat} (h : num ≠ 0) : floorLog2 num 1 = num.log2 := by
  have hlog : Nat.log2 1 = 0 := by decide
  have hguess : powerAtMost num.log2 num 1 = true := by
    have hzero : (-(num.log2 : Int)).toNat = 0 := by omega
    simp only [powerAtMost, Int.toNat_natCast, hzero, decide_eq_true_eq]
    change 1 * 2 ^ num.log2 ≤ num * 2 ^ 0
    have := Nat.log2_self_le h
    omega
  simp [floorLog2, hlog, hguess]

/-- An integer takes at most 2^53 steps of the grid of its binade. -/
theorem steps_le {num : Nat} {e : Int} (h : e = (num.log2 : Int) - 52) :
    nearestEven (num * Nat.pow 2 (-e).toNat) (1 * Nat.pow 2 e.toNat) ≤ 2 * binadeSize := by
  have hlog : num < 2 ^ (num.log2 + 1) := Nat.lt_log2_self
  have hbound : num * Nat.pow 2 (-e).toNat / (1 * Nat.pow 2 e.toNat) < 2 * binadeSize := by
    change num * 2 ^ (-e).toNat / (1 * 2 ^ e.toNat) < 2 ^ 53
    rw [Nat.div_lt_iff_lt_mul (by rw [Nat.one_mul]; exact Nat.two_pow_pos _), Nat.one_mul,
      ← Nat.pow_add]
    calc num * 2 ^ (-e).toNat
        < 2 ^ (num.log2 + 1) * 2 ^ (-e).toNat :=
          Nat.mul_lt_mul_of_pos_right hlog (Nat.two_pow_pos _)
      _ = 2 ^ (53 + e.toNat) := by
          rw [← Nat.pow_add]
          congr 1
          omega
  have hle := nearestEven_le (num * Nat.pow 2 (-e).toNat) (1 * Nat.pow 2 e.toNat)
  omega

/-- An integer of at most 1023 bits is not rounded to infinity. -/
theorem isFinite_ofInt {n : Int} (h : n.natAbs.log2 < 1023) : (ofInt n).isFinite = true := by
  unfold ofInt ofRatio
  by_cases hzero : n.natAbs = 0
  · rw [if_pos hzero]
    rfl
  · have he : max (-1074) (floorLog2 n.natAbs 1 - 52) = (n.natAbs.log2 : Int) - 52 := by
      rw [floorLog2_one hzero]
      omega
    have hsteps := steps_le he
    rw [if_neg hzero]
    simp only
    have hposition : (max (-1074) (floorLog2 n.natAbs 1 - 52) + 1074).toNat * binadeSize +
        nearestEven (n.natAbs * Nat.pow 2 (-max (-1074) (floorLog2 n.natAbs 1 - 52)).toNat)
          (1 * Nat.pow 2 (max (-1074) (floorLog2 n.natAbs 1 - 52)).toNat) < magnitudeCount := by
      rw [magnitudeCount]
      generalize max (-1074) (floorLog2 n.natAbs 1 - 52) = e at he hsteps ⊢
      have hbinade : (e + 1074).toNat ≤ 2044 := by omega
      have hmul := Nat.mul_le_mul_right binadeSize hbinade
      have hpos : 0 < binadeSize := by decide
      omega
    rw [dif_pos hposition]
    rfl

end ShaderPipeline.Decimal.Binary64
