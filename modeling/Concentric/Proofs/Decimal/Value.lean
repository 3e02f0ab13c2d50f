import Mathlib.Data.Rat.Cast.Order
import Concentric.Decimal.Basic

/-!
# The value of a decimal

A decimal stands for a rational number, and reading it as a double depends on its sign and on that number alone
(`toBinary64_eq_of_absValue`): zeros at its end and the place of its point do not matter.
-/

namespace Concentric

namespace Binary64

/-- A common factor of the quotient does not change its rounding to the grid. -/
theorem roundToGrid_mul_mul {factor : Nat} (num den : Nat) (hpositive : 0 < factor) :
    roundToGrid (factor * num) (factor * den) = roundToGrid num den := by
  unfold roundToGrid
  rw [Nat.mul_div_mul_left _ _ hpositive, Nat.mul_assoc, roundQuotient_mul_mul _ _ hpositive]

/-- Equal quotients are rounded to the same point. -/
theorem roundToGrid_eq_of_mul_eq {num den num' den' : Nat} (hden : 0 < den) (hden' : 0 < den')
    (h : num * den' = num' * den) : roundToGrid num den = roundToGrid num' den' := by
  calc roundToGrid num den = roundToGrid (den' * num) (den' * den) :=
        (roundToGrid_mul_mul num den hden').symm
    _ = roundToGrid (den * num') (den * den') := by
        rw [Nat.mul_comm den' num, h, Nat.mul_comm num' den, Nat.mul_comm den' den]
    _ = roundToGrid num' den' := roundToGrid_mul_mul num' den' hden

theorem ofRatio_eq_of_mul_eq (negative : Bool) {num den num' den' : Nat} (hden : 0 < den)
    (hden' : 0 < den') (h : num * den' = num' * den) :
    ofRatio negative num den = ofRatio negative num' den' := by
  have hsame := roundToGrid_eq_of_mul_eq hden hden' h
  unfold ofRatio
  simp only [hsame]

/-- The sign has no part in the rounding. -/
theorem ofRatio_eq_finite_of_ofRatio_eq_finite {negative : Bool} {num den quanta : Nat}
    {representable : Representable quanta} (other : Bool)
    (h : ofRatio negative num den = .finite negative quanta representable) :
    ofRatio other num den = .finite other quanta representable := by
  unfold ofRatio at h ⊢
  split at h
  · next hrange =>
    obtain ⟨-, hquanta⟩ := Binary64.finite.inj h
    rw [dif_pos hrange]
    simp only [hquanta]
  · exact Binary64.noConfusion h

end Binary64

namespace Decimal

/-- **The value of a decimal** without its sign. -/
def absValue (d : Decimal) : ℚ := d.digits * 10 ^ d.exponent

theorem denominator_pos (d : Decimal) : 0 < d.denominator := Nat.pow_pos (by omega)

theorem absValue_eq_div (d : Decimal) : d.absValue = d.numerator / d.denominator := by
  have hten : (10 : ℚ) ≠ 0 := by norm_num
  have hnumerator : (d.numerator : ℚ) = d.digits * 10 ^ d.exponent.toNat := by
    show ((d.digits * 10 ^ d.exponent.toNat : Nat) : ℚ) = _
    push_cast
    rfl
  have hdenominator : (d.denominator : ℚ) = 10 ^ (-d.exponent).toNat := by
    show ((10 ^ (-d.exponent).toNat : Nat) : ℚ) = _
    push_cast
    rfl
  rw [absValue, hnumerator, hdenominator]
  -- One of the two powers is the one of the exponent, the other one is 1.
  rcases Int.le_total 0 d.exponent with hpos | hneg
  · have hzero : (-d.exponent).toNat = 0 := by omega
    rw [hzero, pow_zero, div_one, ← zpow_natCast, Int.toNat_of_nonneg hpos]
  · have hzero : d.exponent.toNat = 0 := by omega
    rw [hzero, pow_zero, mul_one, ← zpow_natCast, Int.toNat_of_nonneg (by omega), zpow_neg, div_inv_eq_mul]

/-- **Reading as a double depends on the sign and the value alone.** -/
theorem toBinary64_eq_of_absValue {d d' : Decimal} (hsign : d.negative = d'.negative)
    (hvalue : d.absValue = d'.absValue) : d.toBinary64 = d'.toBinary64 := by
  have hden : (d.denominator : ℚ) ≠ 0 := by
    exact_mod_cast Nat.pos_iff_ne_zero.mp d.denominator_pos
  have hden' : (d'.denominator : ℚ) ≠ 0 := by
    exact_mod_cast Nat.pos_iff_ne_zero.mp d'.denominator_pos
  have hcross : d.numerator * d'.denominator = d'.numerator * d.denominator := by
    rw [absValue_eq_div, absValue_eq_div, div_eq_div_iff hden hden'] at hvalue
    exact_mod_cast hvalue
  rw [toBinary64, toBinary64, hsign]
  apply Binary64.ofRatio_eq_of_mul_eq _ d.denominator_pos d'.denominator_pos
  calc d.numerator * Binary64.unit * d'.denominator
      = d.numerator * d'.denominator * Binary64.unit := Nat.mul_right_comm _ _ _
    _ = d'.numerator * d.denominator * Binary64.unit := by rw [hcross]
    _ = d'.numerator * Binary64.unit * d.denominator := Nat.mul_right_comm _ _ _

end Decimal

end Concentric
