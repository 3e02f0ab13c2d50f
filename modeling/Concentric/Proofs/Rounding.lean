import Mathlib.Algebra.Order.Field.Basic
import Mathlib.Data.Rat.Cast.Order
import Mathlib.Tactic.FieldSimp
import Mathlib.Tactic.Linarith
import Mathlib.Tactic.Positivity
import Concentric.Rounding

/-!
# Rounding in rationals

The rounded quotient is within half a unit of the quotient as a rational, and even if it is exactly half a unit away.
These two facts determine it, and they make the rounding monotone (`roundQuotient_mono`): where two quotients are in
order and their roundings are not, both would be ties between the same neighbours.
-/

namespace Concentric

variable {num den num' den' : Nat}

/-- **Half a unit.** -/
theorem abs_roundQuotient_sub_le (num : Nat) (hpositive : 0 < den) :
    |(roundQuotient num den : ℚ) - num / den| ≤ 1 / 2 := by
  have hden : (0 : ℚ) < den := by exact_mod_cast hpositive
  obtain ⟨hlow, hhigh⟩ := roundQuotient_near num hpositive
  have hlow' : 2 * ((roundQuotient num den : ℚ) * den) ≤ 2 * num + den := by exact_mod_cast hlow
  have hhigh' : 2 * (num : ℚ) ≤ 2 * (roundQuotient num den * den) + den := by exact_mod_cast hhigh
  have hscaled : ((roundQuotient num den : ℚ) - num / den) * den = roundQuotient num den * den - num := by
    field_simp
  rw [abs_le]
  constructor
  · apply le_of_mul_le_mul_right _ hden
    rw [hscaled]
    linarith
  · apply le_of_mul_le_mul_right _ hden
    rw [hscaled]
    linarith

/-- **A tie is even.** -/
theorem roundQuotient_even_of_abs_sub_eq (hpositive : 0 < den)
    (h : |(roundQuotient num den : ℚ) - num / den| = 1 / 2) : roundQuotient num den % 2 = 0 := by
  have hden : (den : ℚ) ≠ 0 := by exact_mod_cast Nat.pos_iff_ne_zero.mp hpositive
  have hwhole : (den : ℚ) * (num / den : Nat) + (num % den : Nat) = num := by
    exact_mod_cast Nat.div_add_mod num den
  have hquotient : (num : ℚ) / den = (num / den : Nat) + (num % den : Nat) / den := by
    rw [← hwhole]
    field_simp
  -- The remainder is half the divisor, whichever neighbour was taken.
  have htie : 2 * ((num % den : Nat) : ℚ) = den := by
    have hremainder : (((num % den : Nat) : ℚ) / den) = 1 / 2 := by
      have hnonneg : (0 : ℚ) ≤ ((num % den : Nat) : ℚ) / den := by positivity
      have hless : ((num % den : Nat) : ℚ) / den < 1 := by
        rw [div_lt_one (by exact_mod_cast hpositive)]
        exact_mod_cast Nat.mod_lt num hpositive
      rcases roundQuotient_eq_or num den with hdown | hup
      · rw [hdown, hquotient, abs_of_nonpos (by linarith)] at h
        linarith
      · rw [hup, hquotient, Nat.cast_add, Nat.cast_one, abs_of_nonneg (by linarith)] at h
        linarith
    field_simp at hremainder
    linarith
  exact roundQuotient_even_of_tie (by exact_mod_cast htie)

/-- **The rounding is monotone.** -/
theorem roundQuotient_mono (hpositive : 0 < den) (hpositive' : 0 < den')
    (h : (num : ℚ) / den ≤ num' / den') : roundQuotient num den ≤ roundQuotient num' den' := by
  obtain ⟨-, hupper⟩ := abs_le.mp (abs_roundQuotient_sub_le num hpositive)
  obtain ⟨hlower, -⟩ := abs_le.mp (abs_roundQuotient_sub_le num' hpositive')
  apply Nat.le_of_not_lt
  intro hcrossed
  have hnext : (roundQuotient num' den' : ℚ) + 1 ≤ roundQuotient num den := by exact_mod_cast hcrossed
  -- Both are as far from their quotients as can be, and neighbours are not both even.
  have htie : |(roundQuotient num den : ℚ) - num / den| = 1 / 2 := by
    rw [abs_of_nonneg (by linarith)]
    linarith
  have htie' : |(roundQuotient num' den' : ℚ) - num' / den'| = 1 / 2 := by
    rw [abs_of_nonpos (by linarith)]
    linarith
  have hsame : (roundQuotient num den : ℚ) = roundQuotient num' den' + 1 := by linarith
  have hneighbours : roundQuotient num den = roundQuotient num' den' + 1 := by exact_mod_cast hsame
  have heven := roundQuotient_even_of_abs_sub_eq hpositive htie
  have heven' := roundQuotient_even_of_abs_sub_eq hpositive' htie'
  omega

end Concentric
