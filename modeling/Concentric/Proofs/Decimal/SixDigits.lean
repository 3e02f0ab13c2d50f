import Mathlib.Data.Nat.Cast.Order.Field
import Concentric.Decimal.Text
import Concentric.Proofs.Binary64.Value
import Concentric.Proofs.Decimal.Reading

/-!
# Six significant digits

`leadOf` is the place of the first digit: a magnitude lies between the power of ten at it and the next one
(`zpow_leadOf_le`, `lt_zpow_leadOf`). Six digits from there on are half a sixth place away from the magnitude at most
(`abs_sixDigits_sub_le`), and they stay between the same two powers of ten, the upper one included. That is why the order
of magnitudes is kept (`sixDigits_mono`): in one decade by the rounding, and in two by the power of ten between them. The
text of six digits is read as their value, with an exponent or without (`readsAs_generalChars`).
-/

namespace Concentric

open Decimal

namespace Decimal

/-! ## The first digit -/

/-- The number of digits of a natural. -/
theorem digitChars_length_bounds {n : Nat} (hpositive : 0 < n) :
    10 ^ ((digitChars n).length - 1) ≤ n ∧ n < 10 ^ (digitChars n).length := by
  have hlength : 0 < (digitChars n).length := List.length_pos_iff.mpr (digitChars_ne_nil n)
  refine ⟨?_, (Nat.length_toDigits_le_iff (by decide) hlength).mp (Nat.le_refl _)⟩
  rcases Nat.eq_zero_or_pos ((digitChars n).length - 1) with hone | hmore
  · rw [hone]
    exact hpositive
  · apply Nat.le_of_not_lt
    intro hless
    have hshort := (Nat.length_toDigits_le_iff (by decide) hmore).mpr hless
    rw [← digitChars] at hshort
    omega

/-- The first digit of the integral part stands at the same place as that of the number. -/
theorem place_bounds {x : ℚ} {n k : Nat} (hpositive : 0 < n) (hlow : (n : ℚ) ≤ x * 10 ^ k)
    (hhigh : x * 10 ^ k < n + 1) :
    (10 : ℚ) ^ ((digitChars n).length - (k + 1) : ℤ) ≤ x ∧ x < 10 ^ ((digitChars n).length - k : ℤ) := by
  have hten : (10 : ℚ) ≠ 0 := by norm_num
  have hscale : (0 : ℚ) < 10 ^ k := by positivity
  have hlength : 0 < (digitChars n).length := List.length_pos_iff.mpr (digitChars_ne_nil n)
  obtain ⟨hleast, hless⟩ := digitChars_length_bounds hpositive
  constructor
  · have hexponent : ((digitChars n).length - (k + 1) : ℤ) = ((digitChars n).length - 1 : Nat) - k := by omega
    rw [hexponent, zpow_sub₀ hten, zpow_natCast, zpow_natCast, div_le_iff₀ hscale]
    calc (10 : ℚ) ^ ((digitChars n).length - 1) ≤ n := by exact_mod_cast hleast
      _ ≤ x * 10 ^ k := hlow
  · rw [zpow_sub₀ hten, zpow_natCast, zpow_natCast, lt_div_iff₀ hscale]
    calc x * 10 ^ k < n + 1 := hhigh
      _ ≤ 10 ^ (digitChars n).length := by exact_mod_cast hless

end Decimal

namespace Binary64

variable {quanta quanta' : Nat}

/-- A magnitude in its decade, found by way of as many places as bring out an integral part. -/
theorem decade_bounds {k : Nat} (hunit : unit ≤ Nat.pow 10 k) (hne : quanta ≠ 0) :
    (10 : ℚ) ^ ((digitChars (quanta * Nat.pow 10 k / unit)).length - (k + 1) : ℤ) ≤ magnitude quanta ∧
      magnitude quanta < 10 ^ ((digitChars (quanta * Nat.pow 10 k / unit)).length - k : ℤ) := by
  have hpow : ((Nat.pow 10 k : Nat) : ℚ) = 10 ^ k := Nat.cast_pow 10 k
  have hscaled : magnitude quanta * 10 ^ k = ((quanta * Nat.pow 10 k : Nat) : ℚ) / unit := by
    rw [Nat.cast_mul, hpow, magnitude, div_mul_eq_mul_div]
  apply place_bounds
  · exact Nat.div_pos (Nat.le_trans hunit (Nat.le_mul_of_pos_left _ (Nat.pos_of_ne_zero hne))) unit_pos
  · rw [hscaled]
    exact Nat.cast_div_le
  · have hnext : quanta * Nat.pow 10 k < (quanta * Nat.pow 10 k / unit + 1) * unit := by
      rw [Nat.mul_comm _ unit]
      exact Nat.lt_mul_div_succ _ unit_pos
    rw [hscaled, div_lt_iff₀ unit_cast_pos]
    exact_mod_cast hnext

/-- **The magnitude lies in the decade of its first digit.** -/
theorem leadOf_bounds (hne : quanta ≠ 0) :
    (10 : ℚ) ^ leadOf quanta ≤ magnitude quanta ∧ magnitude quanta < 10 ^ (leadOf quanta + 1) := by
  have hunit : unit ≤ Nat.pow 10 324 := by decide +kernel
  have hbounds := decade_bounds hunit hne
  have hlead : leadOf quanta = (digitChars (quanta * Nat.pow 10 324 / unit)).length - ((324 : Nat) + 1) := rfl
  have hnext : leadOf quanta + 1 = (digitChars (quanta * Nat.pow 10 324 / unit)).length - (324 : Nat) := by omega
  rwa [← hlead, ← hnext] at hbounds

/-- Greater magnitudes do not begin at a lower place. -/
theorem leadOf_mono (hne : quanta ≠ 0) (h : quanta ≤ quanta') : leadOf quanta ≤ leadOf quanta' := by
  have hne' : quanta' ≠ 0 := by omega
  have hpowers := ((leadOf_bounds hne).1.trans (magnitude_mono h)).trans_lt (leadOf_bounds hne').2
  have hless := (zpow_lt_zpow_iff_right₀ (by norm_num : (1 : ℚ) < 10)).mp hpowers
  omega

/-! ## Six digits -/

/-- **The value of six digits.** -/
def sixDigits (quanta : Nat) : ℚ := nearestMultiple quanta (sixthPlace quanta) * 10 ^ sixthPlace quanta

/-- The magnitude counted in a power of ten. -/
theorem scaled_eq (quanta : Nat) (exponent : Int) :
    (scaledNumerator quanta exponent : ℚ) / scaledDenominator exponent = magnitude quanta / 10 ^ exponent := by
  have hpow (k : Nat) : ((Nat.pow 10 k : Nat) : ℚ) = 10 ^ k := Nat.cast_pow 10 k
  rw [scaledNumerator, scaledDenominator, Nat.cast_mul, Nat.cast_mul, hpow, hpow, magnitude]
  -- One of the two powers is the one of the exponent, the other one is 1.
  rcases Int.le_total 0 exponent with hpos | hneg
  · have hzero : (-exponent).toNat = 0 := by omega
    rw [hzero, pow_zero, mul_one, ← zpow_natCast, Int.toNat_of_nonneg hpos, div_div]
  · have hzero : exponent.toNat = 0 := by omega
    rw [hzero, pow_zero, mul_one, ← zpow_natCast, Int.toNat_of_nonneg (by omega), zpow_neg, ← div_eq_mul_inv,
      div_right_comm]

theorem scaledDenominator_pos (exponent : Int) : 0 < scaledDenominator exponent :=
  Nat.mul_pos unit_pos (Nat.pow_pos (by decide))

theorem place_pos (place : Int) : (0 : ℚ) < 10 ^ place := zpow_pos (by norm_num) place

/-- **Half a sixth place.** -/
theorem abs_sixDigits_sub_le (quanta : Nat) :
    |sixDigits quanta - magnitude quanta| ≤ 10 ^ sixthPlace quanta / 2 := by
  have hplace := place_pos (sixthPlace quanta)
  have hnear := abs_roundQuotient_sub_le (scaledNumerator quanta (sixthPlace quanta))
    (scaledDenominator_pos (sixthPlace quanta))
  rw [scaled_eq, ← nearestMultiple] at hnear
  have hfactored : sixDigits quanta - magnitude quanta =
      (nearestMultiple quanta (sixthPlace quanta) - magnitude quanta / 10 ^ sixthPlace quanta) *
        10 ^ sixthPlace quanta := by
    rw [sixDigits]
    field_simp
  rw [hfactored, abs_mul, abs_of_pos hplace]
  calc _ ≤ 1 / 2 * (10 : ℚ) ^ sixthPlace quanta := mul_le_mul_of_nonneg_right hnear (le_of_lt hplace)
    _ = 10 ^ sixthPlace quanta / 2 := by ring

/-- The decade of a magnitude, counted in sixth places. -/
theorem decade_eq (quanta : Nat) :
    (10 : ℚ) ^ leadOf quanta = (10 ^ 5 : Nat) * 10 ^ sixthPlace quanta ∧
      (10 : ℚ) ^ (leadOf quanta + 1) = (10 ^ 6 : Nat) * 10 ^ sixthPlace quanta := by
  have hten : (10 : ℚ) ≠ 0 := by norm_num
  have hlead : leadOf quanta = (5 : Nat) + sixthPlace quanta := by
    rw [sixthPlace]
    omega
  have hnext : leadOf quanta + 1 = (6 : Nat) + sixthPlace quanta := by omega
  rw [hnext, hlead, zpow_add₀ hten, zpow_add₀ hten, zpow_natCast, zpow_natCast]
  push_cast
  exact ⟨rfl, rfl⟩

/-- The digits are six, or 10^6. -/
theorem nearestMultiple_bounds (hne : quanta ≠ 0) :
    10 ^ 5 ≤ nearestMultiple quanta (sixthPlace quanta) ∧ nearestMultiple quanta (sixthPlace quanta) ≤ 10 ^ 6 := by
  have hplace := place_pos (sixthPlace quanta)
  have hpositive := scaledDenominator_pos (sixthPlace quanta)
  have hdenominator : (0 : ℚ) < scaledDenominator (sixthPlace quanta) := by exact_mod_cast hpositive
  obtain ⟨hlow, hhigh⟩ := leadOf_bounds hne
  rw [(decade_eq quanta).1, ← le_div_iff₀ hplace, ← scaled_eq, le_div_iff₀ hdenominator] at hlow
  rw [(decade_eq quanta).2, ← div_lt_iff₀ hplace, ← scaled_eq, div_lt_iff₀ hdenominator] at hhigh
  exact ⟨le_roundQuotient hpositive (by exact_mod_cast hlow),
    roundQuotient_le hpositive (Nat.le_of_lt (by exact_mod_cast hhigh))⟩

/-- **Six digits stay in the decade** or are the power of ten at its end. -/
theorem sixDigits_bounds (hne : quanta ≠ 0) :
    (10 : ℚ) ^ leadOf quanta ≤ sixDigits quanta ∧ sixDigits quanta ≤ 10 ^ (leadOf quanta + 1) := by
  have hplace := le_of_lt (place_pos (sixthPlace quanta))
  obtain ⟨hlow, hhigh⟩ := nearestMultiple_bounds hne
  rw [(decade_eq quanta).1, (decade_eq quanta).2, sixDigits]
  exact ⟨mul_le_mul_of_nonneg_right (by exact_mod_cast hlow) hplace,
    mul_le_mul_of_nonneg_right (by exact_mod_cast hhigh) hplace⟩

theorem sixDigits_pos (hne : quanta ≠ 0) : 0 < sixDigits quanta :=
  lt_of_lt_of_le (place_pos _) (sixDigits_bounds hne).1

/-- **The order is kept.** -/
theorem sixDigits_mono (hne : quanta ≠ 0) (h : quanta ≤ quanta') : sixDigits quanta ≤ sixDigits quanta' := by
  have hne' : quanta' ≠ 0 := by omega
  rcases (leadOf_mono hne h).lt_or_eq with hless | hsame
  · calc sixDigits quanta ≤ 10 ^ (leadOf quanta + 1) := (sixDigits_bounds hne).2
      _ ≤ 10 ^ leadOf quanta' := zpow_le_zpow_right₀ (by norm_num) (by omega)
      _ ≤ sixDigits quanta' := (sixDigits_bounds hne').1
  · have hplaces : sixthPlace quanta = sixthPlace quanta' := by rw [sixthPlace, sixthPlace, hsame]
    have hquotients : (scaledNumerator quanta (sixthPlace quanta) : ℚ) / scaledDenominator (sixthPlace quanta) ≤
        scaledNumerator quanta' (sixthPlace quanta) / scaledDenominator (sixthPlace quanta) := by
      rw [scaled_eq, scaled_eq]
      exact div_le_div_of_nonneg_right (magnitude_mono h) (le_of_lt (place_pos _))
    have hdigits := roundQuotient_mono (scaledDenominator_pos (sixthPlace quanta))
      (scaledDenominator_pos (sixthPlace quanta)) hquotients
    rw [sixDigits, sixDigits, ← hplaces]
    exact mul_le_mul_of_nonneg_right (by exact_mod_cast hdigits) (le_of_lt (place_pos _))

/-! ## Below a power of ten -/

variable {bound : Int}

theorem leadOf_lt (hne : quanta ≠ 0) (h : magnitude quanta < 10 ^ bound) : leadOf quanta < bound :=
  (zpow_lt_zpow_iff_right₀ (by norm_num : (1 : ℚ) < 10)).mp ((leadOf_bounds hne).1.trans_lt h)

/-- A power of ten is not passed. -/
theorem sixDigits_le (hne : quanta ≠ 0) (h : magnitude quanta < 10 ^ bound) : sixDigits quanta ≤ 10 ^ bound :=
  (sixDigits_bounds hne).2.trans (zpow_le_zpow_right₀ (by norm_num) (leadOf_lt hne h))

/-- Below a power of ten the error is half of the sixth place under it. -/
theorem abs_sixDigits_sub_le_of_lt (hne : quanta ≠ 0) (h : magnitude quanta < 10 ^ bound) :
    |sixDigits quanta - magnitude quanta| ≤ 10 ^ (bound - 6) / 2 := by
  have hlead := leadOf_lt hne h
  have hplace : (10 : ℚ) ^ sixthPlace quanta ≤ 10 ^ (bound - 6) := by
    apply zpow_le_zpow_right₀ (by norm_num)
    rw [sixthPlace]
    omega
  have herror := abs_sixDigits_sub_le quanta
  linarith

/-! ## The text -/

/-- **The text of six digits is read as their value.** -/
theorem readsAs_generalChars (negative : Bool) (representable : Representable quanta) :
    ReadsAs (generalChars (.finite negative quanta representable)) negative (sixDigits quanta) := by
  have hread := readsAs_magnitude .general negative (nearestMultiple quanta (sixthPlace quanta)) (sixthPlace quanta)
  rw [generalChars]
  by_cases hzero : quanta = 0
  · -- Zero has no digits, and none are chosen.
    have hnone : nearestMultiple quanta (sixthPlace quanta) = 0 := by
      have hquotient := roundQuotient_mul 0 (scaledDenominator_pos (sixthPlace quanta))
      have hnumerator : scaledNumerator quanta (sixthPlace quanta) = 0 * scaledDenominator (sixthPlace quanta) := by
        rw [scaledNumerator, Nat.zero_mul, Nat.mul_eq_zero]
        exact .inl hzero
      rw [nearestMultiple, hnumerator, hquotient]
    rw [hnone] at hread
    rw [sixDigits, hnone]
    simp only [if_pos hzero]
    exact hread
  · simp only [if_neg hzero]
    exact hread

end Binary64

end Concentric
