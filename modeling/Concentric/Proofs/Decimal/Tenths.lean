import Concentric.Decimal.Text
import Concentric.Proofs.Binary64.Value
import Concentric.Proofs.Decimal.Reading

/-!
# One decimal place

A double written with one decimal place stands for the nearest multiple of a tenth, ties to even
(`abs_value_tenths_sub_le`, `even_of_tie_tenths`). Half an integer is such a multiple already and loses nothing
(`tenths_halves`). The text is always positional (`onePlace_tenthsChars`).
-/

namespace Concentric

open Decimal

namespace Decimal

/-- The value of a number of tenths. -/
theorem value_tenths (negative : Bool) (digits : Nat) :
    value ⟨negative, digits, -1⟩ = withSign negative (digits / 10) := by
  rw [value, absValue, zpow_neg_one, ← div_eq_mul_inv]

/-- **Positional notation with one decimal place:** a sign, whole digits, a point, one digit. -/
def OnePlace (text : List Char) (negative : Bool) : Prop :=
  ∃ whole place, text = signChars negative ++ (whole ++ ['.', place]) ∧ whole ≠ [] ∧ Digits whole ∧
    place.isDigit = true

end Decimal

namespace Binary64

variable {quanta : Nat}

theorem tenths_div_ten_sub (quanta : Nat) :
    ((tenths quanta : ℚ) / 10 - magnitude quanta) =
      ((roundQuotient (quanta * 10) unit : ℚ) - (quanta * 10 : Nat) / unit) / 10 := by
  rw [tenths, magnitude]
  push_cast
  ring

/-- **The nearest multiple of a tenth.** -/
theorem abs_tenths_sub_le (quanta : Nat) : |(tenths quanta : ℚ) / 10 - magnitude quanta| ≤ 1 / 20 := by
  have hnear := abs_roundQuotient_sub_le (quanta * 10) unit_pos
  have hten : (0 : ℚ) < 10 := by norm_num
  rw [tenths_div_ten_sub, abs_div, abs_of_pos hten]
  linarith

/-- **Of two nearest ones the even one.** -/
theorem even_tenths_of_tie (h : |(tenths quanta : ℚ) / 10 - magnitude quanta| = 1 / 20) :
    tenths quanta % 2 = 0 := by
  have hten : (0 : ℚ) < 10 := by norm_num
  rw [tenths_div_ten_sub, abs_div, abs_of_pos hten] at h
  exact roundQuotient_even_of_abs_sub_eq unit_pos (by linarith)

theorem abs_value_tenths_sub_le (negative : Bool) (quanta : Nat) :
    |value ⟨negative, tenths quanta, -1⟩ - withSign negative (magnitude quanta)| ≤ 1 / 20 := by
  rw [value_tenths, abs_withSign_sub]
  exact abs_tenths_sub_le quanta

theorem even_of_tie_tenths (negative : Bool)
    (h : |value ⟨negative, tenths quanta, -1⟩ - withSign negative (magnitude quanta)| = 1 / 20) :
    tenths quanta % 2 = 0 := by
  rw [value_tenths, abs_withSign_sub] at h
  exact even_tenths_of_tie h

/-- The text of a finite number has one decimal place, and the sign of the number, also if it is zero. -/
theorem onePlace_tenthsChars (negative : Bool) (quanta : Nat) (representable : Representable quanta) :
    OnePlace (tenthsChars (.finite negative quanta representable)) negative := by
  have hsmall : tenths quanta % 10 < 10 := Nat.mod_lt _ (by decide)
  have hplace : digitChars (tenths quanta % 10) = [Nat.digitChar (tenths quanta % 10)] := by
    rw [digitChars, Nat.toDigits_of_lt_base hsmall]
  refine ⟨digitChars (tenths quanta / 10), Nat.digitChar (tenths quanta % 10), ?_, digitChars_ne_nil _,
    digits_digitChars _, ?_⟩
  · rw [tenthsChars, hplace, List.append_assoc]
  · apply digits_digitChars (tenths quanta % 10)
    rw [hplace]
    exact List.mem_singleton_self _

/-! ## Halves of integers -/

/-- **Half an integer is a whole number of tenths.** -/
theorem tenths_halves (k : Nat) : tenths (k <<< halfExponent) = 5 * k := by
  have hquanta : k <<< halfExponent * 10 = 5 * k * unit := by
    rw [unit_eq_two_mul, Nat.one_shiftLeft, Nat.shiftLeft_eq]
    ring
  rw [tenths, hquanta, roundQuotient_mul _ unit_pos]

/-- The decimal that shows half an integer. -/
def ofHalves (z : Int) : Decimal := ⟨z < 0, 5 * z.natAbs, -1⟩

/-- **It is exact.** -/
theorem value_ofHalves (z : Int) : (ofHalves z).value = (z : ℚ) / 2 := by
  have htenths : ((5 * z.natAbs : Nat) : ℚ) / 10 = z.natAbs * (1 / 2) := by
    push_cast
    ring
  rw [ofHalves, value_tenths, htenths, withSign_natAbs]
  ring

end Binary64

end Concentric
