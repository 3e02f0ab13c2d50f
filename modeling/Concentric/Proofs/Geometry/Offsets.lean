import Mathlib.Tactic.NormNum
import Concentric.Geometry.Offsets
import Concentric.Proofs.Binary64.Error

/-!
# How exact the centres of segments are

The length of a segment has a relative error, which grows with the number of segments before the centre but never beyond
that of the whole arc; the product, the half and the sum each add half a gap below 2^7. Altogether a centre is off by
less than 10^-13 (`segmentCenter_near`). Up to 2^40 segments this is far less than half a segment, so that the centres
stay in order and inside the arc.
-/

namespace Concentric

open Binary64

/-- **The centre of a segment** as a percentage, in values. -/
def exactCenter (count number : Nat) : ℚ := 100 * (2 * number + 1) / (2 * count)

/-- How far a centre can be off: one part in 2^53 of the arc, and three times half a gap below 2^7. -/
def centerError : ℚ := (100 + 3 * 64) / 2 ^ 53

/-- The number of segments up to which centres are apart. -/
def segmentBound : Nat := 2 ^ 40

variable {count number : Nat}

theorem getElem?_segmentCenters (h : number < count) :
    (segmentCenters count)[number]? = some (segmentCenter (segmentLength (.ofNat count)) number) := by
  rw [segmentCenters, List.getElem?_map, List.getElem?_range h, Option.map_some]

/-- **The length of a segment** is off by one part in 2^53. -/
theorem segmentLength_near (hsome : 0 < count) (hmany : count ≤ segmentBound) :
    Within (segmentLength (.ofNat count)) (100 / count) (100 / count / 2 ^ 53) := by
  have hhundred : 100 ≤ 1 <<< 53 := by decide
  have hbits : count ≤ 1 <<< 53 := Nat.le_trans hmany (by decide)
  have hpositive : 0 < count * unit := Nat.mul_pos hsome unit_pos
  have hcount : (1 : ℚ) ≤ count := by exact_mod_cast hsome
  have hvalue : ((100 * unit * unit : Nat) : ℚ) / (count * unit : Nat) / unit = 100 / count := by
    have hunit := unit_cast_ne_zero
    have hne : (count : ℚ) ≠ 0 := by linarith
    push_cast
    field_simp
  have hbelow : ((100 * unit * unit : Nat) : ℚ) / (count * unit : Nat) / unit < 2 ^ 7 := by
    rw [hvalue, div_lt_iff₀ (by linarith)]
    linarith
  -- Even the shortest segment is a normal number.
  have hnormal : 2 ^ 52 ≤ 100 * unit * unit / (count * unit) := by
    rw [Nat.mul_div_mul_right _ _ unit_pos, Nat.le_div_iff_mul_le hsome]
    have hunit : 2 ^ 52 * segmentBound ≤ unit := by decide +kernel
    calc 2 ^ 52 * count ≤ 2 ^ 52 * segmentBound := Nat.mul_le_mul_left _ hmany
      _ ≤ unit := hunit
      _ ≤ 100 * unit := Nat.le_mul_of_pos_left unit (by decide)
  have hresult := within_ofRatio_relative hpositive (by decide : 7 < 1024) hbelow hnormal
  rw [hvalue] at hresult
  rw [segmentLength, ofNat_eq_finite hhundred, ofNat_eq_finite hbits,
    div_eq_ofRatio (Nat.pos_iff_ne_zero.mp hpositive)]
  exact hresult

/-- Half a segment and those before it, with the error of their length. -/
theorem abs_centerOf_sub_le {length : ℚ} (hnumber : number < count)
    (hlength : |length - 100 / count| ≤ 100 / count / 2 ^ 53) :
    |(number * length + length / 2) - exactCenter count number| ≤ 100 / 2 ^ 53 := by
  have hcount : (0 : ℚ) < count := by exact_mod_cast Nat.lt_of_le_of_lt (Nat.zero_le number) hnumber
  have hnumber' : (number : ℚ) + 1 ≤ count := by exact_mod_cast hnumber
  have hnonneg : (0 : ℚ) ≤ number := Nat.cast_nonneg number
  have hfactored : (number * length + length / 2) - exactCenter count number =
      ((number : ℚ) + 1 / 2) * (length - 100 / count) := by
    rw [exactCenter]
    field_simp
  rw [hfactored, abs_mul, abs_of_nonneg (by linarith)]
  calc ((number : ℚ) + 1 / 2) * |length - 100 / count| ≤ count * (100 / count / 2 ^ 53) :=
        mul_le_mul (by linarith) hlength (abs_nonneg _) (le_of_lt hcount)
    _ = 100 / 2 ^ 53 := by field_simp

theorem exactCenter_lt (hnumber : number < count) : exactCenter count number < 100 := by
  have hcount : (0 : ℚ) < count := by exact_mod_cast Nat.lt_of_le_of_lt (Nat.zero_le number) hnumber
  have hnumber' : (number : ℚ) + 1 ≤ count := by exact_mod_cast hnumber
  rw [exactCenter, div_lt_iff₀ (by linarith)]
  linarith

/-- **The centre of a segment** is off by `centerError` at most. -/
theorem segmentCenter_near (hnumber : number < count) (hmany : count ≤ segmentBound) :
    Within (segmentCenter (segmentLength (.ofNat count)) number) (exactCenter count number) centerError := by
  have hsome : 0 < count := Nat.lt_of_le_of_lt (Nat.zero_le number) hnumber
  have hbits : number ≤ 1 <<< 53 := Nat.le_trans (Nat.le_of_lt hnumber) (Nat.le_trans hmany (by decide))
  have hcenter := exactCenter_lt hnumber
  obtain ⟨length, hlength, hsegment, hlengthError⟩ := segmentLength_near hsome hmany
  have hexact := abs_centerOf_sub_le hnumber hlengthError
  have hnonneg := magnitude_nonneg length
  have hbefore : 0 ≤ number * magnitude length := mul_nonneg (Nat.cast_nonneg number) hnonneg
  -- All results on the way are below 2^7.
  have hbelow : number * magnitude length + magnitude length / 2 < 101 := by
    have hupper := (abs_le.mp hexact).2
    norm_num at hupper
    linarith
  have hproduct : Within (ofNat number * .finite false length hlength) (number * magnitude length)
      (2 ^ 7 / 2 ^ 54) := by
    rw [ofNat_eq_finite hbits, ← magnitude_mul_unit number]
    refine within_mul (by decide) ?_
    rw [magnitude_mul_unit]
    norm_num
    linarith
  have hhalf : Within (half (.finite false length hlength)) (magnitude length / 2) (2 ^ 7 / 2 ^ 54) := by
    refine within_half (by decide) ?_
    norm_num
    linarith
  obtain ⟨product, hproduct, hproduct_eq, hproductError⟩ := hproduct
  obtain ⟨middle, hmiddle, hmiddle_eq, hmiddleError⟩ := hhalf
  have herrors : |(magnitude product + magnitude middle) - (number * magnitude length + magnitude length / 2)| ≤
      2 ^ 7 / 2 ^ 54 + 2 ^ 7 / 2 ^ 54 := by
    rw [add_sub_add_comm]
    exact (abs_add_le _ _).trans (add_le_add hproductError hmiddleError)
  have hsumBelow : magnitude product + magnitude middle < 2 ^ 7 := by
    have hupper := (abs_le.mp herrors).2
    norm_num at hupper ⊢
    linarith
  have hsum : Within (.finite false product hproduct + .finite false middle hmiddle)
      (magnitude product + magnitude middle) (2 ^ 7 / 2 ^ 54) := within_add (by decide) hsumBelow
  have htotal : (2 : ℚ) ^ 7 / 2 ^ 54 + (2 ^ 7 / 2 ^ 54 + 2 ^ 7 / 2 ^ 54) + 100 / 2 ^ 53 = centerError := by
    rw [centerError]
    norm_num
  rw [segmentCenter, hsegment, hproduct_eq, hmiddle_eq, ← htotal]
  exact (hsum.trans herrors).trans hexact

/-! ## Order -/

/-- Different centres are a segment apart at least. -/
theorem exactCenter_add_le_of_lt (hsome : 0 < count) {other : Nat} (h : number < other) :
    exactCenter count number + 100 / count ≤ exactCenter count other := by
  have hcount : (0 : ℚ) < count := by exact_mod_cast hsome
  have h' : (number : ℚ) + 1 ≤ other := by exact_mod_cast h
  have hjoined : exactCenter count number + 100 / count = 100 * (2 * number + 3) / (2 * count) := by
    rw [exactCenter]
    field_simp
    ring
  rw [hjoined, exactCenter]
  exact div_le_div_of_nonneg_right (by linarith) (by linarith)

/-- Behind every centre half a segment is left. -/
theorem exactCenter_add_le (hnumber : number < count) : exactCenter count number + 50 / count ≤ 100 := by
  have hcount : (0 : ℚ) < count := by exact_mod_cast Nat.lt_of_le_of_lt (Nat.zero_le number) hnumber
  have hnumber' : (number : ℚ) + 1 ≤ count := by exact_mod_cast hnumber
  have hjoined : exactCenter count number + 50 / count = 100 * (number + 1) / count := by
    rw [exactCenter]
    field_simp
    ring
  rw [hjoined, div_le_iff₀ hcount]
  linarith

/-- Before every centre there is half a segment. -/
theorem le_exactCenter (count number : Nat) : 50 / count ≤ exactCenter count number := by
  have hnonneg : (0 : ℚ) ≤ number := Nat.cast_nonneg number
  have hhalf : (50 : ℚ) / count = 100 * 1 / (2 * count) := by
    rw [mul_one, ← div_div]
    norm_num
  rw [hhalf, exactCenter]
  exact div_le_div_of_nonneg_right (by linarith) (by positivity)

/-- **Errors are less than half of half a segment.** -/
theorem two_mul_centerError_lt (hsome : 0 < count) (hmany : count ≤ segmentBound) :
    2 * centerError < 50 / count := by
  have hcount : (0 : ℚ) < count := by exact_mod_cast hsome
  have hmany' : (count : ℚ) ≤ 2 ^ 40 := by exact_mod_cast hmany
  rw [lt_div_iff₀ hcount]
  calc 2 * centerError * count ≤ 2 * centerError * 2 ^ 40 :=
        mul_le_mul_of_nonneg_left hmany' (by rw [centerError]; norm_num)
    _ < 50 := by
      rw [centerError]
      norm_num

/-- **Centres lie inside the arc.** -/
theorem segmentCenter_inside (hnumber : number < count) (hmany : count ≤ segmentBound) :
    ∃ quanta representable,
      segmentCenter (segmentLength (.ofNat count)) number = .finite false quanta representable ∧
        |magnitude quanta - exactCenter count number| ≤ centerError ∧ quanta ≠ 0 ∧ magnitude quanta < 100 := by
  have hsome : 0 < count := Nat.lt_of_le_of_lt (Nat.zero_le number) hnumber
  have hpositive : 0 < centerError := by
    rw [centerError]
    norm_num
  have hsmall := two_mul_centerError_lt hsome hmany
  have hfirst := le_exactCenter count number
  have hlast := exactCenter_add_le hnumber
  obtain ⟨quanta, representable, hcenter, herror⟩ := segmentCenter_near hnumber hmany
  obtain ⟨hlow, hhigh⟩ := abs_le.mp herror
  refine ⟨quanta, representable, hcenter, herror, ?_, by linarith⟩
  rintro rfl
  rw [magnitude, Nat.cast_zero, zero_div] at hlow
  linarith

end Concentric
