import Concentric.Proofs.Geometry.Offsets

/-!
# Accuracy of the centres of segments

Up to 2^40 segments the computed centres are finite doubles in the order of the segments and strictly inside the arc,
each within 10^-13 of the exact centre; a centre and the one mirrored at the middle of the arc add up to the whole arc
within twice that (`segmentCenters_accurate`). All of it follows from the one error bound for a centre,
`segmentCenter_near`.
-/

namespace Concentric

open Binary64

variable {count i j : Nat}

/-- **Positions that are accurate centres** of equal segments. -/
structure AccurateCenters (count : Nat) (values : List ℚ) : Prop where
  length_eq : values.length = count
  near : ∀ (i : Nat) (h : i < values.length), |values[i] - 100 * (2 * i + 1) / (2 * count)| < 1 / 10 ^ 13
  inside : ∀ value ∈ values, 0 < value ∧ value < 100
  increasing : values.Pairwise (· < ·)
  mirrored : ∀ (i j : Nat) (hi : i < values.length) (hj : j < values.length), i + j + 1 = count →
    |values[i] + values[j] - 100| < 2 / 10 ^ 13

/-- The value of a computed centre. -/
def centerValue (count number : Nat) : ℚ :=
  (segmentCenter (segmentLength (.ofNat count)) number).value?.getD 0

/-- The values of all computed centres. -/
def centerValues (count : Nat) : List ℚ := (List.range count).map (centerValue count)

theorem length_centerValues (count : Nat) : (centerValues count).length = count := by
  rw [centerValues, List.length_map, List.length_range]

theorem getElem_centerValues (h : i < (centerValues count).length) : (centerValues count)[i] = centerValue count i := by
  simp only [centerValues, List.getElem_map, List.getElem_range]

/-- A computed centre is finite. -/
theorem value?_segmentCenter (hi : i < count) (hmany : count ≤ segmentBound) :
    (segmentCenter (segmentLength (.ofNat count)) i).value? = some (centerValue count i) := by
  obtain ⟨quanta, representable, hcenter, -⟩ := segmentCenter_inside hi hmany
  rw [centerValue, hcenter, value?, Option.getD_some]

/-- **A computed centre is close to the exact one, and inside the arc.** -/
theorem centerValue_bounds (hi : i < count) (hmany : count ≤ segmentBound) :
    |centerValue count i - exactCenter count i| ≤ centerError ∧ 0 < centerValue count i ∧
      centerValue count i < 100 := by
  obtain ⟨quanta, representable, hcenter, herror, hne, hbelow⟩ := segmentCenter_inside hi hmany
  have hvalue : centerValue count i = magnitude quanta := by
    rw [centerValue, hcenter, value?, Option.getD_some, withSign_false]
  have hpositive : 0 < magnitude quanta := div_pos (by exact_mod_cast Nat.pos_of_ne_zero hne) unit_cast_pos
  rw [hvalue]
  exact ⟨herror, hpositive, hbelow⟩

/-- **Computed centres keep the order of their segments,** because the error is less than a quarter of a segment. -/
theorem centerValue_lt (hij : i < j) (hj : j < count) (hmany : count ≤ segmentBound) :
    centerValue count i < centerValue count j := by
  have hsome : 0 < count := Nat.lt_of_le_of_lt (Nat.zero_le j) hj
  have hcount : (0 : ℚ) < count := by exact_mod_cast hsome
  have hupper := (abs_le.mp (centerValue_bounds (Nat.lt_trans hij hj) hmany).1).2
  have hlower := (abs_le.mp (centerValue_bounds hj hmany).1).1
  have hapart := exactCenter_add_le_of_lt hsome hij
  have hsmall := two_mul_centerError_lt hsome hmany
  have hsegment : (50 : ℚ) / count < 100 / count := div_lt_div_of_pos_right (by norm_num) hcount
  linarith

/-- The exact centres of mirrored segments add up to the whole arc. -/
theorem exactCenter_add_mirrored (h : i + j + 1 = count) : exactCenter count i + exactCenter count j = 100 := by
  have hsome : 0 < count := by omega
  have hcount : (0 : ℚ) < count := by exact_mod_cast hsome
  have hsum : (i : ℚ) + j + 1 = count := by exact_mod_cast h
  rw [exactCenter, exactCenter, ← add_div, ← mul_add, div_eq_iff (by linarith)]
  linarith

theorem abs_centerValue_add_sub_le (h : i + j + 1 = count) (hmany : count ≤ segmentBound) :
    |centerValue count i + centerValue count j - 100| ≤ centerError + centerError := by
  have hi : i < count := by omega
  have hj : j < count := by omega
  rw [← exactCenter_add_mirrored h, add_sub_add_comm]
  exact (abs_add_le _ _).trans (add_le_add (centerValue_bounds hi hmany).1 (centerValue_bounds hj hmany).1)

/-- **The computed centres are accurate.** -/
theorem accurateCenters_centerValues (hmany : count ≤ segmentBound) : AccurateCenters count (centerValues count) where
  length_eq := length_centerValues count
  near i h := by
    have herror : centerError < 1 / 10 ^ 13 := by
      rw [centerError]
      norm_num
    have hi : i < count := by rwa [length_centerValues] at h
    rw [getElem_centerValues]
    exact lt_of_le_of_lt (centerValue_bounds hi hmany).1 herror
  inside value hvalue := by
    obtain ⟨i, hi, rfl⟩ := List.mem_map.mp hvalue
    exact (centerValue_bounds (List.mem_range.mp hi) hmany).2
  increasing := by
    rw [List.pairwise_iff_getElem]
    intro i j hi hj hij
    rw [length_centerValues] at hj
    rw [getElem_centerValues, getElem_centerValues]
    exact centerValue_lt hij hj hmany
  mirrored i j hi hj h := by
    have herror : centerError + centerError < 2 / 10 ^ 13 := by
      rw [centerError]
      norm_num
    rw [getElem_centerValues, getElem_centerValues]
    exact lt_of_le_of_lt (abs_centerValue_add_sub_le h hmany) herror

/-- A computed centre is a product, a half and a sum of doubles. -/
theorem getElem_segmentCenters (h : i < (segmentCenters count).length) :
    (segmentCenters count)[i] = ofNat i * (ofNat 100 / ofNat count) + (ofNat 100 / ofNat count) / ofNat 2 := by
  rw [← segmentLength, ← half, ← segmentCenter]
  simp only [segmentCenters, List.getElem_map, List.getElem_range]

/-- **The centres of up to 2^40 segments are accurate.** They are listed without a failure, each is computed from the
length of a segment by a product, a half and a sum of doubles, and all of them are finite. -/
theorem segmentCenters_accurate (hmany : count ≤ segmentBound) :
    ∃ centers, segmentCentersOfInt count = .ok centers ∧
      (∀ (i : Nat) (h : i < centers.length), centers[i] =
        ofNat i * (ofNat 100 / ofNat count) + (ofNat 100 / ofNat count) / ofNat 2) ∧
      ∃ values, centers.map value? = values.map some ∧ AccurateCenters count values := by
  have hbits : count ≤ 1 <<< 53 := Nat.le_trans hmany (by decide)
  refine ⟨segmentCenters count, segmentCentersOfInt_natCast hbits, fun i h => getElem_segmentCenters h,
    centerValues count, ?_, accurateCenters_centerValues hmany⟩
  rw [segmentCenters, centerValues, List.map_map, List.map_map]
  apply List.map_congr_left
  intro i hi
  rw [Function.comp_apply, Function.comp_apply, value?_segmentCenter (List.mem_range.mp hi) hmany]

/-- A number of segments near the bound that is no power of two. -/
theorem segmentCenters_accurate_large :
    segmentBound - 87 ≤ segmentBound ∧ ∃ centers, segmentCentersOfInt (segmentBound - 87 : Nat) = .ok centers ∧
      ∃ values, centers.map value? = values.map some ∧ AccurateCenters (segmentBound - 87) values := by
  have hmany : segmentBound - 87 ≤ segmentBound := Nat.sub_le _ _
  obtain ⟨centers, hcenters, -, hvalues⟩ := segmentCenters_accurate hmany
  exact ⟨hmany, centers, hcenters, hvalues⟩

end Concentric
