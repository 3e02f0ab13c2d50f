import Mathlib.Data.Nat.Cast.Order.Field
import Concentric.Proofs.Binary64.Overflow
import Concentric.Proofs.Binary64.Value

/-!
# Errors of rounded results

Rounding to the grid moves a quotient by half a gap at most (`abs_roundToGrid_sub_le`), and the gaps below a power of two
are known. So a result without a sign whose exact value is below 2^k is finite and 2^(k - 54) away from it at most
(`within_ofRatio`), and a result in the normal range is off by one part in 2^53 (`within_ofRatio_relative`). `Within`
carries such a bound through sums, products and halves, where only exact values of rounded operands occur.
-/

namespace Concentric.Binary64

variable {num den k : Nat}

/-- **A finite number without a sign near a value.** -/
def Within (x : Binary64) (v error : ℚ) : Prop :=
  ∃ quanta representable, x = .finite false quanta representable ∧ |magnitude quanta - v| ≤ error

/-- Two bounds for a longer way. -/
theorem Within.trans {x : Binary64} {v w error more : ℚ} (h : Within x v error) (hvalues : |v - w| ≤ more) :
    Within x w (error + more) := by
  obtain ⟨quanta, representable, hx, herror⟩ := h
  refine ⟨quanta, representable, hx, ?_⟩
  calc |magnitude quanta - w| ≤ |magnitude quanta - v| + |v - w| := abs_sub_le _ _ _
    _ ≤ error + more := add_le_add herror hvalues

/-! ## Gaps -/

theorem spacing_le_of_lt {n e : Nat} (h : n < 2 ^ (53 + e)) : spacing n ≤ 2 ^ e := by
  apply spacing_le_of_log2_lt
  rcases Nat.eq_zero_or_pos n with rfl | hpos
  · simp
  · exact (Nat.log2_lt (Nat.pos_iff_ne_zero.mp hpos)).mpr h

/-- In the normal range a gap is one part in 2^52 at most. -/
theorem two_pow_mul_spacing_le {n : Nat} (h : 2 ^ 52 ≤ n) : 2 ^ 52 * spacing n ≤ n := by
  have hne : n ≠ 0 := by omega
  rw [two_pow_mul_spacing ((Nat.le_log2 hne).mpr h)]
  exact Nat.log2_self_le hne

/-- **Half a gap.** -/
theorem abs_roundToGrid_sub_le (num : Nat) (hpositive : 0 < den) :
    |(roundToGrid num den : ℚ) - num / den| ≤ spacing (num / den) / 2 := by
  have hgap : (0 : ℚ) < spacing (num / den) := by exact_mod_cast spacing_pos _
  have hnear := abs_roundQuotient_sub_le num (Nat.mul_pos hpositive (spacing_pos (num / den)))
  have hscaled : (roundToGrid num den : ℚ) - num / den =
      (roundQuotient num (den * spacing (num / den)) - num / (den * spacing (num / den) : Nat)) *
        spacing (num / den) := by
    have hden : (den : ℚ) ≠ 0 := by exact_mod_cast Nat.pos_iff_ne_zero.mp hpositive
    rw [roundToGrid]
    push_cast
    field_simp
  rw [hscaled, abs_mul, abs_of_pos hgap]
  calc _ ≤ 1 / 2 * (spacing (num / den) : ℚ) := mul_le_mul_of_nonneg_right hnear (le_of_lt hgap)
    _ = spacing (num / den) / 2 := by ring

/-! ## Results -/

/-- The gap right below the number one is two to this power, in quanta. -/
def unitGapExponent : Nat := 1021

/-- One has 53 bits above this gap. -/
theorem unit_eq_two_pow_mul : unit = 2 ^ 53 * 2 ^ unitGapExponent := by
  have hexponent : unitExponent = 53 + unitGapExponent := rfl
  rw [unit, Nat.one_shiftLeft, hexponent, Nat.pow_add]

theorem two_pow_mul_unit (k : Nat) : 2 ^ k * unit = 2 ^ (53 + (unitGapExponent + k)) := by
  rw [unit_eq_two_pow_mul, ← Nat.pow_add, ← Nat.pow_add]
  congr 1
  omega

/-- Quanta as values. -/
theorem magnitude_sub (quanta num den : Nat) :
    magnitude quanta - num / den / unit = ((quanta : ℚ) - num / den) / unit := by
  rw [magnitude, sub_div]

/-- Below a power of two in range a result is finite and off by half a gap below it. -/
theorem exists_ofRatio_eq_finite (hpositive : 0 < den) (h : num < 2 ^ k * unit * den) (hk : k < 1024) :
    ∃ quanta representable, ofRatio false num den = .finite false quanta representable ∧
      |(quanta : ℚ) - num / den| ≤ spacing (num / den) / 2 ∧ spacing (num / den) ≤ 2 ^ (unitGapExponent + k) := by
  have hrange : roundToGrid num den < ceiling := by
    rw [roundToGrid_lt_ceiling_iff hpositive]
    refine Nat.lt_of_lt_of_le h (Nat.mul_le_mul_right den ?_)
    have hexponent : 53 + (unitGapExponent + k) ≤ 53 + halfGapExponent := by
      have hgap : unitGapExponent + 1023 = halfGapExponent := rfl
      omega
    calc 2 ^ k * unit = 2 ^ (53 + (unitGapExponent + k)) := two_pow_mul_unit k
      _ ≤ 2 ^ (53 + halfGapExponent) := Nat.pow_le_pow_right (by decide) hexponent
      _ = 2 ^ 53 * halfGap := by rw [Nat.pow_add, halfGap_eq]
      _ ≤ overflowQuanta := by
        rw [overflowQuanta_eq]
        exact Nat.mul_le_mul_right _ (by decide)
  have hquotient : num / den < 2 ^ (53 + (unitGapExponent + k)) := by
    rw [← two_pow_mul_unit, Nat.div_lt_iff_lt_mul hpositive]
    exact h
  refine ⟨roundToGrid num den, ⟨hrange, spacing_dvd_roundToGrid num den⟩, ?_, abs_roundToGrid_sub_le num hpositive,
    spacing_le_of_lt hquotient⟩
  rw [ofRatio, dif_pos hrange]

/-- The exact value of a result, compared in quanta. -/
theorem lt_mul_of_div_lt (hpositive : 0 < den) (h : (num : ℚ) / den / unit < 2 ^ k) : num < 2 ^ k * unit * den := by
  have hden : (0 : ℚ) < den := by exact_mod_cast hpositive
  rw [div_lt_iff₀ unit_cast_pos, div_lt_iff₀ hden] at h
  exact_mod_cast h

/-- **A result below 2^k** is off by 2^(k - 54) at most. -/
theorem within_ofRatio (hpositive : 0 < den) (hk : k < 1024) (h : (num : ℚ) / den / unit < 2 ^ k) :
    Within (ofRatio false num den) (num / den / unit) (2 ^ k / 2 ^ 54) := by
  obtain ⟨quanta, representable, hfinite, herror, hgap⟩ :=
    exists_ofRatio_eq_finite hpositive (lt_mul_of_div_lt hpositive h) hk
  have hgap' : (spacing (num / den) : ℚ) ≤ 2 ^ unitGapExponent * 2 ^ k := by
    rw [Nat.pow_add] at hgap
    exact_mod_cast hgap
  have hunit : (unit : ℚ) = 2 ^ 53 * 2 ^ unitGapExponent := by
    rw [unit_eq_two_pow_mul]
    push_cast
    rfl
  refine ⟨quanta, representable, hfinite, ?_⟩
  rw [magnitude_sub, abs_div, abs_of_pos unit_cast_pos, div_le_iff₀ unit_cast_pos]
  calc |(quanta : ℚ) - num / den| ≤ spacing (num / den) / 2 := herror
    _ ≤ 2 ^ unitGapExponent * 2 ^ k / 2 := by linarith
    _ = 2 ^ k / 2 ^ 54 * unit := by
      rw [hunit]
      ring

/-- **A result in the normal range** is off by one part in 2^53 at most. -/
theorem within_ofRatio_relative (hpositive : 0 < den) (hk : k < 1024) (h : (num : ℚ) / den / unit < 2 ^ k)
    (hnormal : 2 ^ 52 ≤ num / den) :
    Within (ofRatio false num den) (num / den / unit) (num / den / unit / 2 ^ 53) := by
  obtain ⟨quanta, representable, hfinite, herror, -⟩ :=
    exists_ofRatio_eq_finite hpositive (lt_mul_of_div_lt hpositive h) hk
  have hgap : (2 : ℚ) ^ 52 * spacing (num / den) ≤ num / den := by
    calc (2 : ℚ) ^ 52 * spacing (num / den) ≤ (num / den : Nat) := by exact_mod_cast two_pow_mul_spacing_le hnormal
      _ ≤ num / den := Nat.cast_div_le
  refine ⟨quanta, representable, hfinite, ?_⟩
  rw [magnitude_sub, abs_div, abs_of_pos unit_cast_pos, div_right_comm]
  apply div_le_div_of_nonneg_right _ (le_of_lt unit_cast_pos)
  linarith

/-! ## Operations -/

section Operations

variable {m n : Nat} {hm : Representable m} {hn : Representable n}

/-- **A sum below 2^k.** -/
theorem within_add (hk : k < 1024) (h : magnitude m + magnitude n < 2 ^ k) :
    Within (.finite false m hm + .finite false n hn) (magnitude m + magnitude n) (2 ^ k / 2 ^ 54) := by
  have hsum : Binary64.finite false m hm + .finite false n hn = ofRatio false (m + n) 1 := by
    show (if signed false m + signed false n = 0 then zero (false && false) else
      ofRatio (signed false m + signed false n < 0) (signed false m + signed false n).natAbs 1) = _
    have hsigned : signed false m + signed false n = ((m + n : Nat) : Int) := by
      rw [Nat.cast_add]
      rfl
    rw [hsigned, Int.natAbs_natCast, decide_eq_false (by omega : ¬ ((m + n : Nat) : Int) < 0)]
    split
    · next hzero =>
      have hnone : m + n = 0 := by exact_mod_cast hzero
      rw [hnone]
      rfl
    · rfl
  have hvalue : magnitude m + magnitude n = (m + n : Nat) / (1 : Nat) / unit := by
    rw [magnitude, magnitude]
    push_cast
    ring
  rw [hvalue] at h ⊢
  rw [hsum]
  exact within_ofRatio Nat.one_pos hk h

/-- **A product below 2^k.** -/
theorem within_mul (hk : k < 1024) (h : magnitude m * magnitude n < 2 ^ k) :
    Within (.finite false m hm * .finite false n hn) (magnitude m * magnitude n) (2 ^ k / 2 ^ 54) := by
  have hvalue : magnitude m * magnitude n = (m * n : Nat) / unit / unit := by
    rw [magnitude, magnitude]
    push_cast
    field_simp
  rw [hvalue] at h ⊢
  exact within_ofRatio unit_pos hk h

/-- A quotient is rounded once. -/
theorem div_eq_ofRatio (hne : n ≠ 0) :
    Binary64.finite false m hm / .finite false n hn = ofRatio false (m * unit) n := by
  show Binary64.div (.finite false m hm) (.finite false n hn) = _
  rw [Binary64.div, if_neg hne, Bool.xor_self]

end Operations

theorem ofNat_eq_finite {n : Nat} (hbits : n ≤ 1 <<< 53) :
    ofNat n = .finite false (n * unit) (representable_mul_unit hbits) :=
  ofRatio_of_representable false (representable_mul_unit hbits)

/-- A whole number has its own value. -/
theorem magnitude_mul_unit (n : Nat) : magnitude (n * unit) = n := by
  rw [magnitude, Nat.cast_mul, mul_div_assoc, div_self unit_cast_ne_zero, mul_one]

/-- **A half below 2^k.** -/
theorem within_half {m : Nat} {hm : Representable m} (hk : k < 1024) (h : magnitude m / 2 < 2 ^ k) :
    Within (half (.finite false m hm)) (magnitude m / 2) (2 ^ k / 2 ^ 54) := by
  have hpositive : 0 < 2 * unit := Nat.mul_pos Nat.two_pos unit_pos
  have hhalf : half (.finite false m hm) = ofRatio false (m * unit) (2 * unit) := by
    have hbits : 2 ≤ 1 <<< 53 := by decide
    rw [half, ofNat_eq_finite hbits, div_eq_ofRatio (Nat.pos_iff_ne_zero.mp hpositive)]
  have hvalue : magnitude m / 2 = (m * unit : Nat) / (2 * unit : Nat) / unit := by
    have hunit := unit_cast_ne_zero
    rw [magnitude]
    push_cast
    field_simp
  rw [hvalue] at h ⊢
  rw [hhalf]
  exact within_ofRatio hpositive hk h

end Concentric.Binary64
