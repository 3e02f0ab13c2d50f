import Mathlib.Tactic.Ring
import Concentric.Binary64.Basic

/-!
# The end of the range

The finite magnitudes end one gap below the ceiling, and a quotient halfway between the greatest of them and
the ceiling is a tie that the ceiling wins, because it is the even neighbour. So rounding reaches the ceiling
from `overflowQuanta` on (`roundToGrid_lt_ceiling_iff`), and whole numbers leave the range at
`overflowBound`, which is 2^1024 - 2^970 (`ofInt?_eq_none_iff`).
-/

namespace Concentric

/-- **Below an odd number.** A tie between an odd number and the next one goes to the next one. -/
theorem roundQuotient_le_iff_of_odd {num den n : Nat} (hpositive : 0 < den) (hodd : n % 2 = 1) :
    roundQuotient num den ≤ n ↔ 2 * num < (2 * n + 1) * den := by
  obtain ⟨hlow, hhigh⟩ := roundQuotient_near num hpositive
  constructor
  · intro hle
    apply Nat.lt_of_not_le
    intro hnot
    -- The quotient is at least halfway above `n`, and its rounding is not above `n`: a tie.
    have hmul : roundQuotient num den * den ≤ n * den := Nat.mul_le_mul_right den hle
    have htie : 2 * num = (2 * n + 1) * den := by
      rw [Nat.add_mul, Nat.mul_assoc] at hnot ⊢
      omega
    have hdecomposed : den * (num / den) + num % den = num := Nat.div_add_mod num den
    have hsmall : num % den < den := Nat.mod_lt num hpositive
    have hdiv : num / den = n := by
      apply Nat.div_eq_of_lt_le
      · rw [Nat.add_mul, Nat.mul_assoc] at htie
        omega
      · rw [Nat.add_mul, Nat.mul_assoc] at htie
        rw [Nat.succ_mul]
        omega
    have hmod : 2 * (num % den) = den := by
      rw [hdiv, Nat.mul_comm] at hdecomposed
      rw [Nat.add_mul, Nat.mul_assoc] at htie
      omega
    have heven := roundQuotient_even_of_tie hmod
    rcases roundQuotient_eq_or num den with hdown | hup
    · omega
    · omega
  · intro hlt
    apply Nat.le_of_not_lt
    intro hnot
    have hmul : (n + 1) * den ≤ roundQuotient num den * den :=
      Nat.mul_le_mul_right den hnot
    rw [Nat.add_mul] at hmul
    rw [Nat.add_mul, Nat.mul_assoc] at hlt
    omega

namespace Binary64

/-! ## Gaps -/

/-- In the normal range a magnitude has 53 bits above its gap. -/
theorem two_pow_mul_spacing {n : Nat} (h : 52 ≤ n.log2) : 2 ^ 52 * spacing n = 2 ^ n.log2 := by
  rw [spacing, Nat.one_shiftLeft, ← Nat.pow_add, Nat.add_sub_cancel' h]

/-- Below a power of two the gaps have at most their size for the last 53 bits. -/
theorem spacing_le_of_log2_lt {n e : Nat} (h : n.log2 < 53 + e) : spacing n ≤ 2 ^ e := by
  rw [spacing, Nat.one_shiftLeft]
  exact Nat.pow_le_pow_right (by decide) (by omega)

/-! ## Rounding to the ceiling -/

/-- Half the gap below the ceiling is two to this power, in quanta. -/
def halfGapExponent : Nat := 2044

/-- Half the gap between the ceiling and the greatest finite magnitude. -/
def halfGap : Nat := 1 <<< halfGapExponent

/-- **Where the rounding reaches the ceiling,** in quanta: half a gap below it. -/
def overflowQuanta : Nat := ceiling - halfGap

theorem halfGap_pos : 0 < halfGap := one_shiftLeft_pos _

theorem halfGap_eq : halfGap = 2 ^ halfGapExponent := Nat.one_shiftLeft _

/-- The ceiling has 54 bits above half a gap. -/
theorem ceiling_eq : ceiling = 2 ^ 54 * halfGap := by
  have hexponent : ceilingExponent = 54 + halfGapExponent := rfl
  rw [ceiling, hexponent, halfGap_eq, Nat.one_shiftLeft, Nat.pow_add]

theorem overflowQuanta_eq : overflowQuanta = (2 ^ 54 - 1) * halfGap := by
  rw [overflowQuanta, ceiling_eq, Nat.sub_mul, Nat.one_mul]

/-- Below the last power of two the rounding stays below the ceiling. -/
theorem roundToGrid_le_of_log2_lt {num den : Nat} (h : (num / den).log2 < 53 + halfGapExponent) :
    roundToGrid num den ≤ 2 ^ 53 * halfGap := by
  have hgap : spacing (num / den) ≤ halfGap := by
    rw [halfGap_eq]
    exact spacing_le_of_log2_lt h
  have hbits := roundQuotient_spacing_le num den
  rw [Nat.one_shiftLeft] at hbits
  exact Nat.mul_le_mul hbits hgap

/-- Rounding does not leave the power of two in which the quotient lies. -/
theorem two_pow_le_roundToGrid {num den e : Nat} (hpositive : 0 < den) (h : 2 ^ e ≤ num / den)
    (he : 52 ≤ e) : 2 ^ e ≤ roundToGrid num den := by
  have hne : num / den ≠ 0 := Nat.pos_iff_ne_zero.mp (Nat.lt_of_lt_of_le (Nat.two_pow_pos e) h)
  have hlog : e ≤ (num / den).log2 := (Nat.le_log2 hne).mpr h
  have hstep : 2 ^ 52 * spacing (num / den) = 2 ^ (num / den).log2 :=
    two_pow_mul_spacing (Nat.le_trans he hlog)
  have hquotient : 2 ^ 52 ≤ roundQuotient num (den * spacing (num / den)) := by
    apply le_roundQuotient (Nat.mul_pos hpositive (spacing_pos _))
    calc 2 ^ 52 * (den * spacing (num / den)) = den * 2 ^ (num / den).log2 := by
          rw [Nat.mul_left_comm, hstep]
      _ ≤ den * (num / den) := Nat.mul_le_mul_left den (Nat.log2_self_le hne)
      _ ≤ num := Nat.mul_div_le num den
  calc 2 ^ e ≤ 2 ^ (num / den).log2 := Nat.pow_le_pow_right (by omega) hlog
    _ = 2 ^ 52 * spacing (num / den) := hstep.symm
    _ ≤ roundToGrid num den := Nat.mul_le_mul_right _ hquotient

/-- Within the last power of two the grid has whole gaps, and the ceiling is the next point after 2^53 - 1 of
them. -/
theorem roundToGrid_lt_ceiling_iff_of_log2_eq {num den : Nat} (hpositive : 0 < den)
    (h : (num / den).log2 = 53 + halfGapExponent) :
    roundToGrid num den < ceiling ↔ num < overflowQuanta * den := by
  have hwhole : 0 < 2 * halfGap := Nat.mul_pos Nat.two_pos halfGap_pos
  have hodd : (2 ^ 53 - 1) % 2 = 1 := rfl
  have hgap : spacing (num / den) = 2 * halfGap := by
    have hexponent : 53 + halfGapExponent - 52 = 1 + halfGapExponent := rfl
    rw [spacing, h, hexponent, halfGap_eq, Nat.one_shiftLeft, Nat.pow_add]
  have hceiling : ceiling = 2 ^ 53 * (2 * halfGap) := by
    rw [ceiling_eq]
    ring
  have hbits : 2 * (2 ^ 53 - 1) + 1 = 2 ^ 54 - 1 := rfl
  have hscale : (2 * (2 ^ 53 - 1) + 1) * (den * (2 * halfGap)) =
      2 * ((2 ^ 54 - 1) * halfGap * den) := by
    rw [hbits]
    ring
  calc roundToGrid num den < ceiling
      ↔ roundQuotient num (den * (2 * halfGap)) < 2 ^ 53 := by
        rw [roundToGrid, hgap, hceiling, Nat.mul_lt_mul_right hwhole]
    _ ↔ roundQuotient num (den * (2 * halfGap)) ≤ 2 ^ 53 - 1 := Nat.lt_iff_le_pred (Nat.two_pow_pos 53)
    _ ↔ 2 * num < (2 * (2 ^ 53 - 1) + 1) * (den * (2 * halfGap)) :=
        roundQuotient_le_iff_of_odd (Nat.mul_pos hpositive hwhole) hodd
    _ ↔ num < overflowQuanta * den := by
        rw [hscale, overflowQuanta_eq, Nat.mul_lt_mul_left Nat.two_pos]

/-- **The rounding stays below the ceiling exactly for quotients below `overflowQuanta`.** -/
theorem roundToGrid_lt_ceiling_iff {num den : Nat} (hpositive : 0 < den) :
    roundToGrid num den < ceiling ↔ num < overflowQuanta * den := by
  have hhalf := halfGap_pos
  -- The quotient lies below, in, or above the last power of two.
  rcases Nat.lt_trichotomy (num / den).log2 (53 + halfGapExponent) with hbelow | hlast | habove
  · have hrounded := roundToGrid_le_of_log2_lt hbelow
    have hquotient : num / den + 1 ≤ 2 ^ 53 * halfGap := by
      rw [halfGap_eq, ← Nat.pow_add]
      exact Nat.le_trans Nat.lt_log2_self (Nat.pow_le_pow_right (by omega) hbelow)
    have hinside : num < overflowQuanta * den := by
      calc num < (num / den + 1) * den := by
            rw [Nat.mul_comm]
            exact Nat.lt_mul_div_succ num hpositive
        _ ≤ overflowQuanta * den := by
            apply Nat.mul_le_mul_right
            rw [overflowQuanta_eq]
            omega
    refine iff_of_true ?_ hinside
    rw [ceiling_eq]
    omega
  · exact roundToGrid_lt_ceiling_iff_of_log2_eq hpositive hlast
  · have hne : num / den ≠ 0 := by
      intro hzero
      rw [hzero, Nat.log2_zero] at habove
      omega
    have hpower : ceiling ≤ num / den := by
      have hexponent : 54 + halfGapExponent ≤ (num / den).log2 := by omega
      rw [ceiling_eq, halfGap_eq, ← Nat.pow_add]
      exact (Nat.le_log2 hne).mp hexponent
    have hceiling : ceiling ≤ roundToGrid num den := by
      have hceiling_eq : ceiling = 2 ^ (54 + halfGapExponent) := by
        rw [ceiling_eq, halfGap_eq, ← Nat.pow_add]
      have hexponent : 52 ≤ 54 + halfGapExponent := by omega
      rw [hceiling_eq] at hpower ⊢
      exact two_pow_le_roundToGrid hpositive hpower hexponent
    have houtside : overflowQuanta * den ≤ num := by
      calc overflowQuanta * den ≤ ceiling * den := Nat.mul_le_mul_right den (Nat.sub_le _ _)
        _ ≤ num / den * den := Nat.mul_le_mul_right den hpower
        _ ≤ num := Nat.div_mul_le_self num den
    exact iff_of_false (Nat.not_lt.mpr hceiling) (Nat.not_lt.mpr houtside)

/-! ## Whole numbers -/

/-- **The least magnitude of a whole number that is out of range:** 2^1024 - 2^970. -/
def overflowBound : Nat := 1 <<< 1024 - 1 <<< 970

theorem overflowBound_mul_unit : overflowBound * unit = overflowQuanta := by
  have hceiling : ceilingExponent = 1024 + unitExponent := rfl
  have hgap : halfGapExponent = 970 + unitExponent := rfl
  rw [overflowBound, overflowQuanta, ceiling, halfGap, unit, hceiling, hgap, Nat.sub_mul]
  simp only [Nat.one_shiftLeft, Nat.pow_add]

theorem bounded?_ofRatio_eq_none_iff (negative : Bool) {num den : Nat} (hpositive : 0 < den) :
    (ofRatio negative num den).bounded? = none ↔ overflowQuanta * den ≤ num := by
  rw [← Nat.not_lt, ← roundToGrid_lt_ceiling_iff hpositive, ofRatio]
  split
  · next hfinite => exact iff_of_false (Option.some_ne_none _) (fun h => h hfinite)
  · next hinfinite => exact iff_of_true rfl hinfinite

/-- **A whole number has a nearest double unless its magnitude reaches the bound.** -/
theorem ofInt?_eq_none_iff (z : Int) : ofInt? z = none ↔ overflowBound ≤ z.natAbs := by
  rw [ofInt?, bounded?_ofRatio_eq_none_iff _ (by omega), Nat.mul_one, ← overflowBound_mul_unit]
  exact Nat.mul_le_mul_right_iff unit_pos

/-- **Half a whole number has a nearest double unless its magnitude reaches twice the bound.** -/
theorem halfOfInt?_eq_none_iff (z : Int) : halfOfInt? z = none ↔ 2 * overflowBound ≤ z.natAbs := by
  have htwice : overflowQuanta * 2 = 2 * overflowBound * unit := by
    rw [← overflowBound_mul_unit, Nat.mul_right_comm, Nat.mul_comm overflowBound]
  rw [halfOfInt?, bounded?_ofRatio_eq_none_iff _ Nat.two_pos, htwice]
  exact Nat.mul_le_mul_right_iff unit_pos

-- One less is still rounded to the greatest double.
example : (ofInt? (overflowBound - 1)).isSome = true ∧ ofInt? overflowBound = none := by decide +kernel

end Binary64

end Concentric
