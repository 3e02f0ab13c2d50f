import Concentric.Rounding

/-!
# The grid of double-precision magnitudes

Magnitudes are counted in **quanta** of 2^-1074, the least positive magnitude. On that scale the
representable magnitudes are naturals: those of at most 53 significant bits below `ceiling`. The gap
between neighbours near `n` is `spacing n`, so a magnitude is representable when it is a multiple of
its own spacing. Rounding an exact quotient is one whole-number rounding on the grid that belongs to
its integral part; `spacing_dvd_roundToGrid` says that the result lies on its own grid again, also
when the rounding carries into the next power of two. Powers of two are written as shifts.
-/

namespace Concentric.Binary64

/-- The number of quanta in one is two to this power. -/
def unitExponent : Nat := 1074

/-- The range ends at two to this power, in quanta: 2^1024 in ones. -/
def ceilingExponent : Nat := 2098

/-- The number one in quanta. -/
def unit : Nat := 1 <<< unitExponent

/-- The least power of two beyond every finite magnitude, in quanta. -/
def ceiling : Nat := 1 <<< ceilingExponent

/-- The gap between neighbouring representable magnitudes at `n` quanta. -/
def spacing (n : Nat) : Nat := 1 <<< (n.log2 - 52)

/-- A magnitude is representable when it is below the ceiling and on its grid. -/
def Representable (n : Nat) : Prop := n < ceiling ∧ spacing n ∣ n

instance (n : Nat) : Decidable (Representable n) :=
  inferInstanceAs (Decidable (_ ∧ _))

theorem one_shiftLeft_pos (e : Nat) : 0 < 1 <<< e := by
  rw [Nat.one_shiftLeft]
  exact Nat.two_pow_pos e

theorem unit_pos : 0 < unit := one_shiftLeft_pos unitExponent

theorem spacing_pos (n : Nat) : 0 < spacing n := one_shiftLeft_pos _

/-- **Rounding to the grid.** The quotient `num / den`, in quanta, becomes the nearest multiple of
the spacing that belongs to its integral part. -/
def roundToGrid (num den : Nat) : Nat :=
  roundQuotient num (den * spacing (num / den)) * spacing (num / den)

/-! ## The result lies on its own grid -/

theorem log2_shiftLeft {k : Nat} (e : Nat) (hnonzero : k ≠ 0) : (k <<< e).log2 = k.log2 + e := by
  rw [Nat.shiftLeft_eq]
  have hproduct : k * 2 ^ e ≠ 0 := Nat.mul_ne_zero hnonzero (Nat.pos_iff_ne_zero.mp (Nat.two_pow_pos e))
  apply Nat.le_antisymm
  · apply Nat.le_of_lt_succ
    rw [Nat.log2_lt hproduct, Nat.succ_eq_add_one, Nat.add_right_comm, Nat.pow_add]
    exact Nat.mul_lt_mul_of_pos_right Nat.lt_log2_self (Nat.two_pow_pos e)
  · rw [Nat.le_log2 hproduct, Nat.pow_add]
    exact Nat.mul_le_mul_right _ (Nat.log2_self_le hnonzero)

/-- At most 2^53 steps of a power-of-two grid lead to a point of its own grid: either 53 bits
suffice, or the point is a power of two. -/
theorem spacing_dvd_shiftLeft {k : Nat} (e : Nat) (hbits : k ≤ 1 <<< 53) :
    spacing (k <<< e) ∣ k <<< e := by
  by_cases hzero : k = 0
  · simp [hzero]
  · unfold spacing
    rw [log2_shiftLeft e hzero, Nat.one_shiftLeft, Nat.shiftLeft_eq]
    rw [Nat.one_shiftLeft] at hbits
    rcases Nat.lt_or_eq_of_le hbits with hfewer | htop
    · have hexponent : k.log2 < 53 := (Nat.log2_lt hzero).mpr hfewer
      exact Nat.dvd_mul_left_of_dvd (Nat.pow_dvd_pow 2 (by omega)) k
    · rw [htop, Nat.log2_two_pow, ← Nat.pow_add]
      exact Nat.pow_dvd_pow 2 (by omega)

/-- The multiple chosen by the rounding has at most 53 bits, or is 2^53. -/
theorem roundQuotient_spacing_le (num den : Nat) :
    roundQuotient num (den * spacing (num / den)) ≤ 1 <<< 53 := by
  rw [Nat.one_shiftLeft]
  rcases Nat.eq_zero_or_pos den with hzero | hpositive
  · subst hzero
    rcases roundQuotient_eq_or num (0 * spacing (num / 0)) with hdown | hup
    · rw [hdown]; simp
    · rw [hup]; simp
  · apply roundQuotient_le (Nat.mul_pos hpositive (spacing_pos _))
    have hintegral : num < (num / den + 1) * den := by
      rw [Nat.mul_comm]
      exact Nat.lt_mul_div_succ num hpositive
    have hbits : num / den + 1 ≤ 2 ^ 53 * spacing (num / den) := by
      unfold spacing
      rw [Nat.one_shiftLeft, ← Nat.pow_add]
      exact Nat.le_trans Nat.lt_log2_self (Nat.pow_le_pow_right (by decide) (by omega))
    calc num ≤ (num / den + 1) * den := Nat.le_of_lt hintegral
      _ ≤ 2 ^ 53 * spacing (num / den) * den := Nat.mul_le_mul_right den hbits
      _ = 2 ^ 53 * (den * spacing (num / den)) := by
        rw [Nat.mul_assoc, Nat.mul_comm (spacing _) den]

theorem spacing_dvd_roundToGrid (num den : Nat) :
    spacing (roundToGrid num den) ∣ roundToGrid num den := by
  have hdvd := spacing_dvd_shiftLeft ((num / den).log2 - 52) (roundQuotient_spacing_le num den)
  rwa [Nat.shiftLeft_eq, ← Nat.one_shiftLeft] at hdvd

/-- A point of the grid is not moved. -/
theorem roundToGrid_of_representable {n : Nat} (hpoint : Representable n) : roundToGrid n 1 = n := by
  obtain ⟨k, hmultiple⟩ := hpoint.2
  unfold roundToGrid
  rw [Nat.div_one, Nat.one_mul]
  have hwritten : n = k * spacing n := by rw [Nat.mul_comm]; exact hmultiple
  have hfixed : roundQuotient n (spacing n) = k := by
    conv => lhs; rw [hwritten]
    conv => lhs; arg 2; rw [← hwritten]
    exact roundQuotient_mul k (spacing_pos n)
  rw [hfixed, ← hwritten]

/-! ## Whole numbers on the grid -/

/-- **A whole number after its rounding** to the grid. The points of the grid beyond 2^53 are whole
numbers too, so nothing is cut off. -/
def roundNat (n : Nat) : Nat := roundToGrid (n * unit) 1 / unit

/-- Whole numbers up to 2^53 are points of the grid. -/
theorem representable_mul_unit {n : Nat} (hbits : n ≤ 1 <<< 53) : Representable (n * unit) := by
  have hshifted : n * unit = n <<< unitExponent := by
    rw [unit, Nat.one_shiftLeft, Nat.shiftLeft_eq]
  refine ⟨?_, by rw [hshifted]; exact spacing_dvd_shiftLeft unitExponent hbits⟩
  rw [Nat.one_shiftLeft] at hbits
  calc n * unit ≤ 2 ^ 53 * unit := Nat.mul_le_mul_right unit hbits
    _ = 2 ^ (53 + unitExponent) := by rw [unit, Nat.one_shiftLeft, Nat.pow_add]
    _ < 2 ^ ceilingExponent := Nat.pow_lt_pow_right (by decide) (by decide)
    _ = ceiling := by rw [ceiling, Nat.one_shiftLeft]

/-- Whole numbers up to 2^53 are not moved by the rounding. -/
theorem roundNat_of_le {n : Nat} (hbits : n ≤ 1 <<< 53) : roundNat n = n := by
  unfold roundNat
  rw [roundToGrid_of_representable (representable_mul_unit hbits)]
  exact Nat.mul_div_cancel n unit_pos

end Concentric.Binary64
