import Mathlib.Tactic.NormNum
import Mathlib.Tactic.Ring
import Concentric.Proofs.Decimal.Value
import Concentric.Proofs.Rounding

/-!
# Values of doubles

A finite double stands for a rational number, its quanta as a fraction of one. Whole multiples of one power of two are
doubles as long as 53 bits suffice for them, and sums and differences among such multiples are exact (`steps_add`,
`steps_sub`); multiples of one and of one half are the cases that drawings are made of.
-/

namespace Concentric

/-- A magnitude with a sign. -/
def withSign (negative : Bool) (magnitude : ℚ) : ℚ := if negative then -magnitude else magnitude

theorem withSign_false (x : ℚ) : withSign false x = x := rfl

theorem abs_withSign_sub (negative : Bool) (x y : ℚ) : |withSign negative x - withSign negative y| = |x - y| := by
  cases negative with
  | false => rfl
  | true =>
    show |-x - -y| = |x - y|
    rw [neg_sub_neg, abs_sub_comm]

theorem withSign_natAbs (z : Int) (x : ℚ) : withSign (z < 0) (z.natAbs * x) = z * x := by
  have habs : ((z.natAbs : ℕ) : ℚ) = |(z : ℚ)| := by rw [← Int.cast_abs, Int.abs_eq_natAbs, Int.cast_natCast]
  rw [habs, withSign]
  by_cases hneg : z < 0
  · have hcast : (z : ℚ) < 0 := by exact_mod_cast hneg
    rw [if_pos (decide_eq_true hneg), abs_of_neg hcast]
    ring
  · have hcast : (0 : ℚ) ≤ z := by exact_mod_cast Int.not_lt.mp hneg
    rw [if_neg (by simpa using hneg), abs_of_nonneg hcast]

/-- **The value of a decimal.** -/
def Decimal.value (d : Decimal) : ℚ := withSign d.negative d.absValue

namespace Binary64

/-- A number of quanta as a fraction of one. -/
def magnitude (quanta : Nat) : ℚ := quanta / unit

/-- **The value of a finite number.** -/
def value? : Binary64 → Option ℚ
  | .finite negative quanta _ => some (withSign negative (magnitude quanta))
  | .infinite _ => none
  | .nan => none

theorem unit_cast_pos : (0 : ℚ) < unit := by exact_mod_cast unit_pos

theorem unit_cast_ne_zero : (unit : ℚ) ≠ 0 := ne_of_gt unit_cast_pos

theorem magnitude_nonneg (quanta : Nat) : 0 ≤ magnitude quanta :=
  div_nonneg (Nat.cast_nonneg _) (le_of_lt unit_cast_pos)

theorem magnitude_mono {quanta quanta' : Nat} (h : quanta ≤ quanta') : magnitude quanta ≤ magnitude quanta' :=
  div_le_div_of_nonneg_right (by exact_mod_cast h) (le_of_lt unit_cast_pos)

theorem lt_of_magnitude_lt {quanta quanta' : Nat} (h : magnitude quanta < magnitude quanta') : quanta < quanta' :=
  Nat.lt_of_not_le fun hle => absurd (magnitude_mono hle) (not_le_of_gt h)

/-! ## Multiples of a power of two -/

/-- **The multiple of 2^e quanta** by an integer. -/
def steps (e : Nat) (z : Int) : Binary64 := ofRatio (z < 0) (z.natAbs <<< e) 1

/-- With 53 bits every multiple is representable. -/
theorem representable_shiftLeft {k e : Nat} (hbits : k ≤ 1 <<< 53) (hrange : 53 + e < ceilingExponent) :
    Representable (k <<< e) := by
  refine ⟨?_, spacing_dvd_shiftLeft e hbits⟩
  rw [Nat.one_shiftLeft] at hbits
  calc k <<< e = k * 2 ^ e := Nat.shiftLeft_eq k e
    _ ≤ 2 ^ 53 * 2 ^ e := Nat.mul_le_mul_right (2 ^ e) hbits
    _ = 2 ^ (53 + e) := (Nat.pow_add 2 53 e).symm
    _ < 2 ^ ceilingExponent := Nat.pow_lt_pow_right (by decide) hrange
    _ = ceiling := by rw [ceiling, Nat.one_shiftLeft]

variable {e : Nat} {a b z : Int}

theorem steps_eq_finite (hbits : z.natAbs ≤ 1 <<< 53) (hrange : 53 + e < ceilingExponent) :
    steps e z = .finite (z < 0) (z.natAbs <<< e) (representable_shiftLeft hbits hrange) :=
  ofRatio_of_representable _ _

/-- **The value of a multiple.** -/
theorem value?_steps (hbits : z.natAbs ≤ 1 <<< 53) (hrange : 53 + e < ceilingExponent) :
    (steps e z).value? = some (z * magnitude (1 <<< e)) := by
  have hmagnitude : magnitude (z.natAbs <<< e) = z.natAbs * magnitude (1 <<< e) := by
    rw [magnitude, magnitude, Nat.shiftLeft_eq, Nat.one_shiftLeft, Nat.cast_mul]
    ring
  rw [steps_eq_finite hbits hrange, value?, hmagnitude, withSign_natAbs]

theorem steps_succ (e : Nat) (z : Int) : steps (e + 1) z = steps e (2 * z) := by
  have hsign : decide (z < 0) = decide (2 * z < 0) := decide_eq_decide.mpr (by omega)
  have hquanta : z.natAbs <<< (e + 1) = (2 * z).natAbs <<< e := by
    rw [Int.natAbs_mul, Nat.shiftLeft_eq, Nat.shiftLeft_eq, Nat.pow_succ]
    show z.natAbs * (2 ^ e * 2) = 2 * z.natAbs * 2 ^ e
    ring
  rw [steps, steps, hsign, hquanta]

/-! ## Exact sums -/

theorem signed_natAbs (e : Nat) (z : Int) : signed (z < 0) (z.natAbs <<< e) = z * 2 ^ e := by
  have hcast : ((z.natAbs <<< e : Nat) : Int) = z.natAbs * 2 ^ e := by
    rw [Nat.shiftLeft_eq]
    push_cast
    rfl
  rw [signed, hcast]
  by_cases hneg : z < 0
  · have habs : (z.natAbs : Int) = -z := by omega
    rw [if_pos (decide_eq_true hneg), habs]
    ring
  · have habs : (z.natAbs : Int) = z := by omega
    rw [if_neg (by simpa using hneg), habs]

/-- **A sum that is a multiple again.** A sum of zero must not come from two negative zeros. -/
theorem add_eq_steps {p q : Bool} {m n : Nat} {hm : Representable m} {hn : Representable n} {c : Int}
    (hsum : signed p m + signed q n = c * 2 ^ e) (hzero : c = 0 → (p && q) = false) :
    Binary64.add (.finite p m hm) (.finite q n hn) = steps e c := by
  have hpower : (0 : Int) < 2 ^ e := by positivity
  rw [add, hsum]
  by_cases hc : c = 0
  · subst hc
    rw [if_pos (Int.zero_mul _), hzero rfl, zero, steps, Int.natAbs_zero, Nat.zero_shiftLeft]
    rfl
  · have hne : c * 2 ^ e ≠ 0 := mul_ne_zero hc (ne_of_gt hpower)
    have hsign : decide (c * 2 ^ e < 0) = decide (c < 0) :=
      decide_eq_decide.mpr
        ⟨fun h => neg_of_mul_neg_left h (le_of_lt hpower), fun h => mul_neg_of_neg_of_pos h hpower⟩
    have hquanta : (c * 2 ^ e).natAbs = c.natAbs <<< e := by
      rw [Int.natAbs_mul, Nat.shiftLeft_eq, Int.natAbs_pow]
      rfl
    rw [if_neg hne, hsign, hquanta, steps]

/-- **Sums of multiples are exact.** -/
theorem steps_add (ha : a.natAbs ≤ 1 <<< 53) (hb : b.natAbs ≤ 1 <<< 53) (hrange : 53 + e < ceilingExponent) :
    steps e a + steps e b = steps e (a + b) := by
  rw [steps_eq_finite ha hrange, steps_eq_finite hb hrange]
  refine add_eq_steps ?_ ?_
  · rw [signed_natAbs, signed_natAbs]
    ring
  · intro hzero
    rw [Bool.and_eq_false_iff]
    by_cases hneg : a < 0
    · exact .inr (decide_eq_false (by omega))
    · exact .inl (decide_eq_false hneg)

theorem signed_not (negative : Bool) (quanta : Nat) : signed (!negative) quanta = -signed negative quanta := by
  cases negative with
  | false => rfl
  | true => exact (Int.neg_neg _).symm

/-- **Differences of multiples are exact,** and zero is never negative. -/
theorem steps_sub (ha : a.natAbs ≤ 1 <<< 53) (hb : b.natAbs ≤ 1 <<< 53) (hrange : 53 + e < ceilingExponent) :
    steps e a - steps e b = steps e (a - b) := by
  rw [steps_eq_finite ha hrange, steps_eq_finite hb hrange]
  show Binary64.add (.finite (a < 0) (a.natAbs <<< e) (representable_shiftLeft ha hrange))
    (.finite (!decide (b < 0)) (b.natAbs <<< e) (representable_shiftLeft hb hrange)) = steps e (a - b)
  refine add_eq_steps ?_ ?_
  · rw [signed_not, signed_natAbs, signed_natAbs]
    ring
  · intro hzero
    obtain rfl : a = b := by omega
    exact Bool.and_not_self _

/-! ## Whole numbers and halves -/

/-- The number of quanta in one half is two to this power. -/
def halfExponent : Nat := 1073

/-- **Half an integer** as a double. -/
def halves (z : Int) : Binary64 := steps halfExponent z

theorem unit_eq_two_mul : unit = 2 * 1 <<< halfExponent := by
  have hexponent : unitExponent = halfExponent + 1 := rfl
  rw [unit, hexponent, Nat.one_shiftLeft, Nat.one_shiftLeft, Nat.pow_succ, Nat.mul_comm]

theorem halfExponent_lt : 53 + halfExponent < ceilingExponent := by decide

theorem halves_eq_ofRatio (z : Int) : halves z = ofRatio (z < 0) (z.natAbs * unit) 2 := by
  apply ofRatio_eq_of_mul_eq _ Nat.one_pos Nat.two_pos
  rw [unit_eq_two_mul, Nat.shiftLeft_eq, Nat.one_shiftLeft]
  ring

theorem halves_two_mul (z : Int) : halves (2 * z) = ofRatio (z < 0) (z.natAbs * unit) 1 := by
  have hquanta : z.natAbs <<< unitExponent = z.natAbs * unit := by
    rw [unit, Nat.one_shiftLeft, Nat.shiftLeft_eq]
  rw [halves, ← steps_succ, ← hquanta]
  rfl

variable (hbits : z.natAbs ≤ 1 <<< 53)
include hbits

theorem value?_halves : (halves z).value? = some ((z : ℚ) / 2) := by
  have hhalf : magnitude (1 <<< halfExponent) = 1 / 2 := by
    have hpower : ((1 <<< halfExponent : Nat) : ℚ) ≠ 0 := by
      exact_mod_cast Nat.pos_iff_ne_zero.mp (one_shiftLeft_pos halfExponent)
    rw [magnitude, unit_eq_two_mul, Nat.cast_mul]
    field_simp
    norm_num
  rw [halves, value?_steps hbits halfExponent_lt, hhalf]
  congr 1
  ring

theorem bounded?_halves : (halves z).bounded? = some (halves z) := by
  rw [halves, steps_eq_finite hbits halfExponent_lt, bounded?]
  intro negative hsame
  exact Binary64.noConfusion hsame

omit hbits in
/-- **The half of an integer** is exact up to 2^53. -/
theorem halfOfInt?_eq (hbits : z.natAbs ≤ 1 <<< 53) : halfOfInt? z = some (halves z) := by
  rw [halfOfInt?, ← halves_eq_ofRatio, bounded?_halves hbits]

omit hbits in
/-- An integer is two halves of it. -/
theorem ofInt?_eq (hbits : (2 * z).natAbs ≤ 1 <<< 53) : ofInt? z = some (halves (2 * z)) := by
  rw [ofInt?, ← halves_two_mul, bounded?_halves hbits]

end Binary64

end Concentric
