import Concentric.Binary64.Grid

/-!
# Double-precision numbers

A number is finite, infinite or not a number. A finite one is a sign and a magnitude in quanta that
lies on the grid, so equal numbers are equal values and the two zeros stay apart. Every operation
computes its exact result as a fraction of quanta and rounds it once with `ofRatio`; a magnitude that
rounds to the ceiling becomes infinite.
-/

namespace Concentric

/-- **A double-precision number.** The magnitude of a finite one is counted in quanta of 2^-1074. -/
inductive Binary64 where
  | finite (negative : Bool) (quanta : Nat) (representable : Binary64.Representable quanta)
  | infinite (negative : Bool)
  | nan
deriving DecidableEq

namespace Binary64

/-- **The correctly rounded number** of magnitude `num / den` quanta and the given sign. -/
def ofRatio (negative : Bool) (num den : Nat) : Binary64 :=
  if hrange : roundToGrid num den < ceiling then
    .finite negative (roundToGrid num den) ⟨hrange, spacing_dvd_roundToGrid num den⟩
  else
    .infinite negative

/-- The zero of the given sign. -/
def zero (negative : Bool) : Binary64 := ofRatio negative 0 1

/-- A representable magnitude is not changed by the rounding. -/
theorem ofRatio_of_representable (negative : Bool) {n : Nat} (hpoint : Representable n) :
    ofRatio negative n 1 = .finite negative n hpoint := by
  have hfixed : roundToGrid n 1 = n := roundToGrid_of_representable hpoint
  unfold ofRatio
  rw [dif_pos (by rw [hfixed]; exact hpoint.1)]
  simp only [hfixed]

/-- The number nearest to a natural; one beyond the range is infinite. -/
def ofNat (n : Nat) : Binary64 := ofRatio false (n * unit) 1

/-- The number itself, unless it is infinite. -/
def bounded? : Binary64 → Option Binary64
  | .infinite _ => none
  | x => some x

/-- The number nearest to an integer, if it is in range. -/
def ofInt? (z : Int) : Option Binary64 := (ofRatio (z < 0) (z.natAbs * unit) 1).bounded?

/-- The number nearest to half an integer, if it is in range. -/
def halfOfInt? (z : Int) : Option Binary64 := (ofRatio (z < 0) (z.natAbs * unit) 2).bounded?

/-- Integers from zero to 2^53 are in range. -/
theorem ofInt?_natCast {n : Nat} (hbits : n ≤ 1 <<< 53) : ofInt? n = some (ofNat n) := by
  have hpoint := representable_mul_unit hbits
  have hpositive : decide ((n : Int) < 0) = false := decide_eq_false (by omega)
  unfold ofInt? ofNat
  rw [hpositive, Int.natAbs_natCast, ofRatio_of_representable false hpoint, bounded?]
  intro negative
  exact nofun

/-! ## Arithmetic -/

/-- The number of quanta with its sign. -/
def signed (negative : Bool) (quanta : Nat) : Int :=
  if negative then -(quanta : Int) else quanta

/-- The same magnitude with the other sign. -/
def neg : Binary64 → Binary64
  | .finite negative quanta representable => .finite (!negative) quanta representable
  | .infinite negative => .infinite (!negative)
  | .nan => .nan

/-- **Sum.** An exact sum of zero is negative only if both terms are. -/
def add : Binary64 → Binary64 → Binary64
  | .nan, _ => .nan
  | _, .nan => .nan
  | .infinite a, .infinite b => if a = b then .infinite a else .nan
  | .infinite a, .finite .. => .infinite a
  | .finite .., .infinite b => .infinite b
  | .finite a m _, .finite b n _ =>
    let sum := signed a m + signed b n
    if sum = 0 then zero (a && b) else ofRatio (sum < 0) sum.natAbs 1

/-- **Difference:** the sum with the opposite number. -/
def sub (x y : Binary64) : Binary64 := x.add y.neg

/-- **Product.** -/
def mul : Binary64 → Binary64 → Binary64
  | .nan, _ => .nan
  | _, .nan => .nan
  | .infinite a, .infinite b => .infinite (a ^^ b)
  | .infinite a, .finite b n _ => if n = 0 then .nan else .infinite (a ^^ b)
  | .finite a m _, .infinite b => if m = 0 then .nan else .infinite (a ^^ b)
  | .finite a m _, .finite b n _ => ofRatio (a ^^ b) (m * n) unit

/-- **Quotient.** A nonzero number over zero is infinite. -/
def div : Binary64 → Binary64 → Binary64
  | .nan, _ => .nan
  | _, .nan => .nan
  | .infinite _, .infinite _ => .nan
  | .infinite a, .finite b _ _ => .infinite (a ^^ b)
  | .finite a _ _, .infinite b => zero (a ^^ b)
  | .finite a m _, .finite b n _ =>
    if n = 0 then
      if m = 0 then .nan else .infinite (a ^^ b)
    else
      ofRatio (a ^^ b) (m * unit) n

instance : Neg Binary64 := ⟨neg⟩

instance : Add Binary64 := ⟨add⟩

instance : Sub Binary64 := ⟨sub⟩

instance : Mul Binary64 := ⟨mul⟩

instance : Div Binary64 := ⟨div⟩

/-- Half a number. -/
def half (x : Binary64) : Binary64 := x / ofNat 2

end Binary64

end Concentric
