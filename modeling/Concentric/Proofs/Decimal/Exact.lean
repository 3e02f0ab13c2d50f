import Concentric.Decimal.Text
import Concentric.Proofs.Decimal.Reading

/-!
# The exact text identifies a double

The digits that `Decimal.shortest` finds are read back as the magnitude they were found for
(`toBinary64_shortest`). A hit on a grid has been checked by reading it back. The full expansion, which is taken
if no grid has a hit, needs no check: it is the magnitude itself.
-/

namespace Concentric

open Binary64

namespace Decimal

/-- The double that digits at a power of ten are read as. -/
theorem toBinary64_mk (negative : Bool) (digits : Nat) (exponent : Int) :
    toBinary64 ⟨negative, digits, exponent⟩ =
      ofRatio negative (digits * Nat.pow 10 exponent.toNat * unit) (Nat.pow 10 (-exponent).toNat) := by
  rw [toBinary64, numerator, denominator]

/-! ## Digits that were checked -/

theorem eq_of_isMagnitude {quanta : Nat} {x : Binary64} (h : isMagnitude quanta x = true)
    (representable : Representable quanta) : x = .finite false quanta representable := by
  unfold isMagnitude at h
  split at h
  · next same point =>
    obtain rfl : same = quanta := of_decide_eq_true h
    rfl
  · exact absurd h Bool.false_ne_true

/-- The check finds the magnitude itself. -/
theorem toBinary64_of_readsBack {quanta digits : Nat} {exponent : Int}
    (h : readsBack quanta digits exponent = true) (representable : Representable quanta) :
    toBinary64 ⟨false, digits, exponent⟩ = .finite false quanta representable :=
  eq_of_isMagnitude h representable

/-- The check is made without a sign, which has no part in it. -/
theorem toBinary64_of_toBinary64_false {quanta digits : Nat} {exponent : Int}
    {representable : Representable quanta} (negative : Bool)
    (h : toBinary64 ⟨false, digits, exponent⟩ = .finite false quanta representable) :
    toBinary64 ⟨negative, digits, exponent⟩ = .finite negative quanta representable := by
  rw [toBinary64_mk] at h ⊢
  exact ofRatio_eq_finite_of_ofRatio_eq_finite negative h

theorem toBinary64_of_onGrid? {quanta : Nat} {exponent : Int} {found : Decimal}
    (h : onGrid? quanta exponent = some found) (negative : Bool) (representable : Representable quanta) :
    toBinary64 ⟨negative, found.digits, found.exponent⟩ = .finite negative quanta representable := by
  unfold onGrid? at h
  split at h
  · next hnearest =>
    obtain rfl := Option.some.inj h
    exact toBinary64_of_toBinary64_false negative (toBinary64_of_readsBack hnearest representable)
  · split at h
    · next hother =>
      obtain rfl := Option.some.inj h
      exact toBinary64_of_toBinary64_false negative (toBinary64_of_readsBack hother representable)
    · exact nomatch h

/-! ## The full expansion -/

theorem five_pow_mul_shiftLeft (n : Nat) : Nat.pow 5 n * 1 <<< n = 10 ^ n := by
  rw [Nat.one_shiftLeft]
  exact (Nat.mul_pow 5 2 n).symm

/-- A quantum is a power of five at the same power of ten. -/
theorem five_pow_mul_unit : Nat.pow 5 unitExponent * unit = 10 ^ unitExponent := by
  -- For a variable nothing is computed.
  unfold unit
  generalize unitExponent = n
  exact five_pow_mul_shiftLeft n

theorem toBinary64_expansion {quanta : Nat} (negative : Bool) (representable : Representable quanta) :
    toBinary64 ⟨negative, (expansion quanta).digits, (expansion quanta).exponent⟩ =
      .finite negative quanta representable := by
  have hzero : (-(unitExponent : Int)).toNat = 0 := Int.toNat_neg_natCast _
  have hpow : (- -(unitExponent : Int)).toNat = unitExponent := by rw [Int.neg_neg, Int.toNat_natCast]
  rw [← ofRatio_of_representable negative representable, toBinary64_mk]
  simp only [expansion, hzero, hpow]
  apply ofRatio_eq_of_mul_eq negative (Nat.pow_pos (by decide)) Nat.one_pos
  have hone : Nat.pow 10 0 = 1 := rfl
  rw [hone, Nat.mul_one, Nat.mul_one, Nat.mul_assoc, five_pow_mul_unit]

/-- The shortest digits are a hit on a grid or the full expansion. -/
theorem shortest_eq_or (quanta : Nat) :
    (∃ exponent, onGrid? quanta exponent = some (shortest quanta)) ∨ shortest quanta = expansion quanta := by
  have hsearch : shortest quanta =
      ((List.range 17).findSome? fun (count : Nat) => onGrid? quanta (leadOf quanta - count)).getD
        (expansion quanta) := by
    rw [shortest]
  cases hresult : (List.range 17).findSome? fun (count : Nat) => onGrid? quanta (leadOf quanta - count) with
  | none =>
    rw [hresult, Option.getD_none] at hsearch
    exact .inr hsearch
  | some found =>
    rw [hresult, Option.getD_some] at hsearch
    obtain ⟨count, -, hfound⟩ := List.exists_of_findSome?_eq_some hresult
    exact .inl ⟨leadOf quanta - count, hsearch ▸ hfound⟩

/-- **The shortest digits are read back.** -/
theorem toBinary64_shortest {quanta : Nat} (negative : Bool) (representable : Representable quanta) :
    toBinary64 ⟨negative, (shortest quanta).digits, (shortest quanta).exponent⟩ =
      .finite negative quanta representable := by
  rcases shortest_eq_or quanta with ⟨exponent, hfound⟩ | hexpansion
  · exact toBinary64_of_onGrid? hfound negative representable
  · rw [hexpansion]
    exact toBinary64_expansion negative representable

/-- No digits are zero. -/
theorem toBinary64_zero (negative : Bool) (representable : Representable 0) :
    toBinary64 ⟨negative, 0, 0⟩ = .finite negative 0 representable := by
  rw [← ofRatio_of_representable negative representable, toBinary64_mk]
  apply ofRatio_eq_of_mul_eq negative (Nat.pow_pos (by decide)) Nat.one_pos
  simp

end Decimal

/-! ## Texts -/

/-- **The exact text of a finite double is read back as that double.** -/
theorem Binary64.exists_parse?_exactChars (negative : Bool) (quanta : Nat)
    (representable : Representable quanta) :
    ∃ d, Decimal.parse? (exactChars (.finite negative quanta representable)) = some d ∧
      d.toBinary64 = .finite negative quanta representable := by
  have hdigits : ∃ decimal : Decimal,
      exactChars (.finite negative quanta representable) = Decimal.signChars negative ++
        Decimal.Layout.exact.magnitude decimal.digits decimal.exponent ∧
      Decimal.toBinary64 ⟨negative, decimal.digits, decimal.exponent⟩ =
        .finite negative quanta representable := by
    by_cases hzero : quanta = 0
    · subst hzero
      exact ⟨⟨false, 0, 0⟩, rfl, Decimal.toBinary64_zero negative representable⟩
    · refine ⟨Decimal.shortest quanta, ?_, Decimal.toBinary64_shortest negative representable⟩
      rw [exactChars]
      simp only [if_neg hzero]
  obtain ⟨decimal, htext, hdouble⟩ := hdigits
  obtain ⟨d, hparse, hsign, hvalue⟩ :=
    Decimal.readsAs_magnitude .exact negative decimal.digits decimal.exponent
  refine ⟨d, htext ▸ hparse, ?_⟩
  rw [← hdouble]
  exact Decimal.toBinary64_eq_of_absValue hsign hvalue

end Concentric
