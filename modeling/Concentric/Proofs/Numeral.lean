import Concentric.Number
import Concentric.Proofs.Decimal.Exact

/-!
# Numerals

The text of a number shows whether it is whole: a double is written with a point, with an exponent or as a word.
Reading exact texts gives back the number and its kind (`exists_parse?_plainText`), reading path arguments the number
as far as it is written (`parse?_plainArgumentText`).
-/

namespace Concentric

open Decimal

/-- **A numeral:** what can be read off the text of a number. -/
inductive Numeral where
  | whole (value : Int)
  | decimal (value : Decimal)
  | infinite (negative : Bool)
  | nan
deriving DecidableEq

/-- The number that a numeral stands for. -/
def Numeral.number : Numeral → Number
  | .whole z => .whole z
  | .decimal d => .real d.toBinary64
  | .infinite negative => .real (.infinite negative)
  | .nan => .real .nan

/-- **The numeral that a path argument shows:** a double has one decimal place. -/
def Number.shown : Number → Numeral
  | .whole z => .whole z
  | .real (.finite negative quanta _) => .decimal ⟨negative, Binary64.tenths quanta, -1⟩
  | .real (.infinite negative) => .infinite negative
  | .real .nan => .nan

namespace Numeral

/-- **Reading a numeral.** Digits alone are whole; only then points and exponents are looked for. -/
def parse? (text : List Char) : Option Numeral :=
  let (negative, unsigned) := splitSign text
  if unsigned = "nan".toList then
    some .nan
  else if unsigned = "inf".toList then
    some (.infinite negative)
  else
    match natural? unsigned with
    | some n => some (.whole (if negative then -(n : Int) else n))
    | none => (Decimal.parse? text).map .decimal

/-! ## Whole numbers -/

theorem parse?_digits (negative : Bool) {digits : List Char} (hdigits : Digits digits) (hne : digits ≠ []) :
    parse? (signChars negative ++ digits) =
      some (.whole (if negative then -(valueOf digits : Int) else valueOf digits)) := by
  have hsplit := splitSign_digits negative hdigits hne []
  rw [List.append_nil] at hsplit
  -- Both words hold a letter.
  have hnan : digits ≠ "nan".toList := by
    rintro rfl
    exact absurd (hdigits 'n' (by decide)) (by decide)
  have hinf : digits ≠ "inf".toList := by
    rintro rfl
    exact absurd (hdigits 'i' (by decide)) (by decide)
  unfold parse?
  rw [hsplit]
  simp only [if_neg hnan, if_neg hinf, natural?_of_digits hdigits hne]

theorem parse?_integerChars (z : Int) : parse? (Number.integerChars z) = some (.whole z) := by
  have hread := parse?_digits (z < 0) (digits_digitChars z.natAbs) (digitChars_ne_nil z.natAbs)
  rw [valueOf_digitChars] at hread
  rw [Number.integerChars, hread]
  congr 2
  by_cases hneg : z < 0
  · rw [if_pos (decide_eq_true hneg)]
    omega
  · rw [if_neg (by simpa using hneg)]
    omega

/-! ## Words -/

theorem parse?_inf (negative : Bool) :
    parse? (signChars negative ++ "inf".toList) = some (.infinite negative) := by
  cases negative <;> decide

theorem parse?_nan : parse? "nan".toList = some .nan := by decide

/-! ## Decimals -/

/-- The words of infinity and of what is no number are no decimals. -/
theorem parse?_eq_none_of_word {text : List Char}
    (h : (splitSign text).2 = "nan".toList ∨ (splitSign text).2 = "inf".toList) :
    Decimal.parse? text = none := by
  rcases hsplit : splitSign text with ⟨negative, unsigned⟩
  rw [hsplit] at h
  unfold Decimal.parse?
  rw [hsplit]
  rcases h with rfl | rfl <;> rfl

theorem mem_splitSign {text : List Char} {c : Char} (hminus : c ≠ '-') (hplus : c ≠ '+') (h : c ∈ text) :
    c ∈ (splitSign text).2 := by
  unfold splitSign
  split
  · next rest => exact (List.mem_cons.mp h).resolve_left hminus
  · next rest => exact (List.mem_cons.mp h).resolve_left hplus
  · exact h

/-- A decimal with a point or an exponent is no whole number. -/
theorem parse?_of_decimal {text : List Char} {d : Decimal} {c : Char} (hparse : Decimal.parse? text = some d)
    (hmem : c ∈ text) (hc : c = '.' ∨ c = 'e') : parse? text = some (.decimal d) := by
  have hword : ¬ ((splitSign text).2 = "nan".toList ∨ (splitSign text).2 = "inf".toList) := by
    intro hword
    rw [parse?_eq_none_of_word hword] at hparse
    exact nomatch hparse
  obtain ⟨hnan, hinf⟩ := not_or.mp hword
  have hnatural : natural? (splitSign text).2 = none := by
    rcases hc with rfl | rfl
    · exact natural?_eq_none (mem_splitSign (by decide) (by decide) hmem) (by decide)
    · exact natural?_eq_none (mem_splitSign (by decide) (by decide) hmem) (by decide)
  unfold parse?
  simp only [if_neg hnan, if_neg hinf, hnatural, hparse, Option.map_some]

/-! ## Exact texts -/

/-- The exact layout always shows a point or an exponent. -/
theorem exists_mem_magnitude_exact (digits : Nat) (exponent : Int) :
    ∃ c ∈ Layout.exact.magnitude digits exponent, c = '.' ∨ c = 'e' := by
  unfold Layout.magnitude
  simp only
  split
  · exact ⟨'.', by decide, .inl rfl⟩
  · split
    · refine ⟨'.', ?_, .inl rfl⟩
      unfold positional
      split
      · simp only
        split
        · exact List.mem_append_right _ (by decide)
        · exact List.mem_append_right _ List.mem_cons_self
      · exact List.mem_cons_of_mem _ List.mem_cons_self
    · exact ⟨'e', List.mem_append_right _ List.mem_cons_self, .inr rfl⟩

theorem exists_mem_exactChars (negative : Bool) (quanta : Nat) (representable : Binary64.Representable quanta) :
    ∃ c ∈ Binary64.exactChars (.finite negative quanta representable), c = '.' ∨ c = 'e' := by
  obtain ⟨c, hmem, hc⟩ := exists_mem_magnitude_exact
    (if quanta = 0 then ⟨false, 0, 0⟩ else shortest quanta : Decimal).digits
    (if quanta = 0 then ⟨false, 0, 0⟩ else shortest quanta : Decimal).exponent
  exact ⟨c, List.mem_append_right _ hmem, hc⟩

/-- **The exact text of a number is read back** as the number and its kind. -/
theorem exists_parse?_plainText (n : Number) :
    ∃ numeral, parse? n.plainText.toList = some numeral ∧ numeral.number = n := by
  cases n with
  | whole z =>
    refine ⟨.whole z, ?_, rfl⟩
    rw [Number.plainText, String.toList_ofList, parse?_integerChars]
  | real x =>
    rw [Number.plainText, String.toList_ofList]
    cases x with
    | finite negative quanta representable =>
      obtain ⟨d, hparse, hdouble⟩ := Binary64.exists_parse?_exactChars negative quanta representable
      obtain ⟨c, hmem, hc⟩ := exists_mem_exactChars negative quanta representable
      exact ⟨.decimal d, parse?_of_decimal hparse hmem hc, congrArg Number.real hdouble⟩
    | infinite negative => exact ⟨.infinite negative, parse?_inf negative, rfl⟩
    | nan => exact ⟨.nan, parse?_nan, rfl⟩

/-! ## Path arguments -/

theorem valueOf_tenths (n : Nat) : valueOf (digitChars (n / 10) ++ digitChars (n % 10)) = n := by
  rcases Nat.eq_zero_or_pos (n / 10) with hzero | hpos
  · have hsmall : n % 10 = n := by omega
    rw [hzero, hsmall]
    exact (valueOf_zeros_append 1 (digitChars n)).trans (valueOf_digitChars n)
  · have hwhole : 10 * (n / 10) + n % 10 = n := Nat.div_add_mod n 10
    rw [digitChars, digitChars, Nat.toDigits_append_toDigits (by decide) hpos (Nat.mod_lt n (by decide)), hwhole]
    exact valueOf_digitChars n

/-- One decimal place is read as tenths. -/
theorem parse?_tenthsChars (negative : Bool) (quanta : Nat) (representable : Binary64.Representable quanta) :
    Decimal.parse? (Binary64.tenthsChars (.finite negative quanta representable)) =
      some ⟨negative, Binary64.tenths quanta, -1⟩ := by
  have hplace : (digitChars (Binary64.tenths quanta % 10)).length = 1 := by
    rw [digitChars, Nat.toDigits_of_lt_base (Nat.mod_lt _ (by decide))]
    rfl
  have hread := parse?_point negative (digits_digitChars (Binary64.tenths quanta / 10))
    (digitChars_ne_nil _) (digits_digitChars (Binary64.tenths quanta % 10)) endsDigits_nil exponent?_nil
  rw [valueOf_tenths, hplace, List.append_nil, ← List.append_assoc] at hread
  exact hread

/-- The text of a double with one decimal place is read back as far as it is written. -/
theorem parse?_tenths (x : Binary64) : parse? x.tenthsChars = some (Number.real x).shown := by
  cases x with
  | finite negative quanta representable =>
    have hpoint : '.' ∈ Binary64.tenthsChars (.finite negative quanta representable) :=
      List.mem_append_right _ List.mem_cons_self
    exact parse?_of_decimal (parse?_tenthsChars negative quanta representable) hpoint (.inl rfl)
  | infinite negative => exact parse?_inf negative
  | nan => exact parse?_nan

/-- **A path argument is read back** as far as it is written. -/
theorem parse?_plainArgumentText (n : Number) : parse? n.plainArgumentText.toList = some n.shown := by
  cases n with
  | whole z =>
    rw [Number.plainArgumentText, String.toList_ofList]
    exact parse?_integerChars z
  | real x =>
    rw [Number.plainArgumentText, String.toList_ofList]
    exact parse?_tenths x

end Numeral

end Concentric
