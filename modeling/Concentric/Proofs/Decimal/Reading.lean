import Mathlib.Tactic.Ring
import Concentric.Decimal.Layout
import Concentric.Proofs.Decimal.Value

/-!
# Reading what is laid out

Every layout of decimal digits is read back as a decimal of the same value (`readsAs_magnitude`): positionally or
with an exponent, with zeros filled in or left out. The digits that are read may be others than those that were
laid out, which is why the statement is about values.
-/

namespace Concentric.Decimal

/-! ## Digits -/

/-- **A text of digits.** -/
def Digits (text : List Char) : Prop := ∀ c ∈ text, c.isDigit = true

/-- **What can follow digits:** a text that does not begin with a digit. -/
def EndsDigits (rest : List Char) : Prop := ∀ c ∈ rest.head?, c.isDigit = false

theorem endsDigits_nil : EndsDigits [] := nofun

theorem endsDigits_cons {c : Char} (h : c.isDigit = false) (rest : List Char) : EndsDigits (c :: rest) := by
  intro d hd
  rwa [← Option.some.inj hd]

/-- The value of a text of digits. -/
def valueOf (digits : List Char) : Nat := Nat.ofDigitChars 10 digits 0

theorem digits_digitChars (n : Nat) : Digits (digitChars n) := by
  intro c hc
  exact Nat.isDigit_of_mem_toDigits (by omega) (by omega) hc

theorem digitChars_ne_nil (n : Nat) : digitChars n ≠ [] := Nat.toDigits_ne_nil

theorem valueOf_digitChars (n : Nat) : valueOf (digitChars n) = n := Nat.ofDigitChars_ten_toDigits

theorem digits_zeros (k : Nat) : Digits (List.replicate k '0') := by
  intro c hc
  rw [List.eq_of_mem_replicate hc]
  rfl

theorem Digits.append {s t : List Char} (hs : Digits s) (ht : Digits t) : Digits (s ++ t) := by
  intro c hc
  rcases List.mem_append.mp hc with h | h
  · exact hs c h
  · exact ht c h

theorem valueOf_append_zeros (digits : List Char) (k : Nat) :
    valueOf (digits ++ List.replicate k '0') = valueOf digits * 10 ^ k := by
  rw [valueOf, Nat.ofDigitChars_append, Nat.ofDigitChars_replicate_zero, Nat.mul_comm, valueOf]

theorem valueOf_zeros_append (k : Nat) (digits : List Char) :
    valueOf (List.replicate k '0' ++ digits) = valueOf digits := by
  rw [valueOf, Nat.ofDigitChars_append, Nat.ofDigitChars_replicate_zero, Nat.mul_zero, valueOf]

theorem takeWhile_digits {digits rest : List Char} (hdigits : Digits digits) (hrest : EndsDigits rest) :
    (digits ++ rest).takeWhile Char.isDigit = digits := by
  rw [List.takeWhile_append_of_pos hdigits]
  cases rest with
  | nil => simp
  | cons c rest => simp [hrest c rfl]

theorem dropWhile_digits {digits rest : List Char} (hdigits : Digits digits) (hrest : EndsDigits rest) :
    (digits ++ rest).dropWhile Char.isDigit = rest := by
  rw [List.dropWhile_append_of_pos hdigits]
  cases rest with
  | nil => rfl
  | cons c rest => simp [hrest c rfl]

theorem natural?_of_digits {digits : List Char} (hdigits : Digits digits) (hne : digits ≠ []) :
    natural? digits = some (valueOf digits) := by
  rw [natural?, if_pos ⟨hne, List.all_eq_true.mpr hdigits⟩, valueOf]

theorem natural?_eq_none {text : List Char} {c : Char} (hc : c ∈ text) (hdigit : c.isDigit = false) :
    natural? text = none := by
  rw [natural?, if_neg]
  rintro ⟨-, hall⟩
  have hyes := List.all_eq_true.mp hall c hc
  rw [hdigit] at hyes
  exact Bool.false_ne_true hyes

/-! ## Signs and exponents -/

/-- A sign is taken off a text that has no other one. -/
theorem splitSign_signChars (negative : Bool) {c : Char} (hminus : c ≠ '-') (hplus : c ≠ '+')
    (rest : List Char) : splitSign (signChars negative ++ c :: rest) = (negative, c :: rest) := by
  cases negative with
  | true => rfl
  | false =>
    show splitSign (c :: rest) = _
    unfold splitSign
    split
    · next hsame => exact absurd (List.cons.inj hsame).1 hminus
    · next hsame => exact absurd (List.cons.inj hsame).1 hplus
    · rfl

theorem ne_sign_of_isDigit {c : Char} (h : c.isDigit = true) : c ≠ '-' ∧ c ≠ '+' := by
  constructor <;> (rintro rfl; exact absurd h (by decide))

theorem splitSign_digits (negative : Bool) {digits : List Char} (hdigits : Digits digits)
    (hne : digits ≠ []) (rest : List Char) :
    splitSign (signChars negative ++ (digits ++ rest)) = (negative, digits ++ rest) := by
  cases digits with
  | nil => exact absurd rfl hne
  | cons c more =>
    obtain ⟨hminus, hplus⟩ := ne_sign_of_isDigit (hdigits c List.mem_cons_self)
    exact splitSign_signChars negative hminus hplus (more ++ rest)

theorem digits_exponentDigits (n : Nat) : Digits (exponentDigits n) := by
  unfold exponentDigits
  split
  · exact (digits_zeros 1).append (digits_digitChars n)
  · exact digits_digitChars n

theorem exponentDigits_ne_nil (n : Nat) : exponentDigits n ≠ [] := by
  unfold exponentDigits
  split
  · exact List.cons_ne_nil _ _
  · exact digitChars_ne_nil n

theorem valueOf_exponentDigits (n : Nat) : valueOf (exponentDigits n) = n := by
  unfold exponentDigits
  split
  · have hzero := valueOf_zeros_append 1 (digitChars n)
    rw [valueOf_digitChars] at hzero
    exact hzero
  · exact valueOf_digitChars n

theorem exponent?_nil : exponent? [] = some 0 := rfl

/-- An exponent is read back. -/
theorem exponent?_eq (lead : Int) :
    exponent? ('e' :: (if lead < 0 then '-' else '+') :: exponentDigits lead.natAbs) = some lead := by
  have hnatural := natural?_of_digits (digits_exponentDigits lead.natAbs) (exponentDigits_ne_nil _)
  rw [valueOf_exponentDigits] at hnatural
  rw [exponent?, if_pos (Or.inl rfl)]
  by_cases hneg : lead < 0
  · have hvalue : -(lead.natAbs : Int) = lead := by omega
    simp only [if_pos hneg, splitSign, hnatural]
    exact congrArg some hvalue
  · have hvalue : (lead.natAbs : Int) = lead := by omega
    simp only [if_neg hneg, splitSign, hnatural]
    exact congrArg some hvalue

/-! ## Whole texts -/

/-- Digits with a point among them. -/
theorem parse?_point (negative : Bool) {whole fraction rest : List Char} {exponent : Int}
    (hwhole : Digits whole) (hne : whole ≠ []) (hfraction : Digits fraction) (hrest : EndsDigits rest)
    (hexponent : exponent? rest = some exponent) :
    parse? (signChars negative ++ (whole ++ '.' :: (fraction ++ rest))) =
      some ⟨negative, valueOf (whole ++ fraction), exponent - fraction.length⟩ := by
  have hpoint : EndsDigits ('.' :: (fraction ++ rest)) := endsDigits_cons rfl _
  have hnatural := natural?_of_digits (hwhole.append hfraction) (List.append_ne_nil_of_left_ne_nil hne fraction)
  unfold parse?
  rw [splitSign_digits negative hwhole hne]
  simp only [takeWhile_digits hwhole hpoint, dropWhile_digits hwhole hpoint, splitFraction,
    takeWhile_digits hfraction hrest, dropWhile_digits hfraction hrest, hnatural, hexponent]

/-- Digits without a point. -/
theorem parse?_bare (negative : Bool) {whole rest : List Char} {exponent : Int} (hwhole : Digits whole)
    (hne : whole ≠ []) (hrest : EndsDigits rest) (hpoint : rest.head? ≠ some '.')
    (hexponent : exponent? rest = some exponent) :
    parse? (signChars negative ++ (whole ++ rest)) = some ⟨negative, valueOf whole, exponent⟩ := by
  have hnone : splitFraction rest = ([], rest) := by
    unfold splitFraction
    split
    · exact absurd rfl hpoint
    · rfl
  have hnatural := natural?_of_digits hwhole hne
  unfold parse?
  rw [splitSign_digits negative hwhole hne]
  simp only [takeWhile_digits hwhole hrest, dropWhile_digits hwhole hrest, hnone, List.append_nil, hnatural,
    hexponent, List.length_nil, Int.natCast_zero, Int.sub_zero]

/-! ## Layouts -/

/-- **A text is read as a decimal** of the given sign and value. -/
def ReadsAs (text : List Char) (negative : Bool) (value : ℚ) : Prop :=
  ∃ d, parse? text = some d ∧ d.negative = negative ∧ d.absValue = value

/-- The digits that are left out at the end are zeros. -/
theorem exists_dropTrailingZeros (digits : List Char) :
    ∃ k, digits = dropTrailingZeros digits ++ List.replicate k '0' := by
  have hsplit := List.takeWhile_append_dropWhile (p := (· = '0')) (l := digits.reverse)
  refine ⟨(digits.reverse.takeWhile (· = '0')).length, ?_⟩
  have hzeros : digits.reverse.takeWhile (· = '0') =
      List.replicate (digits.reverse.takeWhile (· = '0')).length '0' := by
    rw [List.eq_replicate_iff]
    refine ⟨rfl, fun c hc => ?_⟩
    have hall := List.all_eq_true.mp List.all_takeWhile c hc
    simpa using hall
  have hreversed := congrArg List.reverse hsplit
  rw [List.reverse_append, List.reverse_reverse, hzeros, List.reverse_replicate] at hreversed
  exact hreversed.symm

theorem readsAs_point (negative : Bool) {whole fraction rest : List Char} {exponent : Int} {value : ℚ}
    (hwhole : Digits whole) (hne : whole ≠ []) (hfraction : Digits fraction) (hrest : EndsDigits rest)
    (hexponent : exponent? rest = some exponent)
    (hvalue : (valueOf (whole ++ fraction) : ℚ) * 10 ^ (exponent - fraction.length) = value) :
    ReadsAs (signChars negative ++ (whole ++ '.' :: (fraction ++ rest))) negative value :=
  ⟨_, parse?_point negative hwhole hne hfraction hrest hexponent, rfl, hvalue⟩

theorem readsAs_bare (negative : Bool) {whole rest : List Char} {exponent : Int} {value : ℚ}
    (hwhole : Digits whole) (hne : whole ≠ []) (hrest : EndsDigits rest) (hpoint : rest.head? ≠ some '.')
    (hexponent : exponent? rest = some exponent) (hvalue : (valueOf whole : ℚ) * 10 ^ exponent = value) :
    ReadsAs (signChars negative ++ (whole ++ rest)) negative value :=
  ⟨_, parse?_bare negative hwhole hne hrest hpoint hexponent, rfl, hvalue⟩

/-- Zeros at the end shift the digits in front of them. -/
theorem value_append_zeros (digits : List Char) (k : Nat) (exponent : Int) :
    (valueOf (digits ++ List.replicate k '0') : ℚ) * 10 ^ exponent = valueOf digits * 10 ^ (k + exponent) := by
  have hten : (10 : ℚ) ≠ 0 := by norm_num
  rw [valueOf_append_zeros, zpow_add₀ hten, zpow_natCast]
  push_cast
  ring

section Positional

variable (layout : Layout) (negative : Bool) {digits : List Char} (hdigits : Digits digits)
include hdigits

/-- All digits stand before the point, and zeros behind them. -/
theorem readsAs_positional_whole {places : Nat} (hne : digits ≠ []) (hplaces : digits.length ≤ places) :
    ReadsAs
      (signChars negative ++ (digits ++ List.replicate (places - digits.length) '0' ++
        if layout.pointZero then ['.', '0'] else []))
      negative (valueOf digits * 10 ^ ((places : Int) - digits.length)) := by
  have hwhole := hdigits.append (digits_zeros (places - digits.length))
  have hwhole_ne : digits ++ List.replicate (places - digits.length) '0' ≠ [] :=
    List.append_ne_nil_of_left_ne_nil hne _
  have hshift : ((places - digits.length : Nat) : Int) = places - digits.length := by omega
  split
  · refine readsAs_point negative hwhole hwhole_ne (digits_zeros 1) endsDigits_nil exponent?_nil ?_
    rw [List.append_assoc, List.replicate_append_replicate, value_append_zeros, ← hshift]
    congr 2
    rw [List.length_replicate]
    omega
  · refine readsAs_bare negative hwhole hwhole_ne endsDigits_nil (by simp) exponent?_nil ?_
    rw [value_append_zeros, hshift, Int.add_zero]

/-- The point stands among the digits. -/
theorem readsAs_positional_split {places : Nat} (hpos : 0 < places) (hplaces : places < digits.length) :
    ReadsAs (signChars negative ++ (digits.take places ++ '.' :: digits.drop places)) negative
      (valueOf digits * 10 ^ ((places : Int) - digits.length)) := by
  have htake : Digits (digits.take places) := fun c hc => hdigits c (List.mem_of_mem_take hc)
  have hdrop : Digits (digits.drop places) := fun c hc => hdigits c (List.mem_of_mem_drop hc)
  have hne : digits.take places ≠ [] := by
    apply List.ne_nil_of_length_pos
    rw [List.length_take]
    omega
  have hread := readsAs_point negative htake hne hdrop endsDigits_nil exponent?_nil rfl
  rw [List.append_nil, List.take_append_drop, List.length_drop] at hread
  have hshift : (0 : Int) - (digits.length - places : Nat) = places - digits.length := by omega
  rwa [hshift] at hread

/-- All digits stand behind the point, and zeros before them. -/
theorem readsAs_positional_fraction (places : Nat) :
    ReadsAs (signChars negative ++ '0' :: '.' :: (List.replicate places '0' ++ digits)) negative
      (valueOf digits * 10 ^ (-(places : Int) - digits.length)) := by
  have hfraction := (digits_zeros places).append hdigits
  have hread := readsAs_point negative (digits_zeros 1) (List.cons_ne_nil _ _) hfraction endsDigits_nil
    exponent?_nil rfl
  rw [List.append_nil, valueOf_zeros_append, valueOf_zeros_append, List.length_append,
    List.length_replicate] at hread
  have hshift : (0 : Int) - (places + digits.length : Nat) = -(places : Int) - digits.length := by omega
  rwa [hshift] at hread

theorem readsAs_positional (hne : digits ≠ []) (lead : Int) :
    ReadsAs (signChars negative ++ positional layout digits lead) negative
      (valueOf digits * 10 ^ (lead + 1 - digits.length)) := by
  unfold positional
  split
  · next hlead =>
    obtain ⟨n, rfl⟩ := Int.eq_ofNat_of_zero_le hlead
    have hplaces : ((n : Int) + 1 - digits.length) = ((n + 1 : Nat) : Int) - digits.length := by omega
    simp only [Int.toNat_natCast, hplaces]
    split
    · next hdrop =>
      have hlength : digits.length ≤ n + 1 := List.drop_eq_nil_iff.mp hdrop
      rw [List.take_of_length_le hlength]
      exact readsAs_positional_whole layout negative hdigits hne hlength
    · next fraction hdrop =>
      have hlength : n + 1 < digits.length := by
        apply Nat.lt_of_not_le
        intro hle
        exact hdrop (List.drop_eq_nil_iff.mpr hle)
      have hnone : n + 1 - digits.length = 0 := by omega
      rw [hnone, List.replicate_zero, List.append_nil]
      exact readsAs_positional_split negative hdigits (Nat.succ_pos n) hlength
  · next hlead =>
    have hshift : lead + 1 - digits.length = -(((-lead).toNat - 1 : Nat) : Int) - digits.length := by omega
    rw [hshift]
    exact readsAs_positional_fraction negative hdigits _

/-- The digits of a number with an exponent. -/
theorem readsAs_scientific (hne : digits ≠ []) (lead : Int) :
    ReadsAs (signChars negative ++ scientific digits lead) negative
      (valueOf digits * 10 ^ (lead + 1 - digits.length)) := by
  have hends : EndsDigits ('e' :: (if lead < 0 then '-' else '+') :: exponentDigits lead.natAbs) :=
    endsDigits_cons rfl _
  unfold scientific
  split
  · next first second rest =>
    have hfirst : Digits [first] := fun c hc => hdigits c (by simp_all)
    have hrest : Digits (second :: rest) := fun c hc => hdigits c (List.mem_cons_of_mem _ hc)
    have hread := readsAs_point negative hfirst (List.cons_ne_nil _ _) hrest hends (exponent?_eq lead) rfl
    have hshift : lead - ((second :: rest).length : Nat) =
        lead + 1 - ((first :: second :: rest).length : Nat) := by
      simp only [List.length_cons]
      omega
    rw [hshift] at hread
    exact hread
  · next hshort =>
    have hone : digits.length = 1 := by
      match digits, hne, hshort with
      | [c], _, _ => rfl
      | a :: b :: rest, _, hshort => exact absurd rfl (hshort a b rest)
    refine readsAs_bare negative hdigits hne hends (by simp) (exponent?_eq lead) ?_
    rw [hone]
    congr 2
    omega

end Positional

/-- **A layout is read back:** its sign and the value of what was laid out. -/
theorem readsAs_magnitude (layout : Layout) (negative : Bool) (digits : Nat) (exponent : Int) :
    ReadsAs (signChars negative ++ layout.magnitude digits exponent) negative
      (digits * 10 ^ exponent) := by
  unfold Layout.magnitude
  simp only
  split
  · next hzero =>
    rw [hzero, Nat.cast_zero, zero_mul]
    split
    · exact readsAs_point negative (digits_zeros 1) (List.cons_ne_nil _ _) (digits_zeros 1) endsDigits_nil
        exponent?_nil (by simp [valueOf, Nat.ofDigitChars])
    · exact readsAs_bare negative (digits_zeros 1) (List.cons_ne_nil _ _) endsDigits_nil (by simp) exponent?_nil
        (by simp [valueOf, Nat.ofDigitChars])
  · next hzero =>
    -- The zeros that are left out move the last of the remaining digits.
    obtain ⟨k, hsplit⟩ := exists_dropTrailingZeros (digitChars digits)
    have hlength := congrArg List.length hsplit
    rw [List.length_append, List.length_replicate] at hlength
    have hvalue := valueOf_digitChars digits
    rw [hsplit] at hvalue
    have hdigits : Digits (dropTrailingZeros (digitChars digits)) := fun c hc =>
      digits_digitChars digits c (hsplit ▸ List.mem_append_left _ hc)
    have hne : dropTrailingZeros (digitChars digits) ≠ [] := by
      intro hnil
      rw [hnil, List.nil_append] at hvalue
      have hnothing := valueOf_append_zeros [] k
      rw [List.nil_append, hvalue] at hnothing
      exact hzero (hnothing.trans (Nat.zero_mul _))
    have hsame : (digits : ℚ) * 10 ^ exponent = valueOf (dropTrailingZeros (digitChars digits)) *
        10 ^ (((digitChars digits).length + exponent - 1) + 1 -
          ((dropTrailingZeros (digitChars digits)).length : Int)) := by
      calc (digits : ℚ) * 10 ^ exponent
          = valueOf (dropTrailingZeros (digitChars digits) ++ List.replicate k '0') * 10 ^ exponent := by
            rw [hvalue]
        _ = valueOf (dropTrailingZeros (digitChars digits)) * 10 ^ (k + exponent) :=
            value_append_zeros _ k exponent
        _ = _ := by
            congr 2
            omega
    rw [hsame]
    split
    · exact readsAs_positional layout negative hdigits hne _
    · exact readsAs_scientific negative hdigits hne _

end Concentric.Decimal
