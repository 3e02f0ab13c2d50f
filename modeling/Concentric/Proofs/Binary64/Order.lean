import Mathlib.Data.Nat.Cast.Order.Field
import Mathlib.Order.WithBot
import Concentric.Proofs.Binary64.Overflow
import Concentric.Proofs.Numeral
import Concentric.Proofs.Decimal.Tenths

/-!
# The order of doubles

Rounding never reverses an order: not on one grid, not where the spacing grows, and not where a magnitude leaves the
range and becomes an end of the line (`inOrder_ofRatio`). So products with one positive factor, whole numbers as
doubles and texts with one decimal place are all in the order of the exact numbers that they come from.
-/

namespace Concentric

/-! ## The line with its ends -/

/-- **The line with both of its ends.** -/
abbrev Extended : Type := WithBot (WithTop ℚ)

namespace Extended

/-- A number on the line. -/
def ofRat (x : ℚ) : Extended := ((x : WithTop ℚ) : WithBot (WithTop ℚ))

/-- The end on the side of a sign. -/
def endOf (negative : Bool) : Extended := if negative then ⊥ else ⊤

theorem ofRat_le_ofRat {x y : ℚ} : ofRat x ≤ ofRat y ↔ x ≤ y := by
  rw [ofRat, ofRat, WithBot.coe_le_coe, WithTop.coe_le_coe]

theorem ofRat_lt_top (x : ℚ) : ofRat x < ⊤ := WithBot.coe_lt_coe.mpr (WithTop.coe_lt_top x)

theorem bot_lt_ofRat (x : ℚ) : ⊥ < ofRat x := WithBot.bot_lt_coe _

end Extended

/-- **Two places in order.** Both have to be there. -/
def InOrder (place place' : Option Extended) : Prop := ∃ p ∈ place, ∃ q ∈ place', p ≤ q

/-- The place of a double on the line; an infinity is at its end. -/
def Binary64.place? : Binary64 → Option Extended
  | .finite negative quanta _ => some (.ofRat (withSign negative (magnitude quanta)))
  | .infinite negative => some (.endOf negative)
  | .nan => none

/-- The place of a number. -/
def Number.place? : Number → Option Extended
  | .whole z => some (.ofRat z)
  | .real x => x.place?

/-- The place of a numeral. -/
def Numeral.place? : Numeral → Option Extended
  | .whole z => some (.ofRat z)
  | .decimal d => some (.ofRat d.value)
  | .infinite negative => some (.endOf negative)
  | .nan => none

/-! ## Signs -/

/-- **What keeps the order of magnitudes keeps the order of signed numbers,** as long as zero stays zero. -/
theorem withSign_le_withSign {a b : Bool} {x y u v : ℚ} (h : withSign a x ≤ withSign b y) (hx : 0 ≤ x)
    (hy : 0 ≤ y) (hu : 0 ≤ u) (hv : 0 ≤ v) (hzero : x = 0 → u = 0) (hzero' : y = 0 → v = 0)
    (hup : x ≤ y → u ≤ v) (hdown : y ≤ x → v ≤ u) : withSign a u ≤ withSign b v := by
  cases a with
  | false =>
    cases b with
    | false => exact hup h
    | true =>
      -- A nonnegative number below a nonpositive one: both are zero.
      have hle : x ≤ -y := h
      rw [hzero (by linarith), hzero' (by linarith)]
      exact le_of_eq neg_zero.symm
  | true =>
    cases b with
    | false =>
      show -u ≤ v
      linarith
    | true =>
      have hle : -x ≤ -y := h
      exact neg_le_neg (hdown (by linarith))

theorem withSign_mul (negative : Bool) (x y : ℚ) : withSign negative (x * y) = withSign negative x * y := by
  cases negative with
  | false => rfl
  | true => exact (neg_mul x y).symm

theorem withSign_div (negative : Bool) (x y : ℚ) : withSign negative (x / y) = withSign negative x / y := by
  rw [div_eq_mul_inv, withSign_mul, ← div_eq_mul_inv]

theorem roundQuotient_zero {den : Nat} (hpositive : 0 < den) : roundQuotient 0 den = 0 := by
  have hzero := roundQuotient_mul 0 hpositive
  rwa [Nat.zero_mul] at hzero

namespace Binary64

variable {num den num' den' : Nat}

/-! ## Rounding to the grid -/

/-- Integral parts are in the order of the quotients. -/
theorem div_le_div_of_quotient_le (hpositive : 0 < den) (hpositive' : 0 < den')
    (h : (num : ℚ) / den ≤ num' / den') : num / den ≤ num' / den' := by
  have hden : (0 : ℚ) < den := by exact_mod_cast hpositive
  have hden' : (0 : ℚ) < den' := by exact_mod_cast hpositive'
  rw [Nat.le_div_iff_mul_le hpositive']
  have hfloor : ((num / den : Nat) : ℚ) ≤ num / den := Nat.cast_div_le
  have hbound : ((num / den : Nat) : ℚ) * den' ≤ num' := (le_div_iff₀ hden').mp (hfloor.trans h)
  exact_mod_cast hbound

/-- On one grid the rounding is that of whole numbers. -/
theorem roundToGrid_le_of_spacing_eq (hpositive : 0 < den) (hpositive' : 0 < den')
    (h : (num : ℚ) / den ≤ num' / den') (hspacing : spacing (num / den) = spacing (num' / den')) :
    roundToGrid num den ≤ roundToGrid num' den' := by
  rw [roundToGrid, roundToGrid, hspacing]
  apply Nat.mul_le_mul_right
  apply roundQuotient_mono (Nat.mul_pos hpositive (spacing_pos _)) (Nat.mul_pos hpositive' (spacing_pos _))
  rw [Nat.cast_mul, Nat.cast_mul, ← div_div, ← div_div]
  exact div_le_div_of_nonneg_right h (Nat.cast_nonneg _)

/-- Between two grids lies a power of two that neither rounding crosses. -/
theorem roundToGrid_le_of_log2_lt_log2 (hpositive' : 0 < den') (hlog : (num / den).log2 < (num' / den').log2)
    (hgrid : 52 < (num' / den').log2) : roundToGrid num den ≤ roundToGrid num' den' := by
  have hne : num' / den' ≠ 0 := by
    intro hzero
    rw [hzero, Nat.log2_zero] at hgrid
    omega
  have hgap : spacing (num / den) ≤ 2 ^ ((num' / den').log2 - 53) := spacing_le_of_log2_lt (by omega)
  have hbits := roundQuotient_spacing_le num den
  rw [Nat.one_shiftLeft] at hbits
  calc roundToGrid num den ≤ 2 ^ 53 * 2 ^ ((num' / den').log2 - 53) := Nat.mul_le_mul hbits hgap
    _ = 2 ^ (num' / den').log2 := by rw [← Nat.pow_add, Nat.add_sub_cancel' hgrid]
    _ ≤ roundToGrid num' den' := two_pow_le_roundToGrid hpositive' (Nat.log2_self_le hne) (le_of_lt hgrid)

/-- **Rounding to the grid is monotone.** -/
theorem roundToGrid_mono (hpositive : 0 < den) (hpositive' : 0 < den') (h : (num : ℚ) / den ≤ num' / den') :
    roundToGrid num den ≤ roundToGrid num' den' := by
  have hdiv := div_le_div_of_quotient_le hpositive hpositive' h
  have hlog : (num / den).log2 ≤ (num' / den').log2 := by
    by_cases hzero : num / den = 0
    · rw [hzero, Nat.log2_zero]
      exact Nat.zero_le _
    · have hne : num' / den' ≠ 0 := by
        intro hnone
        exact hzero (Nat.le_zero.mp (hnone ▸ hdiv))
      exact (Nat.le_log2 hne).mpr (Nat.le_trans (Nat.log2_self_le hzero) hdiv)
  by_cases hsame : (num / den).log2 - 52 = (num' / den').log2 - 52
  · have hspacing : spacing (num / den) = spacing (num' / den') := by rw [spacing, spacing, hsame]
    exact roundToGrid_le_of_spacing_eq hpositive hpositive' h hspacing
  · have hless : (num / den).log2 < (num' / den').log2 := by omega
    have hgrid : 52 < (num' / den').log2 := by omega
    exact roundToGrid_le_of_log2_lt_log2 hpositive' hless hgrid

theorem roundToGrid_zero (hpositive : 0 < den) : roundToGrid 0 den = 0 := by
  rw [roundToGrid, roundQuotient_zero (Nat.mul_pos hpositive (spacing_pos _)), Nat.zero_mul]

/-- A signed quotient keeps its place among the others. -/
theorem withSign_roundToGrid_le {a b : Bool} (hpositive : 0 < den) (hpositive' : 0 < den')
    (h : withSign a ((num : ℚ) / den) ≤ withSign b (num' / den')) :
    withSign a (roundToGrid num den) ≤ withSign b (roundToGrid num' den') := by
  have hzero {n d : Nat} (hd : 0 < d) (hquotient : (n : ℚ) / d = 0) : ((roundToGrid n d : Nat) : ℚ) = 0 := by
    have hden : (d : ℚ) ≠ 0 := by exact_mod_cast Nat.pos_iff_ne_zero.mp hd
    have hnum : (n : ℚ) = 0 := (div_eq_zero_iff.mp hquotient).resolve_right hden
    obtain rfl : n = 0 := by exact_mod_cast hnum
    rw [roundToGrid_zero hd, Nat.cast_zero]
  refine withSign_le_withSign h (by positivity) (by positivity) (by positivity) (by positivity) (hzero hpositive)
    (hzero hpositive') ?_ ?_
  · intro hle
    exact_mod_cast roundToGrid_mono hpositive hpositive' hle
  · intro hle
    exact_mod_cast roundToGrid_mono hpositive' hpositive hle

/-! ## Leaving the range -/

/-- The place of a rounded number of quanta: from the ceiling on it is the end of the line. -/
def reach (negative : Bool) (quanta : Nat) : Extended :=
  if quanta < ceiling then .ofRat (withSign negative (magnitude quanta)) else .endOf negative

theorem place?_ofRatio (negative : Bool) (num den : Nat) :
    (ofRatio negative num den).place? = some (reach negative (roundToGrid num den)) := by
  rw [ofRatio, reach]
  split <;> rfl

theorem reach_mono {a b : Bool} {quanta quanta' : Nat} (h : withSign a (quanta : ℚ) ≤ withSign b quanta') :
    reach a quanta ≤ reach b quanta' := by
  have hceiling : (0 : ℚ) < ceiling := by exact_mod_cast one_shiftLeft_pos ceilingExponent
  have hnonneg : (0 : ℚ) ≤ quanta := Nat.cast_nonneg _
  have hnonneg' : (0 : ℚ) ≤ quanta' := Nat.cast_nonneg _
  rw [reach, reach]
  split
  · next hinside =>
    have hless : (quanta : ℚ) < ceiling := by exact_mod_cast hinside
    split
    · rw [Extended.ofRat_le_ofRat, magnitude, magnitude, withSign_div, withSign_div]
      exact div_le_div_of_nonneg_right h (le_of_lt unit_cast_pos)
    · next houtside =>
      have hgreater : (ceiling : ℚ) ≤ quanta' := by exact_mod_cast Nat.not_lt.mp houtside
      cases b with
      | false => exact le_top
      | true =>
        -- Nothing inside the range is below what has left it on the negative side.
        have hle : withSign a (quanta : ℚ) ≤ -quanta' := h
        have hlow : -(quanta : ℚ) ≤ withSign a quanta := by
          cases a with
          | false => exact (neg_nonpos.mpr hnonneg).trans hnonneg
          | true => exact le_refl _
        linarith
  · next houtside =>
    have hgreater : (ceiling : ℚ) ≤ quanta := by exact_mod_cast Nat.not_lt.mp houtside
    cases a with
    | true => exact bot_le
    | false =>
      have hle : (quanta : ℚ) ≤ withSign b quanta' := h
      cases b with
      | true =>
        have hnegative : (quanta : ℚ) ≤ -quanta' := hle
        linarith
      | false =>
        have hgreater' : ¬ quanta' < ceiling := by
          intro hinside
          have hless : (quanta' : ℚ) < ceiling := by exact_mod_cast hinside
          have hle' : (quanta : ℚ) ≤ quanta' := hle
          linarith
        rw [if_neg hgreater']

/-- **Rounding keeps the order,** also into an infinity. -/
theorem inOrder_ofRatio {a b : Bool} (hpositive : 0 < den) (hpositive' : 0 < den')
    (h : withSign a ((num : ℚ) / den) ≤ withSign b (num' / den')) :
    InOrder (ofRatio a num den).place? (ofRatio b num' den').place? := by
  refine ⟨_, place?_ofRatio a num den, _, place?_ofRatio b num' den', ?_⟩
  exact reach_mono (withSign_roundToGrid_le hpositive hpositive' h)

/-! ## Products -/

/-- Finite places in order are values in order. -/
theorem withSign_le_of_inOrder {a b : Bool} {m m' : Nat} {hm : Representable m} {hm' : Representable m'}
    (h : InOrder (Binary64.finite a m hm).place? (Binary64.finite b m' hm').place?) :
    withSign a (magnitude m) ≤ withSign b (magnitude m') := by
  obtain ⟨p, hp, q, hq, hle⟩ := h
  obtain rfl := Option.some.inj hp
  obtain rfl := Option.some.inj hq
  exact Extended.ofRat_le_ofRat.mp hle

theorem mul_eq_ofRatio {negative : Bool} {m n : Nat} (hm : Representable m) (hn : Representable n) :
    Binary64.finite negative m hm * .finite false n hn = ofRatio negative (m * n) unit := by
  show Binary64.mul (.finite negative m hm) (.finite false n hn) = _
  rw [Binary64.mul, Bool.xor_false]

/-- **Products with one nonnegative factor are in the order of the other one.** -/
theorem inOrder_mul {a b : Bool} {m m' n : Nat} {hm : Representable m} {hm' : Representable m'}
    (hn : Representable n)
    (h : InOrder (Binary64.finite a m hm).place? (Binary64.finite b m' hm').place?) :
    InOrder (Binary64.finite a m hm * .finite false n hn).place?
      (Binary64.finite b m' hm' * .finite false n hn).place? := by
  have hvalue (negative : Bool) (k : Nat) :
      withSign negative (((k * n : Nat) : ℚ) / unit) = withSign negative (magnitude k) * n := by
    rw [← withSign_mul, magnitude, Nat.cast_mul, mul_div_right_comm]
  rw [mul_eq_ofRatio, mul_eq_ofRatio]
  apply inOrder_ofRatio unit_pos unit_pos
  rw [hvalue, hvalue]
  exact mul_le_mul_of_nonneg_right (withSign_le_of_inOrder h) (Nat.cast_nonneg n)

/-! ## Whole numbers -/

/-- A whole number in range is rounded once and stays finite. -/
theorem eq_of_realOfInt {z : Int} {x : Binary64} (h : Number.realOfInt z = .ok x) :
    x = ofRatio (z < 0) (z.natAbs * unit) 1 ∧
      ∃ negative quanta representable, x = .finite negative quanta representable := by
  rw [Number.realOfInt, ofInt?] at h
  cases hrounded : ofRatio (z < 0) (z.natAbs * unit) 1 with
  | finite negative quanta representable =>
    rw [hrounded] at h
    obtain rfl := Except.ok.inj h
    exact ⟨rfl, negative, quanta, representable, rfl⟩
  | infinite negative =>
    rw [hrounded] at h
    cases h
  | nan =>
    have hplace := place?_ofRatio (z < 0) (z.natAbs * unit) 1
    rw [hrounded] at hplace
    exact absurd hplace.symm (Option.some_ne_none _)

/-- **Whole numbers become doubles in their order.** -/
theorem inOrder_realOfInt {z z' : Int} {x x' : Binary64} (hz : Number.realOfInt z = .ok x)
    (hz' : Number.realOfInt z' = .ok x') (h : z ≤ z') : InOrder x.place? x'.place? := by
  have hvalue (k : Int) : withSign (k < 0) (((k.natAbs * unit : Nat) : ℚ) / (1 : Nat)) = k * unit := by
    rw [Nat.cast_one, div_one, Nat.cast_mul, withSign_natAbs]
  rw [(eq_of_realOfInt hz).1, (eq_of_realOfInt hz').1]
  apply inOrder_ofRatio Nat.one_pos Nat.one_pos
  rw [hvalue, hvalue]
  apply mul_le_mul_of_nonneg_right _ (le_of_lt unit_cast_pos)
  exact_mod_cast h

/-! ## One decimal place -/

theorem withSign_tenths_le {a b : Bool} {m m' : Nat} (h : withSign a (magnitude m) ≤ withSign b (magnitude m')) :
    withSign a ((tenths m : ℚ) / 10) ≤ withSign b (tenths m' / 10) := by
  have hzero {k : Nat} (hk : magnitude k = 0) : (tenths k : ℚ) / 10 = 0 := by
    have hquanta : (k : ℚ) = 0 := (div_eq_zero_iff.mp hk).resolve_right unit_cast_ne_zero
    obtain rfl : k = 0 := by exact_mod_cast hquanta
    rw [tenths, Nat.zero_mul, roundQuotient_zero unit_pos, Nat.cast_zero, zero_div]
  have hmono {k k' : Nat} (hk : magnitude k ≤ magnitude k') : (tenths k : ℚ) / 10 ≤ tenths k' / 10 := by
    have hscaled : ((k * 10 : Nat) : ℚ) / unit ≤ (k' * 10 : Nat) / unit := by
      rw [magnitude, magnitude] at hk
      rw [Nat.cast_mul, Nat.cast_mul, mul_div_right_comm, mul_div_right_comm]
      exact mul_le_mul_of_nonneg_right hk (Nat.cast_nonneg 10)
    have htenths : tenths k ≤ tenths k' := roundQuotient_mono unit_pos unit_pos hscaled
    have hcast : (tenths k : ℚ) ≤ tenths k' := by exact_mod_cast htenths
    linarith
  exact withSign_le_withSign h (magnitude_nonneg m) (magnitude_nonneg m') (by positivity) (by positivity) hzero
    hzero hmono hmono

/-- **Texts with one decimal place are in the order of the doubles.** -/
theorem inOrder_shown {x x' : Binary64} (h : InOrder x.place? x'.place?) :
    InOrder (Number.real x).shown.place? (Number.real x').shown.place? := by
  obtain ⟨p, hp, q, hq, hle⟩ := h
  cases x with
  | nan => exact nomatch hp
  | infinite negative =>
    obtain rfl := Option.some.inj hp
    cases negative with
    | true =>
      cases x' with
      | nan => exact nomatch hq
      | infinite negative' => exact ⟨_, rfl, _, rfl, bot_le⟩
      | finite negative' quanta' representable' => exact ⟨_, rfl, _, rfl, bot_le⟩
    | false =>
      have htop : q = ⊤ := top_le_iff.mp hle
      cases x' with
      | nan => exact nomatch hq
      | infinite negative' =>
        obtain rfl := Option.some.inj hq
        exact ⟨_, rfl, _, rfl, hle⟩
      | finite negative' quanta' representable' =>
        obtain rfl := Option.some.inj hq
        exact absurd htop (ne_of_lt (Extended.ofRat_lt_top _))
  | finite negative quanta representable =>
    obtain rfl := Option.some.inj hp
    cases x' with
    | nan => exact nomatch hq
    | infinite negative' =>
      obtain rfl := Option.some.inj hq
      cases negative' with
      | true => exact absurd (le_bot_iff.mp hle) (ne_of_gt (Extended.bot_lt_ofRat _))
      | false => exact ⟨_, rfl, _, rfl, le_top⟩
    | finite negative' quanta' representable' =>
      obtain rfl := Option.some.inj hq
      refine ⟨_, rfl, _, rfl, ?_⟩
      rw [Extended.ofRat_le_ofRat, Decimal.value_tenths, Decimal.value_tenths]
      exact withSign_tenths_le (Extended.ofRat_le_ofRat.mp hle)

end Binary64

end Concentric
