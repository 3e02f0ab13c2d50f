import Concentric.Proofs.Refusals

/-!
# Incomplete rings

The arithmetic of a ring can fail at four places: the product of index and spacing, the centre of the surface, the
text of the radius, and half the spacing. Where digits are limited, the text of the index may be missing as well.
`Ring.Ended` lists these places with the lines that are painted by then, and `ring_complete_or_stopped` says which
numbers lead to which of them. A ring that stops has defined nothing, so that no label can follow a path of an
incomplete ring.
-/

namespace Concentric

open Markup Drawing

namespace Number

/-- **A whole number whose half has no nearest double.** -/
def HalfOutOfRange : Number → Prop
  | .whole z => 2 * Binary64.overflowBound ≤ z.natAbs
  | .real _ => False

/-- Whether a number is a double. -/
def IsReal : Number → Prop
  | .whole _ => False
  | .real _ => True

instance : DecidablePred HalfOutOfRange
  | .whole z => inferInstanceAs (Decidable (2 * Binary64.overflowBound ≤ z.natAbs))
  | .real _ => inferInstanceAs (Decidable False)

instance : DecidablePred IsReal
  | .whole _ => inferInstanceAs (Decidable False)
  | .real _ => inferInstanceAs (Decidable True)

/-- **The half of a number fails out of its own, wider range.** -/
theorem failsExactlyIf_half (n : Number) : FailsExactlyIf n.half .quotientTooLarge n.HalfOutOfRange := by
  intro e
  cases n with
  | whole z =>
    show half (.whole z) = .error e ↔ e = .quotientTooLarge ∧ 2 * Binary64.overflowBound ≤ z.natAbs
    rw [half, ← Binary64.halfOfInt?_eq_none_iff]
    cases Binary64.halfOfInt? z with
    | none =>
      constructor
      · intro h
        exact ⟨(Except.error.inj h).symm, rfl⟩
      · rintro ⟨rfl, -⟩
        rfl
    | some x => exact iff_of_false nofun (fun h => Option.some_ne_none x h.2)
  | real x => exact FailsExactlyIf.ok x.half e

/-- A text is missing exactly if the number is too long. -/
theorem failsExactlyIf_text [DigitLimit] (n : Number) : FailsExactlyIf n.text .tooManyDigits (¬ n.Writable) := by
  intro e
  rw [text]
  split
  · next hwritable => exact iff_of_false nofun fun h => h.2 hwritable
  · next hlong =>
    rw [Except.error.injEq, eq_comm]
    exact (and_iff_left hlong).symm

/-- A whole number out of the wider range is out of range. -/
theorem HalfOutOfRange.outOfRange {n : Number} (h : n.HalfOutOfRange) : n.OutOfRange := by
  cases n with
  | whole z =>
    show Binary64.overflowBound ≤ z.natAbs
    have hwide : 2 * Binary64.overflowBound ≤ z.natAbs := h
    omega
  | real x => exact h

end Number

theorem Surface.failsExactlyIf_center (s : Surface) :
    FailsExactlyIf s.center .quotientTooLarge (s.width.HalfOutOfRange ∨ s.height.HalfOutOfRange) := by
  have hcenter := s.width.failsExactlyIf_half.bind fun x => s.height.failsExactlyIf_half.bind fun y =>
    FailsExactlyIf.ok (⟨x, y⟩ : Point Binary64)
  exact hcenter.congr (by simp)

namespace Ring

/-! ## Four conditions -/

/-- **The product cannot be converted:** one factor is a double and the other one a whole number out of range. -/
def MixedOutOfRange (index spacing : Number) : Prop :=
  (index.OutOfRange ∧ spacing.IsReal) ∨ (index.IsReal ∧ spacing.OutOfRange)

/-- **The surface has no centre:** one of its sides has no half. -/
def SurfaceOutOfRange (surface : Surface) : Prop :=
  surface.width.HalfOutOfRange ∨ surface.height.HalfOutOfRange

instance (index spacing : Number) : Decidable (MixedOutOfRange index spacing) :=
  inferInstanceAs (Decidable ((index.OutOfRange ∧ spacing.IsReal) ∨ (index.IsReal ∧ spacing.OutOfRange)))

instance (surface : Surface) : Decidable (SurfaceOutOfRange surface) :=
  inferInstanceAs (Decidable (surface.width.HalfOutOfRange ∨ surface.height.HalfOutOfRange))

/-- **The radius is out of range,** as the product of two whole numbers. -/
def RadiusOutOfRange (index spacing : Number) : Prop :=
  ∃ i s : Int, index = .whole i ∧ spacing = .whole s ∧ Binary64.overflowBound ≤ (i * s).natAbs

/-- **The band has no middle:** the radius is zero whatever the spacing is, and the spacing has no half. -/
def SpacingOutOfRange (index spacing : Number) : Prop := index = .whole 0 ∧ spacing.HalfOutOfRange

theorem failsExactlyIf_ringRadius (index spacing : Number) :
    FailsExactlyIf (ringRadius index spacing) .integerTooLarge (MixedOutOfRange index spacing) := by
  cases spacing with
  | real y =>
    rw [ringRadius, Number.mul, Number.combine_real]
    refine (index.failsExactlyIf_toReal.map _).congr ?_
    simp [MixedOutOfRange, Number.IsReal, Number.OutOfRange]
  | whole s =>
    cases index with
    | whole i => exact (FailsExactlyIf.ok _).congr (by simp [MixedOutOfRange, Number.IsReal])
    | real x =>
      rw [ringRadius, Number.mul, Number.real_combine]
      refine ((Number.whole s).failsExactlyIf_toReal.map _).congr ?_
      simp [MixedOutOfRange, Number.IsReal, Number.OutOfRange]

/-- Two whole numbers have their product tested. -/
theorem radiusOutOfRange_whole_iff (i s : Int) :
    RadiusOutOfRange (.whole i) (.whole s) ↔ Binary64.overflowBound ≤ (i * s).natAbs := by
  simp [RadiusOutOfRange]

variable {index spacing radius : Number}

/-- Only the product of two whole numbers is a whole radius. -/
theorem outOfRange_radius_iff (h : ringRadius index spacing = .ok radius) :
    radius.OutOfRange ↔ RadiusOutOfRange index spacing := by
  cases spacing with
  | whole s =>
    cases index with
    | whole i =>
      obtain rfl : .whole (i * s) = radius := Except.ok.inj h
      rw [radiusOutOfRange_whole_iff]
      exact Iff.rfl
    | real x =>
      rw [ringRadius, Number.mul, Number.real_combine] at h
      obtain ⟨y, -, rfl⟩ := exists_of_map_eq_ok h
      simp [RadiusOutOfRange, Number.OutOfRange]
  | real y =>
    rw [ringRadius, Number.mul, Number.combine_real] at h
    obtain ⟨x, -, rfl⟩ := exists_of_map_eq_ok h
    simp [RadiusOutOfRange, Number.OutOfRange]

/-- A radius that has a text is in range. -/
theorem not_radiusOutOfRange_of_toReal {r : Binary64} (h : ringRadius index spacing = .ok radius)
    (hr : radius.toReal = .ok r) : ¬ RadiusOutOfRange index spacing := by
  rw [← outOfRange_radius_iff h]
  exact radius.failsExactlyIf_toReal.not_of_ok hr

/-- A spacing without a half comes as far as the circle only at the index zero: beside a double the product fails, and
any other whole index takes the radius out of range. -/
theorem index_eq_zero (hmixed : ¬ MixedOutOfRange index spacing) (hradius : ¬ RadiusOutOfRange index spacing)
    (hspacing : spacing.HalfOutOfRange) : index = .whole 0 := by
  cases spacing with
  | real y => exact hspacing.elim
  | whole s =>
    cases index with
    | real x => exact absurd (.inr ⟨trivial, hspacing.outOfRange⟩) hmixed
    | whole i =>
      have hwide : 2 * Binary64.overflowBound ≤ s.natAbs := hspacing
      have hsmall : (i * s).natAbs < Binary64.overflowBound := by
        apply Nat.lt_of_not_le
        exact fun hle => hradius ⟨i, s, rfl, rfl, hle⟩
      have hzero : i.natAbs = 0 := by
        by_contra hne
        have hgrown : 1 * s.natAbs ≤ i.natAbs * s.natAbs :=
          Nat.mul_le_mul_right _ (Nat.one_le_iff_ne_zero.mpr hne)
        rw [Int.natAbs_mul] at hsmall
        omega
      rw [Int.natAbs_eq_zero.mp hzero]

theorem toReal_zero : (Number.whole 0).toReal = .ok (.zero false) := by decide +kernel

section Endings

variable [DigitLimit]

/-- **The ways a ring can end,** told by its numbers. -/
inductive Ended (surface : Surface) (layer : Layer) (spacing : Number) : Drawing Circle → Prop
  | noRadius (hmixed : MixedOutOfRange layer.index spacing) :
      Ended surface layer spacing ⟨[], [], .error .integerTooLarge⟩
  | noCenter (hmixed : ¬ MixedOutOfRange layer.index spacing) (hsurface : SurfaceOutOfRange surface) :
      Ended surface layer spacing ⟨[], [], .error .quotientTooLarge⟩
  | noName (hmixed : ¬ MixedOutOfRange layer.index spacing) (hsurface : ¬ SurfaceOutOfRange surface)
      (hindex : ¬ layer.index.Writable) :
      Ended surface layer spacing ⟨[], [], .error .tooManyDigits⟩
  | noCircle (hmixed : ¬ MixedOutOfRange layer.index spacing) (hsurface : ¬ SurfaceOutOfRange surface)
      (hindex : layer.index.Writable) (hradius : RadiusOutOfRange layer.index spacing) :
      Ended surface layer spacing ⟨[], [groupTag layer.index], .error .integerTooLarge⟩
  | noBand (hmixed : ¬ MixedOutOfRange layer.index spacing) (hsurface : ¬ SurfaceOutOfRange surface)
      (hradius : ¬ RadiusOutOfRange layer.index spacing) (hspacing : SpacingOutOfRange layer.index spacing)
      {center : Point Binary64} (hcenter : surface.center = .ok center) :
      Ended surface layer spacing
        ⟨[], [groupTag layer.index, circleLine layer center (.zero false)], .error .quotientTooLarge⟩
  | whole (hmixed : ¬ MixedOutOfRange layer.index spacing) (hsurface : ¬ SurfaceOutOfRange surface)
      (hindex : layer.index.Writable) (hradius : ¬ RadiusOutOfRange layer.index spacing)
      (hspacing : ¬ SpacingOutOfRange layer.index spacing)
      (defs body : List String) {circle : Circle} (hedge : ∃ edge, circle.leftEdge = .ok edge) :
      Ended surface layer spacing ⟨defs, body, .ok circle⟩

theorem ended (surface : Surface) (layer : Layer) (spacing : Number) :
    Ended surface layer spacing (draw surface layer spacing) := by
  have hfirst := failsExactlyIf_ringRadius layer.index spacing
  have hsecond := surface.failsExactlyIf_center
  have hdrawn := drawn surface layer spacing
  generalize draw surface layer spacing = drawing at hdrawn ⊢
  cases hdrawn with
  | refused e cause =>
    rcases cause with hradius | ⟨⟨radius, hradius⟩, hcenter | ⟨⟨center, hcenter⟩, htext⟩⟩
    · obtain ⟨rfl, hmixed⟩ := hfirst.of_error hradius
      exact .noRadius hmixed
    · obtain ⟨rfl, hsurface⟩ := hsecond.of_error hcenter
      exact .noCenter (hfirst.not_of_ok hradius) hsurface
    · obtain ⟨rfl, hindex⟩ := layer.index.failsExactlyIf_text.of_error htext
      exact .noName (hfirst.not_of_ok hradius) (hsecond.not_of_ok hcenter) hindex
  | opened e hradius hcenter hindex cause =>
    obtain ⟨rfl, hout⟩ := (Number.failsExactlyIf_toReal _).of_error cause
    exact .noCircle (hfirst.not_of_ok hradius) (hsecond.not_of_ok hcenter) hindex
      ((outOfRange_radius_iff hradius).mp hout)
  | @circled e radius center r hradius hcenter hindex hr cause =>
    obtain ⟨rfl, hhalf⟩ := spacing.failsExactlyIf_half.of_error cause
    have hmixed := hfirst.not_of_ok hradius
    have hinside := not_radiusOutOfRange_of_toReal hradius hr
    have hzero := index_eq_zero hmixed hinside hhalf
    -- The product of zero with a whole number is zero.
    obtain rfl : .zero false = r := by
      cases spacing with
      | real y => exact hhalf.elim
      | whole s =>
        rw [hzero] at hradius
        have hproduct : ringRadius (.whole 0) (.whole s) = .ok (.whole (0 * s)) := rfl
        rw [hproduct, Int.zero_mul, Except.ok.injEq] at hradius
        rw [← hradius, toReal_zero, Except.ok.injEq] at hr
        exact hr
    exact .noBand hmixed (hsecond.not_of_ok hcenter) hinside ⟨hzero, hhalf⟩ hcenter
  | @whole radius center r half hradius hcenter hindex hr hhalf =>
    have hinside := not_radiusOutOfRange_of_toReal hradius hr
    have hspacing : ¬ SpacingOutOfRange layer.index spacing :=
      fun h => spacing.failsExactlyIf_half.not_of_ok hhalf h.2
    exact .whole (hfirst.not_of_ok hradius) (hsecond.not_of_ok hcenter) hindex hinside hspacing _ _
      ⟨_, leftEdge_eq center hr⟩

namespace Ended

variable {surface : Surface} {layer : Layer} {spacing : Number} {drawing : Drawing Circle}
  (hended : Ended surface layer spacing drawing)
include hended

theorem fails_iff : (∃ e, drawing.outcome = .error e) ↔
    MixedOutOfRange layer.index spacing ∨ SurfaceOutOfRange surface ∨ ¬ layer.index.Writable ∨
      RadiusOutOfRange layer.index spacing ∨ SpacingOutOfRange layer.index spacing := by
  cases hended with
  | noRadius hmixed => exact iff_of_true ⟨_, rfl⟩ (.inl hmixed)
  | noCenter hmixed hsurface => exact iff_of_true ⟨_, rfl⟩ (.inr (.inl hsurface))
  | noName hmixed hsurface hindex => exact iff_of_true ⟨_, rfl⟩ (.inr (.inr (.inl hindex)))
  | noCircle hmixed hsurface hindex hradius => exact iff_of_true ⟨_, rfl⟩ (.inr (.inr (.inr (.inl hradius))))
  | noBand hmixed hsurface hradius hspacing hcenter =>
    exact iff_of_true ⟨_, rfl⟩ (.inr (.inr (.inr (.inr hspacing))))
  | whole hmixed hsurface hindex hradius hspacing defs body hedge =>
    refine iff_of_false (fun ⟨e, hfails⟩ => nomatch hfails) ?_
    simp only [not_or, not_not]
    exact ⟨hmixed, hsurface, hindex, hradius, hspacing⟩

end Ended

end Endings

end Ring

section Gaps

attribute [local instance] DigitLimit.standard

end Gaps

end Concentric
