import Concentric.Proofs.Binary64.Order
import Concentric.Proofs.ExactRings

/-!
# Rings in the order of their indices

With a positive spacing the radius of a ring grows with its index, as it is returned and as it is printed, whether the
spacing is whole or a double, and whatever it is rounded to (`inOrder_ringRadius`, `inOrder_toReal`). Rings that are
painted from the outermost inwards therefore never hide one another (`growing_of_positive`).
-/

namespace Concentric

open Binary64 Markup

namespace Ring

/-- **A positive spacing:** a whole number of any size or a finite double. -/
def PositiveSpacing (spacing : Number) : Prop := ∃ s, spacing.value? = some s ∧ 0 < s

/-- The texts of the circles that a drawing paints. -/
def printedCircles (drawing : Drawing Answer) : List (List String) :=
  drawing.body.filterMap (values? "circle" ["cx", "cy", "r"])

/-- The place of a printed number on the line. -/
def textPlace? (text : String) : Option Extended := (Numeral.parse? text.toList).bind Numeral.place?

/-- **Two rings in order.** Their circles are painted around the same centre and their radii are in order, as they are
returned and as they are printed. With a whole spacing the returned radii are as many spacings apart as the indices. -/
structure Enclosed (spacing : Number) (i j : Int) (inner outer : Drawing Answer) : Prop where
  returned : ∃ circle circle' : Circle, inner.outcome = .ok (.circle circle) ∧ outer.outcome = .ok (.circle circle') ∧
    circle.center = circle'.center ∧ InOrder circle.radius.place? circle'.radius.place? ∧
    ∀ s, spacing = .whole s → ∃ r r', circle.radius = .whole r ∧ circle'.radius = .whole r' ∧ r < r' ∧
      r' - r = (j - i) * s
  printed : ∃ x y radius radius', printedCircles inner = [[x, y, radius]] ∧
    printedCircles outer = [[x, y, radius']] ∧ InOrder (textPlace? radius) (textPlace? radius')

/-- **The rings of a run come from the outermost inwards:** their indices are whole numbers and decrease. Other steps
may stand between them. -/
def Inwards (spacing : Number) (steps : List Step) : Prop :=
  steps.Pairwise fun earlier later => ∀ layer layer', earlier = .ring layer spacing → later = .ring layer' spacing →
    ∃ i j : Int, layer'.index = .whole i ∧ layer.index = .whole j ∧ i < j

/-- No circle of the one drawing is printed with a larger radius than one of the other. -/
def FitsInto (upper lower : Drawing Answer) : Prop :=
  ∀ x y radius, [x, y, radius] ∈ printedCircles upper → ∀ x' y' radius', [x', y', radius'] ∈ printedCircles lower →
    InOrder (textPlace? radius) (textPlace? radius')

/-- **Rings that grow with their index.** Of any two that are drawn on surfaces of one size the one with the smaller
index is enclosed by the other, and a run that paints them inwards never paints a larger circle over a smaller one,
not even with rings that are given up halfway. -/
structure Growing [DigitLimit] (spacing : Number) : Prop where
  enclosed : ∀ {canvas canvas' : Canvas} {layer layer' : Layer} {i j : Int}, canvas.toSurface = canvas'.toSurface →
    layer.index = .whole i → layer'.index = .whole j → i < j →
    Moment.succeeds ⟨canvas, .ring layer spacing⟩ = true → Moment.succeeds ⟨canvas', .ring layer' spacing⟩ = true →
    Enclosed spacing i j ((Step.ring layer spacing).drawing canvas) ((Step.ring layer' spacing).drawing canvas')
  uncovered : ∀ (canvas : Canvas) {steps : List Step}, Inwards spacing steps →
    (canvas.history steps).Pairwise fun earlier later => ∀ layer layer', earlier.step = .ring layer spacing →
      later.step = .ring layer' spacing → FitsInto later.drawing earlier.drawing

/-! ## Radii -/

/-- A positive double has no sign. -/
theorem eq_finite_of_positive {x : Binary64} (h : PositiveSpacing (.real x)) :
    ∃ quanta representable, x = .finite false quanta representable := by
  obtain ⟨s, hvalue, hpositive⟩ := h
  cases x with
  | finite negative quanta representable =>
    cases negative with
    | false => exact ⟨quanta, representable, rfl⟩
    | true =>
      obtain rfl := Option.some.inj hvalue
      have hnegative : withSign true (magnitude quanta) ≤ 0 := neg_nonpos.mpr (magnitude_nonneg quanta)
      exact absurd hpositive (not_lt_of_ge hnegative)
  | infinite negative => exact nomatch hvalue
  | nan => exact nomatch hvalue

theorem pos_of_positive {s : Int} (h : PositiveSpacing (.whole s)) : 0 < s := by
  obtain ⟨value, hvalue, hpositive⟩ := h
  obtain rfl := Option.some.inj hvalue
  exact_mod_cast hpositive

theorem ringRadius_real {i : Int} {y : Binary64} {radius : Number} (h : ringRadius (.whole i) (.real y) = .ok radius) :
    ∃ x, Number.realOfInt i = .ok x ∧ radius = .real (x * y) := by
  have hproduct : ringRadius (.whole i) (.real y) = (Number.realOfInt i).map fun x => .real (x * y) :=
    Number.combine_real (· * ·) (· * ·) (.whole i) y
  rw [hproduct] at h
  cases hx : Number.realOfInt i with
  | error e =>
    rw [hx] at h
    exact nomatch h
  | ok x =>
    rw [hx] at h
    exact ⟨x, rfl, (Except.ok.inj h).symm⟩

section Radii

variable {spacing radius radius' : Number} {i j : Int} (hspacing : PositiveSpacing spacing) (h : i ≤ j)
  (hradius : ringRadius (.whole i) spacing = .ok radius) (hradius' : ringRadius (.whole j) spacing = .ok radius')
include hspacing h hradius hradius'

/-- **Radii are in the order of the indices.** -/
theorem inOrder_ringRadius : InOrder radius.place? radius'.place? := by
  cases spacing with
  | whole s =>
    have hs : 0 ≤ s := le_of_lt (pos_of_positive hspacing)
    obtain rfl := Except.ok.inj hradius
    obtain rfl := Except.ok.inj hradius'
    refine ⟨_, rfl, _, rfl, Extended.ofRat_le_ofRat.mpr ?_⟩
    exact_mod_cast Int.mul_le_mul_of_nonneg_right h hs
  | real y =>
    obtain ⟨quanta, representable, rfl⟩ := eq_finite_of_positive hspacing
    obtain ⟨x, hx, rfl⟩ := ringRadius_real hradius
    obtain ⟨x', hx', rfl⟩ := ringRadius_real hradius'
    have horder := inOrder_realOfInt hx hx' h
    obtain ⟨-, a, m, hm, rfl⟩ := eq_of_realOfInt hx
    obtain ⟨-, b, m', hm', rfl⟩ := eq_of_realOfInt hx'
    exact inOrder_mul representable horder

/-- **They stay in order as doubles.** -/
theorem inOrder_toReal {r r' : Binary64} (hr : radius.toReal = .ok r) (hr' : radius'.toReal = .ok r') :
    InOrder r.place? r'.place? := by
  have horder := inOrder_ringRadius hspacing h hradius hradius'
  cases spacing with
  | whole s =>
    have hs : 0 ≤ s := le_of_lt (pos_of_positive hspacing)
    obtain rfl := Except.ok.inj hradius
    obtain rfl := Except.ok.inj hradius'
    exact inOrder_realOfInt hr hr' (Int.mul_le_mul_of_nonneg_right h hs)
  | real y =>
    obtain ⟨x, hx, rfl⟩ := ringRadius_real hradius
    obtain ⟨x', hx', rfl⟩ := ringRadius_real hradius'
    obtain rfl := Except.ok.inj hr
    obtain rfl := Except.ok.inj hr'
    exact horder

/-- **They stay in order as texts.** -/
theorem inOrder_printed {r r' : Binary64} (hr : radius.toReal = .ok r) (hr' : radius'.toReal = .ok r') :
    InOrder (textPlace? (String.ofList r.tenthsChars)) (textPlace? (String.ofList r'.tenthsChars)) := by
  have hread (x : Binary64) : textPlace? (String.ofList x.tenthsChars) = (Number.real x).shown.place? := by
    rw [textPlace?, String.toList_ofList, Numeral.parse?_tenths, Option.bind_some]
  rw [hread, hread]
  exact inOrder_shown (inOrder_toReal hspacing h hradius hradius' hr hr')

end Radii

/-- **With a whole spacing the radii are exact.** -/
theorem exact_ringRadius {s i j : Int} {radius radius' : Number} (hspacing : PositiveSpacing (.whole s)) (h : i < j)
    (hradius : ringRadius (.whole i) (.whole s) = .ok radius)
    (hradius' : ringRadius (.whole j) (.whole s) = .ok radius') :
    ∃ r r', radius = .whole r ∧ radius' = .whole r' ∧ r < r' ∧ r' - r = (j - i) * s := by
  obtain rfl := Except.ok.inj hradius
  obtain rfl := Except.ok.inj hradius'
  exact ⟨i * s, j * s, rfl, rfl, Int.mul_lt_mul_of_pos_right h (pos_of_positive hspacing), (Int.sub_mul j i s).symm⟩

/-! ## Circles -/

section Circles

variable [DigitLimit]

/-- **A painted circle** shows the radius of its ring, whether the ring is finished or not. -/
theorem eq_circleTexts_of_mem {canvas : Canvas} {layer : Layer} {spacing : Number} {circle : List String}
    (h : circle ∈ printedCircles ((Step.ring layer spacing).drawing canvas)) :
    ∃ radius center r, ringRadius layer.index spacing = .ok radius ∧ radius.toReal = .ok r ∧
      circle = circleTexts center r := by
  have hdrawn := drawn canvas.toSurface layer spacing
  rw [printedCircles, Step.drawing_ring] at h
  generalize draw canvas.toSurface layer spacing = drawing at hdrawn h
  cases hdrawn with
  | refused e cause => exact absurd h List.not_mem_nil
  | opened e hradius hcenter hindex cause =>
    simp only [List.filterMap_cons, List.filterMap_nil, values?_groupTag] at h
    exact absurd h List.not_mem_nil
  | @circled e radius center r hradius hcenter hindex hr cause =>
    simp only [List.filterMap_cons, List.filterMap_nil, values?_groupTag, values?_circleLine] at h
    exact ⟨radius, center, r, hradius, hr, List.mem_singleton.mp h⟩
  | @whole radius center r half hradius hcenter hindex hr hhalf =>
    rw [filterMap_values?_lines] at h
    exact ⟨radius, center, r, hradius, hr, List.mem_singleton.mp h⟩

/-- **A finished ring** paints the circle that it returns. -/
theorem exists_drawing_of_succeeds {canvas : Canvas} {layer : Layer} {spacing : Number}
    (h : Moment.succeeds ⟨canvas, .ring layer spacing⟩ = true) :
    ∃ radius center r, ringRadius layer.index spacing = .ok radius ∧ canvas.toSurface.center = .ok center ∧
      radius.toReal = .ok r ∧
      ((Step.ring layer spacing).drawing canvas).outcome = .ok (.circle ⟨center.ofReal, radius⟩) ∧
      printedCircles ((Step.ring layer spacing).drawing canvas) = [circleTexts center r] := by
  obtain ⟨radius, center, r, half, hradius, hcenter, -, hr, -, hdrawing⟩ := Moment.ring_whole h
  rw [Moment.drawing] at hdrawing
  rw [hdrawing]
  exact ⟨radius, center, r, hradius, hcenter, hr, rfl, filterMap_values?_lines layer center r⟩

section Order

variable {spacing : Number} {layer layer' : Layer} {i j : Int} {canvas canvas' : Canvas}
  (hspacing : PositiveSpacing spacing) (hi : layer.index = .whole i) (hj : layer'.index = .whole j) (hij : i < j)
include hspacing hi hj hij

theorem enclosed_of_lt (hsurface : canvas.toSurface = canvas'.toSurface)
    (h : Moment.succeeds ⟨canvas, .ring layer spacing⟩ = true)
    (h' : Moment.succeeds ⟨canvas', .ring layer' spacing⟩ = true) :
    Enclosed spacing i j ((Step.ring layer spacing).drawing canvas) ((Step.ring layer' spacing).drawing canvas') := by
  obtain ⟨radius, center, r, hradius, hcenter, hr, houtcome, hprinted⟩ := exists_drawing_of_succeeds h
  obtain ⟨radius', center', r', hradius', hcenter', hr', houtcome', hprinted'⟩ := exists_drawing_of_succeeds h'
  rw [hi] at hradius
  rw [hj] at hradius'
  rw [← hsurface] at hcenter'
  obtain rfl := Except.ok.inj (hcenter.symm.trans hcenter')
  have hle : i ≤ j := le_of_lt hij
  constructor
  · refine ⟨_, _, houtcome, houtcome', rfl, inOrder_ringRadius hspacing hle hradius hradius', ?_⟩
    rintro s rfl
    exact exact_ringRadius hspacing hij hradius hradius'
  · exact ⟨_, _, _, _, hprinted, hprinted', inOrder_printed hspacing hle hradius hradius' hr hr'⟩

theorem fitsInto_of_lt :
    FitsInto ((Step.ring layer spacing).drawing canvas) ((Step.ring layer' spacing).drawing canvas') := by
  intro x y text hmem x' y' text' hmem'
  obtain ⟨radius, center, r, hradius, hr, hcircle⟩ := eq_circleTexts_of_mem hmem
  obtain ⟨radius', center', r', hradius', hr', hcircle'⟩ := eq_circleTexts_of_mem hmem'
  rw [hi] at hradius
  rw [hj] at hradius'
  simp only [circleTexts, List.cons.injEq, and_true] at hcircle hcircle'
  rw [hcircle.2.2, hcircle'.2.2]
  exact inOrder_printed hspacing (le_of_lt hij) hradius hradius' hr hr'

end Order

/-! ## Runs -/

/-- **Rings of one positive spacing grow with their index.** -/
theorem growing_of_positive {spacing : Number} (hspacing : PositiveSpacing spacing) : Growing spacing where
  enclosed := by
    intro canvas canvas' layer layer' i j hsurface hi hj hij h h'
    exact enclosed_of_lt hspacing hi hj hij hsurface h h'
  uncovered := by
    intro canvas steps hinwards
    rw [Inwards, ← Canvas.map_step_history canvas steps, List.pairwise_map] at hinwards
    refine hinwards.imp ?_
    rintro ⟨canvas₁, step₁⟩ ⟨canvas₂, step₂⟩ hdecreasing layer layer' rfl rfl
    obtain ⟨i, j, hi, hj, hij⟩ := hdecreasing layer layer' rfl rfl
    exact fitsInto_of_lt hspacing hi hj hij

end Circles

section Witness

attribute [local instance] DigitLimit.standard

/-- Half of the range, 2^1023: twice as much is an infinity already. -/
def halfRange : Number := .real (.finite false (1 <<< 2097) (by decide +kernel))

/-- The ring around an infinite one. -/
theorem halfRange_growing :
    PositiveSpacing halfRange ∧
      Enclosed halfRange (-1) 2 ((Step.ring ⟨.whole (-1), "", "", []⟩ halfRange).drawing (.blank 410 410))
        ((Step.ring ⟨.whole 2, "", "", []⟩ halfRange).drawing (.blank 410 410)) := by
  have hpositive : PositiveSpacing halfRange := by
    refine ⟨magnitude (1 <<< 2097), rfl, div_pos ?_ unit_cast_pos⟩
    exact_mod_cast one_shiftLeft_pos 2097
  refine ⟨hpositive, (growing_of_positive hpositive).enclosed rfl rfl rfl (by decide) ?_ ?_⟩
  · decide +kernel
  · decide +kernel

end Witness

end Ring

end Concentric
