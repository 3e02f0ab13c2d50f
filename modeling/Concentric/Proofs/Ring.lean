import Concentric.Proofs.Text.Avoids
import Concentric.Ring

/-!
# The ways a ring can end

`Ring.draw` stops before its first line, behind the tag that opens its group or behind its circle, or it gets
through. `Ring.Drawn` lists the four drawings that can come out, each with what it presupposes; `Ring.drawn`
says that there are no others. From the middle of the band on everything is computed in doubles, where no
step can fail.
-/

namespace Concentric

open Markup Drawing Text

namespace Number

/-- With a double on the right the result is a double. -/
theorem combine_real (exact : Int → Int → Int) (rounded : Binary64 → Binary64 → Binary64) (n : Number)
    (y : Binary64) : combine exact rounded n (.real y) = n.toReal.map fun x => .real (rounded x y) := by
  cases n with
  | whole z =>
    rw [combine, toReal]
    cases realOfInt z <;> rfl
  | real x => rfl

/-- With a double on the left it is one as well. -/
theorem real_combine (exact : Int → Int → Int) (rounded : Binary64 → Binary64 → Binary64) (x : Binary64)
    (n : Number) : combine exact rounded (.real x) n = n.toReal.map fun y => .real (rounded x y) := by
  cases n with
  | whole z =>
    rw [combine, toReal]
    cases realOfInt z <;> rfl
  | real y => rfl

theorem sub_real (n : Number) (y : Binary64) :
    n.sub (.real y) = n.toReal.map fun x => .real (x - y) :=
  combine_real _ _ n y

theorem real_add_real (x y : Binary64) : (Number.real x).add (.real y) = .ok (.real (x + y)) := rfl

end Number

/-- A half circle whose centre and radius are doubles. -/
def realArc (radius : Binary64) (center : Point Binary64) (sweep : Number) : List PathCommand :=
  [⟨"M", [.real (center.x - radius), .real center.y]⟩,
   ⟨"A", [.real radius, .real radius, 0, 0, sweep, .real (center.x + radius), .real center.y]⟩]

theorem halfCircle_real (radius : Binary64) (center : Point Binary64) (sweep : Number) :
    halfCircle (.real radius) center.ofReal sweep = .ok (realArc radius center sweep) := rfl

/-- The text of a half circle avoids what its two letters, blanks and numbers avoid. -/
theorem avoids_realArc {forbidden : List Char} (radius : Binary64) (center : Point Binary64) (sweep : Number)
    (hletters : Avoids "M A" forbidden) (hforbidden : forbidden.any isNumberChar = false) :
    Avoids (plainPathText (realArc radius center sweep)) forbidden := by
  have hparts : "M A" = "M" ++ " " ++ "A" := by decide
  rw [hparts, avoids_append, avoids_append] at hletters
  obtain ⟨⟨hstart, hblank⟩, harc⟩ := hletters
  refine avoids_plainPathText ?_ hblank hforbidden
  simp only [realArc, List.forall_mem_cons]
  exact ⟨hstart, harc, List.forall_mem_nil _⟩

namespace Ring

/-- The line that opens the group of a ring. -/
def groupTag (index : Number) : String := openTag "g" [⟨"id", id index.plainText⟩]

/-- The circle of a ring around a centre. -/
def circleLine (layer : Layer) (center : Point Binary64) (radius : Binary64) : String :=
  circleElement (String.ofList center.x.tenthsChars) (String.ofList center.y.tenthsChars)
    (String.ofList radius.tenthsChars) layer.color

/-- The definition of the upper path. `middle` is the radius of the middle of the band. -/
def upperPath (layer : Layer) (center : Point Binary64) (middle : Binary64) : String :=
  pathElement (upperId layer.index.plainText) (plainPathText (realArc (middle - Style.baselineShift) center 1))

/-- The definition of the lower path. -/
def lowerPath (layer : Layer) (center : Point Binary64) (middle : Binary64) : String :=
  pathElement (lowerId layer.index.plainText) (plainPathText (realArc (middle + Style.baselineShift) center 0))

/-- The definitions of a ring: without components there is no lower path. -/
def definitions (layer : Layer) (center : Point Binary64) (middle : Binary64) : List String :=
  upperPath layer center middle ::
    if layer.components.isEmpty then [] else [lowerPath layer center middle]

/-- The lines of a whole ring. -/
def lines (layer : Layer) (center : Point Binary64) (radius : Binary64) : List String :=
  [groupTag layer.index, circleLine layer center radius,
    nameLabel layer.index.plainText layer.label] ++
    componentLabels layer.index.plainText layer.components ++ [closeTag "g"]

/-- The left edge of a circle whose radius has a text can be computed. -/
theorem leftEdge_eq (center : Point Binary64) {radius : Number} {r : Binary64} (hr : radius.toReal = .ok r) :
    (⟨center.ofReal, radius⟩ : Circle).leftEdge = .ok (.real (center.x - r)) := by
  show Number.combine _ _ (.real center.x) radius = _
  rw [Number.real_combine, hr]
  rfl

/-- There are as many centres as components, so that no component is left out. -/
theorem map_labelled {β : Type} (components : List String) (f : String → β) :
    ((components.zip (segmentCenters components.length)).map fun labelled => f labelled.1) =
      components.map f := by
  have hnames : (components.zip (segmentCenters components.length)).map Prod.fst = components :=
    List.map_fst_zip (Nat.le_of_eq (length_segmentCenters _).symm)
  conv => rhs; rw [← hnames]
  rw [List.map_map]
  rfl

variable [DigitLimit]

/-- **The drawings of a ring.** -/
inductive Drawn (surface : Surface) (layer : Layer) (spacing : Number) : Drawing Circle → Prop
  /-- The radius or the centre has no value, or the index has no text: nothing is drawn. -/
  | refused (e : ArithmeticError)
      (cause : ringRadius layer.index spacing = .error e ∨
        (∃ radius, ringRadius layer.index spacing = .ok radius) ∧
          (surface.center = .error e ∨
            (∃ center, surface.center = .ok center) ∧ layer.index.text = .error e)) :
      Drawn surface layer spacing ⟨[], [], .error e⟩
  /-- The radius has no text: the group is open. -/
  | opened (e : ArithmeticError) {radius : Number} {center : Point Binary64}
      (hradius : ringRadius layer.index spacing = .ok radius) (hcenter : surface.center = .ok center)
      (hindex : layer.index.Writable) (cause : radius.toReal = .error e) :
      Drawn surface layer spacing ⟨[], [groupTag layer.index], .error e⟩
  /-- The spacing has no half: the group is open and the circle is drawn. -/
  | circled (e : ArithmeticError) {radius : Number} {center : Point Binary64} {r : Binary64}
      (hradius : ringRadius layer.index spacing = .ok radius) (hcenter : surface.center = .ok center)
      (hindex : layer.index.Writable) (hr : radius.toReal = .ok r) (cause : spacing.half = .error e) :
      Drawn surface layer spacing ⟨[], [groupTag layer.index, circleLine layer center r], .error e⟩
  /-- The ring is whole. -/
  | whole {radius : Number} {center : Point Binary64} {r half : Binary64}
      (hradius : ringRadius layer.index spacing = .ok radius) (hcenter : surface.center = .ok center)
      (hindex : layer.index.Writable) (hr : radius.toReal = .ok r) (hhalf : spacing.half = .ok half) :
      Drawn surface layer spacing
        ⟨definitions layer center (r - half), lines layer center r, .ok ⟨center.ofReal, radius⟩⟩

/-- An arc of doubles can be written: its only whole numbers are its flags. -/
theorem pathText_realArc (radius : Binary64) (center : Point Binary64) {sweep : Number}
    (hsweep : sweep.Writable) :
    pathText (realArc radius center sweep) = .ok (plainPathText (realArc radius center sweep)) := by
  have hflag : (0 : Number).Writable := Number.writable_of_lt (by decide +kernel)
  refine pathText_of_writable ?_
  simp only [realArc, PathCommand.Writable, List.forall_mem_cons]
  exact ⟨⟨trivial, trivial, List.forall_mem_nil _⟩,
    ⟨trivial, trivial, hflag, hflag, hsweep, trivial, trivial, List.forall_mem_nil _⟩, List.forall_mem_nil _⟩

/-- The components' part of a ring, which cannot fail. -/
theorem drawComponents_real (index : String) (components : List String) (center : Point Binary64)
    (radius : Binary64) :
    drawComponents index components center.ofReal (.real radius) =
      ⟨if components.isEmpty then [] else
          [pathElement (lowerId index) (plainPathText (realArc radius center 0))],
        componentLabels index components, .ok ()⟩ := by
  have hsweep : (0 : Number).Writable := Number.writable_of_lt (by decide +kernel)
  unfold drawComponents
  cases components with
  | nil => rfl
  | cons component rest =>
    rw [halfCircle_real, attempt_ok_bind, pathText_realArc radius center hsweep]
    rfl

/-- **A ring ends in one of the four ways.** -/
theorem drawn (surface : Surface) (layer : Layer) (spacing : Number) :
    Drawn surface layer spacing (draw surface layer spacing) := by
  unfold draw
  cases hradius : ringRadius layer.index spacing with
  | error e => exact .refused e (.inl hradius)
  | ok radius =>
    rw [attempt_ok_bind]
    cases hcenter : surface.center with
    | error e => exact .refused e (.inr ⟨⟨radius, hradius⟩, .inl hcenter⟩)
    | ok center =>
      rw [attempt_ok_bind]
      by_cases hindex : layer.index.Writable
      · simp only [Number.text_of_writable hindex, attempt_ok_bind, Number.coordinateText, Number.sub_real]
        cases hr : radius.toReal with
        | error e => exact .opened e hradius hcenter hindex hr
        | ok r =>
          cases hhalf : spacing.half with
          | error e => exact .circled e hradius hcenter hindex hr hhalf
          | ok half =>
            -- From here on all numbers are doubles and every step succeeds.
            have hsweep : (1 : Number).Writable := Number.writable_of_lt (by decide +kernel)
            have hupper := pathText_realArc ((r - half) - Style.baselineShift) center hsweep
            have hcomponents := drawComponents_real layer.index.plainText layer.components center
              ((r - half) + Style.baselineShift)
            have hwhole := Drawn.whole hradius hcenter hindex hr hhalf
            simp only [Except.map, attempt_ok_bind, Number.toReal, Number.real_add_real, halfCircle_real,
              paint_bind, define_bind, ok_bind, hupper, hcomponents, pure_eq]
            simpa [lines, definitions, upperPath, lowerPath, groupTag, circleLine] using hwhole
      · have htext : layer.index.text = .error .tooManyDigits := Number.text_of_not_writable hindex
        rw [htext]
        exact .refused _ (.inr ⟨⟨radius, hradius⟩, .inr ⟨⟨center, hcenter⟩, htext⟩⟩)

/-- With all its numbers a ring is whole. -/
theorem draw_eq {surface : Surface} {layer : Layer} {spacing radius : Number} {center : Point Binary64}
    {r half : Binary64} (hradius : ringRadius layer.index spacing = .ok radius)
    (hcenter : surface.center = .ok center) (hindex : layer.index.Writable) (hr : radius.toReal = .ok r)
    (hhalf : spacing.half = .ok half) :
    draw surface layer spacing =
      ⟨definitions layer center (r - half), lines layer center r, .ok ⟨center.ofReal, radius⟩⟩ := by
  have hdrawn := drawn surface layer spacing
  generalize draw surface layer spacing = drawing at hdrawn ⊢
  cases hdrawn with
  | refused e cause =>
    rcases cause with hfailed | ⟨-, hfailed | ⟨-, hfailed⟩⟩
    · exact nomatch hradius.symm.trans hfailed
    · exact nomatch hcenter.symm.trans hfailed
    · exact nomatch (Number.text_of_writable hindex).symm.trans hfailed
  | opened e hradius' hcenter' hindex' cause =>
    obtain rfl := Except.ok.inj (hradius.symm.trans hradius')
    exact nomatch hr.symm.trans cause
  | circled e hradius' hcenter' hindex' hr' cause => exact nomatch hhalf.symm.trans cause
  | whole hradius' hcenter' hindex' hr' hhalf' =>
    obtain rfl := Except.ok.inj (hradius.symm.trans hradius')
    obtain rfl := Except.ok.inj (hcenter.symm.trans hcenter')
    obtain rfl := Except.ok.inj (hr.symm.trans hr')
    obtain rfl := Except.ok.inj (hhalf.symm.trans hhalf')
    rfl

end Ring

end Concentric
