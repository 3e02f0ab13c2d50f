import Concentric.Connector
import Concentric.Proofs.Writing

/-!
# The ways a connector can end

A connector adds nothing or all of its lines, unless its width is too long to be written: then it is
interrupted behind the tag that opens its group. `Connector.Drawn` lists the three drawings that can come
out of `Connector.draw`, and `Connector.drawn` says that there are no others.
-/

namespace Concentric

open Markup Drawing

namespace Connector

/-- The marker that a connector attaches. -/
def attached (options : ConnectorOptions) : Option String :=
  if options.drawHead then options.head else none

/-- An empty text counts as none. -/
theorem nonempty?_eq_some {text : Option String} {value : String} (h : nonempty? text = some value) :
    text = some value ∧ value ≠ "" := by
  cases text with
  | none => exact absurd h (by simp [nonempty?])
  | some given =>
    by_cases hempty : given = ""
    · exact absurd h (by simp [nonempty?, hempty])
    · obtain rfl : given = value := by simpa [nonempty?, hempty] using h
      exact ⟨rfl, hempty⟩

theorem nonempty?_of_ne {text : Option String} {value : String} (h : text = some value) (hne : value ≠ "") :
    nonempty? text = some value := by
  rw [h, nonempty?, if_neg hne]

theorem missingMarkerLines_of_none {marker : Option String} (h : nonempty? marker = none)
    (defs : List String) : missingMarkerLines marker defs = [] := by
  rw [missingMarkerLines, h]

theorem missingMarkerLines_of_some {marker : Option String} {name : String}
    (h : nonempty? marker = some name) (defs : List String) :
    missingMarkerLines marker defs =
      if Marker.defined name defs then [] else Marker.headLines name Style.arrowColor := by
  rw [missingMarkerLines, h]

/-- The definition of the path that the label of a connector follows. -/
def labelPaths (id path : String) (options : ConnectorOptions) : List String :=
  match nonempty? options.label with
  | some _ => [emptyElement "path" [⟨"id", labelPathId id⟩, ⟨"d", path⟩]]
  | none => []

/-- The label of a connector. -/
def labelLines (id : String) (options : ConnectorOptions) : List String :=
  match nonempty? options.label with
  | some text =>
    [pathLabel (labelPathId id) (.markup [raisedLabel text]) "50%"
      (attributesText (labelAttributes options))]
  | none => []

theorem drawLabel_eq (id path : String) (options : ConnectorOptions) :
    drawLabel id path options = ⟨labelPaths id path options, labelLines id options, .ok ()⟩ := by
  unfold drawLabel labelPaths labelLines
  cases nonempty? options.label <;> rfl

/-- The definitions of a connector on a canvas with the given ones. -/
def definitions (id path : String) (clip : Option (List (Point Binary64))) (options : ConnectorOptions)
    (defs : List String) : List String :=
  clipLines id clip ++ missingMarkerLines (attached options) (defs ++ clipLines id clip) ++
    labelPaths id path options

/-- The lines of a connector. -/
def lines (id path : String) (clipped : Bool) (options : ConnectorOptions) : List String :=
  [groupTag id clipped, lineElement path options.width.plainText options (attached options), closeTag "g"] ++
    labelLines id options

theorem drawnSegment_of_unclipped {span : Segment} {options : ConnectorOptions}
    (h : options.clipping = false) : drawnSegment span options = .ok span :=
  if_neg (by simp [h])

theorem clipRegion?_of_unclipped {span : Segment} {options : ConnectorOptions}
    (h : options.clipping = false) : clipRegion? span options = .ok none :=
  if_neg (by simp [h])

variable [DigitLimit]

/-- A connector without clipping whose line can be written and whose width cannot: it opens its group and
stops. -/
structure Interrupted (span : Segment) (options : ConnectorOptions) : Prop where
  unclipped : options.clipping = false
  line : span.Writable
  width : ¬ options.width.Writable

instance (span : Segment) (options : ConnectorOptions) : Decidable (Interrupted span options) :=
  decidable_of_iff (options.clipping = false ∧ span.Writable ∧ ¬ options.width.Writable)
    ⟨fun ⟨hunclipped, hline, hwidth⟩ => ⟨hunclipped, hline, hwidth⟩, fun h => ⟨h.unclipped, h.line, h.width⟩⟩

/-- The segment of a connector has no value or no text, or its clip region has no value. -/
def Refused (span : Segment) (options : ConnectorOptions) (e : ArithmeticError) : Prop :=
  drawnSegment span options = .error e ∨
    ∃ segment, drawnSegment span options = .ok segment ∧
      (segment.pathText = .error e ∨ segment.Writable ∧ clipRegion? span options = .error e)

theorem Refused.not_interrupted {span : Segment} {options : ConnectorOptions} {e : ArithmeticError}
    (h : Refused span options e) : ¬ Interrupted span options := by
  intro ⟨hunclipped, hline, hwidth⟩
  rcases h with hfailed | ⟨segment, hsegment, hfailed | ⟨-, hfailed⟩⟩
  · exact nomatch (drawnSegment_of_unclipped hunclipped).symm.trans hfailed
  · obtain rfl := Except.ok.inj ((drawnSegment_of_unclipped hunclipped).symm.trans hsegment)
    rw [Segment.pathText_eq, if_pos hline] at hfailed
    exact nomatch hfailed
  · exact nomatch (clipRegion?_of_unclipped hunclipped).symm.trans hfailed

/-- **The drawings of a connector.** -/
inductive Drawn (canvas : Canvas) (span : Segment) (options : ConnectorOptions) :
    Drawing Connector → Prop
  /-- Nothing is drawn. -/
  | refused (e : ArithmeticError) (cause : Refused span options e) :
      Drawn canvas span options ⟨[], [], .error e⟩
  /-- The width has no text: the marker is defined and the group is open. -/
  | interrupted (cause : Interrupted span options) :
      Drawn canvas span options
        ⟨missingMarkerLines (attached options) canvas.defs, [groupTag (id canvas.body.length) false],
          .error .tooManyDigits⟩
  /-- The connector is whole. -/
  | whole {segment : Segment} {clip : Option (List (Point Binary64))}
      (hsegment : drawnSegment span options = .ok segment) (hwritable : segment.Writable)
      (hclip : clipRegion? span options = .ok clip) (hwidth : options.width.Writable) :
      Drawn canvas span options
        ⟨definitions (id canvas.body.length) segment.plainPathText clip options canvas.defs,
          lines (id canvas.body.length) segment.plainPathText clip.isSome options,
          .ok ⟨segment.plainPathText, clip, attached options⟩⟩

/-- The width of a clip region is converted to a double, so it can be written. -/
theorem writable_of_clipRegion?_eq_ok {span : Segment} {options : ConnectorOptions}
    {clip : Option (List (Point Binary64))} (hclipping : options.clipping = true)
    (hclip : clipRegion? span options = .ok clip) : options.width.Writable := by
  rw [clipRegion?, if_pos hclipping, Segment.clipRegion] at hclip
  cases hwidth : options.width.toReal with
  | ok width => exact Number.writable_of_toReal hwidth
  | error e =>
    rw [hwidth] at hclip
    cases hstart : span.start.toReal with
    | error e => exact nomatch (hstart ▸ hclip)
    | ok start =>
      cases hstop : span.stop.toReal with
      | error e => exact nomatch (hstop ▸ hstart ▸ hclip)
      | ok stop => exact nomatch (hstop ▸ hstart ▸ hclip)

/-! ## One equation for each ending -/

variable {canvas : Canvas} {span segment : Segment} {options : ConnectorOptions}

theorem draw_of_not_writable (hsegment : drawnSegment span options = .ok segment)
    (hnot : ¬ segment.Writable) : draw canvas span options = ⟨[], [], .error .tooManyDigits⟩ := by
  rw [draw, hsegment, attempt_ok_bind, segment.pathText_eq, if_neg hnot]
  rfl

theorem draw_of_clip_error {e : ArithmeticError} (hsegment : drawnSegment span options = .ok segment)
    (hwritable : segment.Writable) (hclip : clipRegion? span options = .error e) :
    draw canvas span options = ⟨[], [], .error e⟩ := by
  rw [draw, hsegment, attempt_ok_bind, segment.pathText_eq, if_pos hwritable, attempt_ok_bind, hclip]
  rfl

theorem draw_of_interrupted (h : Interrupted span options) :
    draw canvas span options =
      ⟨missingMarkerLines (attached options) canvas.defs, [groupTag (id canvas.body.length) false],
        .error .tooManyDigits⟩ := by
  rw [draw, drawnSegment_of_unclipped h.unclipped, attempt_ok_bind, span.pathText_eq, if_pos h.line,
    attempt_ok_bind, clipRegion?_of_unclipped h.unclipped, attempt_ok_bind,
    Number.text_of_not_writable h.width]
  simp only [attempt_error_bind, define_bind, paint_bind]
  simp [clipLines, attached]

theorem draw_of_whole {clip : Option (List (Point Binary64))} (hsegment : drawnSegment span options = .ok segment)
    (hwritable : segment.Writable) (hclip : clipRegion? span options = .ok clip)
    (hwidth : options.width.Writable) :
    draw canvas span options =
      ⟨definitions (id canvas.body.length) segment.plainPathText clip options canvas.defs,
        lines (id canvas.body.length) segment.plainPathText clip.isSome options,
        .ok ⟨segment.plainPathText, clip, attached options⟩⟩ := by
  rw [draw, hsegment, attempt_ok_bind, segment.pathText_eq, if_pos hwritable, attempt_ok_bind, hclip,
    attempt_ok_bind, Number.text_of_writable hwidth]
  simp only [attempt_ok_bind, define_bind, paint_bind, ok_bind, drawLabel_eq, pure_eq]
  simp [lines, definitions, attached]

/-- **A connector ends in one of the three ways.** -/
theorem drawn (canvas : Canvas) (span : Segment) (options : ConnectorOptions) :
    Drawn canvas span options (draw canvas span options) := by
  cases hsegment : drawnSegment span options with
  | error e =>
    rw [draw, hsegment]
    exact .refused e (.inl hsegment)
  | ok segment =>
    by_cases hwritable : segment.Writable
    · cases hclip : clipRegion? span options with
      | error e =>
        rw [draw_of_clip_error hsegment hwritable hclip]
        exact .refused e (.inr ⟨segment, hsegment, .inr ⟨hwritable, hclip⟩⟩)
      | ok clip =>
        by_cases hwidth : options.width.Writable
        · rw [draw_of_whole hsegment hwritable hclip hwidth]
          exact .whole hsegment hwritable hclip hwidth
        · -- Only without a clip region can the width still be too long here.
          have hunclipped : options.clipping = false := by
            rw [Bool.eq_false_iff]
            exact fun hclipping => hwidth (writable_of_clipRegion?_eq_ok hclipping hclip)
          obtain rfl := Except.ok.inj ((drawnSegment_of_unclipped hunclipped).symm.trans hsegment)
          have hinterrupted : Interrupted span options := ⟨hunclipped, hwritable, hwidth⟩
          rw [draw_of_interrupted hinterrupted]
          exact .interrupted hinterrupted
    · have hpath : segment.pathText = .error .tooManyDigits := by rw [segment.pathText_eq, if_neg hwritable]
      rw [draw_of_not_writable hsegment hwritable]
      exact .refused _ (.inr ⟨segment, hsegment, .inl hpath⟩)

end Connector

end Concentric
