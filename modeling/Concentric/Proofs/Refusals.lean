import Concentric.Proofs.Binary64.Overflow
import Concentric.Proofs.Outcome
import Concentric.Proofs.Run

/-!
# What builders refuse

The only arithmetic that fails is the conversion of a whole number that is beyond the doubles. Of a connector only
the clip region needs it: it refuses a whole number from 2^1024 - 2^970 on and nothing else. Where digits are
limited, a line that cannot be written is refused before its clip region. A connector that is refused leaves the
canvas as it is, and only a width that cannot be written interrupts a connector behind its first lines
(`connector_refused_or_whole`).
-/

namespace Concentric

/-! ## Numbers and regions -/

/-- **A whole number that has no nearest double.** -/
def Number.OutOfRange : Number → Prop
  | .whole z => Binary64.overflowBound ≤ z.natAbs
  | .real _ => False

namespace Number

instance : DecidablePred OutOfRange
  | .whole z => inferInstanceAs (Decidable (Binary64.overflowBound ≤ z.natAbs))
  | .real _ => inferInstanceAs (Decidable False)

theorem exists_outOfRange_iff {numbers : List Number} :
    (∃ n ∈ numbers, n.OutOfRange) ↔
      ∃ z : Int, .whole z ∈ numbers ∧ Binary64.overflowBound ≤ z.natAbs := by
  constructor
  · rintro ⟨n, hmem, hrange⟩
    cases n with
    | whole z => exact ⟨z, hmem, hrange⟩
    | real x => exact hrange.elim
  · rintro ⟨z, hmem, hrange⟩
    exact ⟨.whole z, hmem, hrange⟩

/-- **The conversion to a double fails out of range.** -/
theorem failsExactlyIf_toReal (n : Number) : FailsExactlyIf n.toReal .integerTooLarge n.OutOfRange := by
  intro e
  cases n with
  | whole z =>
    show realOfInt z = .error e ↔ e = .integerTooLarge ∧ Binary64.overflowBound ≤ z.natAbs
    rw [realOfInt, ← Binary64.ofInt?_eq_none_iff]
    cases Binary64.ofInt? z with
    | none =>
      constructor
      · intro h
        exact ⟨(Except.error.inj h).symm, rfl⟩
      · rintro ⟨rfl, -⟩
        rfl
    | some x =>
      refine iff_of_false ?_ (fun h => Option.some_ne_none x h.2)
      intro h
      cases h
  | real x => exact FailsExactlyIf.ok x e

/-- With a whole number up to 2^53 on the right an operation succeeds, whatever stands on the left. -/
theorem exists_combine_natCast (exact : Int → Int → Int) (rounded : Binary64 → Binary64 → Binary64)
    (n : Number) {k : Nat} (hbits : k ≤ 1 <<< 53) : ∃ m, combine exact rounded n (.whole k) = .ok m := by
  cases n with
  | whole z => exact ⟨_, rfl⟩
  | real x =>
    rw [combine, realOfInt_of_le hbits]
    exact ⟨_, rfl⟩

/-- The doubles end long before the limit of digits. -/
theorem writable_of_not_outOfRange [DigitLimit] {n : Number} (h : ¬ n.OutOfRange) : n.Writable := by
  cases n with
  | whole z =>
    have hrange : z.natAbs < Binary64.overflowBound := Nat.lt_of_not_le h
    exact writable_of_lt (by omega)
  | real x => exact writable_real x

/-- An operation that does not move a number far makes it too long only if it was out of range. -/
theorem writable_or_outOfRange_of_combine [DigitLimit] {exact : Int → Int → Int}
    {rounded : Binary64 → Binary64 → Binary64} {n m : Number} {k : Int} (hk : k.natAbs < Binary64.overflowBound)
    (hnear : ∀ z, (exact z k).natAbs ≤ z.natAbs + k.natAbs) (h : combine exact rounded n (.whole k) = .ok m) :
    m.Writable ∨ n.OutOfRange := by
  cases n with
  | whole z =>
    obtain rfl := Except.ok.inj h
    by_cases hrange : Binary64.overflowBound ≤ z.natAbs
    · exact .inr hrange
    · have hsum := hnear z
      exact .inl (writable_of_lt (by omega))
  | real x =>
    rw [combine] at h
    cases hreal : realOfInt k with
    | error e =>
      rw [hreal] at h
      cases h
    | ok y =>
      rw [hreal] at h
      obtain rfl := Except.ok.inj h
      exact .inl (writable_real _)

end Number

theorem Point.failsExactlyIf_toReal (p : Point Number) :
    FailsExactlyIf p.toReal .integerTooLarge (p.x.OutOfRange ∨ p.y.OutOfRange) := by
  have hpoint := p.x.failsExactlyIf_toReal.bind fun x => p.y.failsExactlyIf_toReal.bind fun y =>
    FailsExactlyIf.ok (⟨x, y⟩ : Point Binary64)
  exact hpoint.congr (by simp)

/-- **The clip region of a segment fails** if one of the five numbers that it is computed from is out of
range. -/
theorem Segment.failsExactlyIf_clipRegion (s : Segment) (width : Number) :
    FailsExactlyIf (s.clipRegion width) .integerTooLarge
      (∃ n ∈ [s.start.x, s.start.y, s.stop.x, s.stop.y, width], n.OutOfRange) := by
  have hregion := s.start.failsExactlyIf_toReal.bind fun first =>
    s.stop.failsExactlyIf_toReal.bind fun second =>
      width.failsExactlyIf_toReal.bind fun w => FailsExactlyIf.ok (corners first second w)
  exact hregion.congr (by simp [or_assoc])

/-! ## Connectors -/

namespace Connector

/-- **The segment that is drawn:** the ends of a clipped one are moved by the margin. -/
theorem exists_drawnSegment (span : Segment) (options : ConnectorOptions) :
    ∃ left right, drawnSegment span options = .ok ⟨⟨left, span.start.y⟩, ⟨right, span.stop.y⟩⟩ ∧
      if options.clipping then
        span.start.x.sub Style.clipMargin = .ok left ∧ span.stop.x.add Style.clipMargin = .ok right
      else left = span.start.x ∧ right = span.stop.x := by
  have hmargin : 100 ≤ 1 <<< 53 := by decide
  obtain ⟨left, hleft⟩ := span.start.x.exists_combine_natCast (· - ·) (· - ·) hmargin
  obtain ⟨right, hright⟩ := span.stop.x.exists_combine_natCast (· + ·) (· + ·) hmargin
  have hleft' : span.start.x.sub Style.clipMargin = .ok left := hleft
  have hright' : span.stop.x.add Style.clipMargin = .ok right := hright
  unfold drawnSegment
  by_cases hclipping : options.clipping = true
  · simp only [if_pos hclipping]
    refine ⟨left, right, ?_, hleft', hright'⟩
    rw [Segment.extend, hleft', hright']
    rfl
  · simp only [if_neg hclipping]
    exact ⟨span.start.x, span.stop.x, rfl, rfl, rfl⟩

theorem failsExactlyIf_clipRegion? (span : Segment) (options : ConnectorOptions) :
    FailsExactlyIf (clipRegion? span options) .integerTooLarge
      (options.clipping = true ∧
        ∃ n ∈ [span.start.x, span.start.y, span.stop.x, span.stop.y, options.width], n.OutOfRange) := by
  unfold clipRegion?
  by_cases hclipping : options.clipping = true
  · rw [if_pos hclipping]
    exact ((span.failsExactlyIf_clipRegion options.width).map some).congr (by simp [hclipping])
  · rw [if_neg hclipping]
    exact (FailsExactlyIf.ok _).congr (by simp [hclipping])

theorem length_labelLines (id : String) (options : ConnectorOptions) :
    (labelLines id options).length = if options.label.getD "" = "" then 0 else 1 := by
  unfold labelLines
  cases hlabel : options.label with
  | none => rfl
  | some text =>
    by_cases hempty : text = ""
    · simp [nonempty?, hempty]
    · simp [nonempty?, hempty]

/-- The numbers of a connector. -/
def numbers (span : Segment) (options : ConnectorOptions) : List Number :=
  [span.start.x, span.start.y, span.stop.x, span.stop.y, options.width]

section Endings

variable [DigitLimit]

/-- **A clipped line without a text is beyond the doubles:** moving its ends does not make them that much longer. -/
theorem outOfRange_of_not_writable {span segment : Segment} {options : ConnectorOptions}
    (hclipping : options.clipping = true) (hsegment : drawnSegment span options = .ok segment)
    (hnot : ¬ segment.Writable) : ∃ n ∈ numbers span options, n.OutOfRange := by
  obtain ⟨left, right, hdrawn, hends⟩ := exists_drawnSegment span options
  rw [if_pos hclipping] at hends
  obtain rfl := Except.ok.inj (hsegment.symm.trans hdrawn)
  have hmargin : (100 : Int).natAbs < Binary64.overflowBound := by decide +kernel
  have hleft : left.Writable ∨ span.start.x.OutOfRange :=
    Number.writable_or_outOfRange_of_combine hmargin (fun z => by omega) hends.1
  have hright : right.Writable ∨ span.stop.x.OutOfRange :=
    Number.writable_or_outOfRange_of_combine hmargin (fun z => by omega) hends.2
  by_contra hrange
  simp only [numbers, List.mem_cons, List.not_mem_nil, or_false, exists_eq_or_imp, exists_eq_left, not_or] at hrange
  obtain ⟨hx, hy, hx', hy', -⟩ := hrange
  refine hnot (List.forall_mem_cons.mpr ⟨hleft.resolve_right hx, ?_⟩)
  simp only [List.forall_mem_cons]
  exact ⟨Number.writable_of_not_outOfRange hy, hright.resolve_right hx', Number.writable_of_not_outOfRange hy',
    List.forall_mem_nil _⟩

/-- **When a connector fails:** a clipped one if one of its numbers is out of range, another one if one of its numbers
has no text. -/
theorem draw_fails_iff (canvas : Canvas) (span : Segment) (options : ConnectorOptions) :
    (∃ e, (draw canvas span options).outcome = .error e) ↔
      (options.clipping = true ∧ ∃ n ∈ numbers span options, n.OutOfRange) ∨
        (options.clipping = false ∧ ∃ n ∈ numbers span options, ¬ n.Writable) := by
  have hdrawn := drawn canvas span options
  generalize draw canvas span options = drawing at hdrawn ⊢
  cases hdrawn with
  | refused e cause =>
    refine iff_of_true ⟨e, rfl⟩ ?_
    obtain ⟨left, right, hsegment, -⟩ := exists_drawnSegment span options
    rcases cause with hfailed | ⟨segment, hsegment, hpath | ⟨-, hclip⟩⟩
    · exact nomatch hsegment.symm.trans hfailed
    · have hnot : ¬ segment.Writable := by
        intro hwritable
        rw [segment.pathText_eq, if_pos hwritable] at hpath
        exact nomatch hpath
      cases hclipping : options.clipping with
      | true => exact .inl ⟨rfl, outOfRange_of_not_writable hclipping hsegment hnot⟩
      | false =>
        obtain rfl := Except.ok.inj ((drawnSegment_of_unclipped hclipping).symm.trans hsegment)
        obtain ⟨n, hn, hlong⟩ : ∃ n ∈ [span.start.x, span.start.y, span.stop.x, span.stop.y], ¬ n.Writable := by
          by_contra hnone
          exact hnot fun n hn => by_contra fun hlong => hnone ⟨n, hn, hlong⟩
        exact .inr ⟨rfl, n, List.mem_append_left [options.width] hn, hlong⟩
    · exact .inl ((failsExactlyIf_clipRegion? span options e).mp hclip).2
  | interrupted cause =>
    exact iff_of_true ⟨_, rfl⟩ (.inr ⟨cause.unclipped, options.width, by simp [numbers], cause.width⟩)
  | whole hsegment hwritable hclip hwidth =>
    refine iff_of_false nofun ?_
    rintro (hrange | ⟨hunclipped, n, hn, hlong⟩)
    · exact nomatch hclip.symm.trans ((failsExactlyIf_clipRegion? span options _).mpr ⟨rfl, hrange⟩)
    · obtain rfl := Except.ok.inj ((drawnSegment_of_unclipped hunclipped).symm.trans hsegment)
      have hmem : n ∈ [span.start.x, span.start.y, span.stop.x, span.stop.y] ++ [options.width] := hn
      rcases List.mem_append.mp hmem with hcoordinate | hlast
      · exact hlong (hwritable n hcoordinate)
      · exact hlong (List.mem_singleton.mp hlast ▸ hwidth)

/-- **How a connector ends** on a canvas. -/
structure RefusedOrWhole (canvas : Canvas) (span : Segment) (options : ConnectorOptions) : Prop where
  /-- A connector fails if it is clipped and one of its numbers is a whole one beyond the doubles, or is not clipped and
  one of its numbers is too long to be written. -/
  fails_iff : (∃ e, ((Step.connector span options).drawing canvas).outcome = .error e) ↔
    (options.clipping = true ∧ ∃ z : Int, .whole z ∈ numbers span options ∧ Binary64.overflowBound ≤ z.natAbs) ∨
      (options.clipping = false ∧ ∃ n ∈ numbers span options, ¬ n.Writable)
  /-- A line that has no text is refused for its digits, and the canvas stays as it is. -/
  unwritten : ∀ segment, drawnSegment span options = .ok segment → ¬ segment.Writable →
    ((Step.connector span options).drawing canvas).outcome = .error .tooManyDigits ∧
      canvas.after (.connector span options) = canvas
  /-- If the line has a text, a clip region beyond the doubles is refused, and the canvas stays as it is. -/
  unclipped : ∀ segment, drawnSegment span options = .ok segment → segment.Writable → options.clipping = true →
    (∃ z : Int, .whole z ∈ numbers span options ∧ Binary64.overflowBound ≤ z.natAbs) →
      ((Step.connector span options).drawing canvas).outcome = .error .integerTooLarge ∧
        canvas.after (.connector span options) = canvas
  /-- If the line has a text and is not clipped, a width without a text leaves the definition of the marker, unless it
  was there, and the tag that opens the group. -/
  interrupted : options.clipping = false → span.Writable → ¬ options.width.Writable →
    ((Step.connector span options).drawing canvas).outcome = .error .tooManyDigits ∧
      canvas.after (.connector span options) =
        ⟨canvas.toSurface, canvas.defs ++ missingMarkerLines (attached options) canvas.defs,
          canvas.body ++ [groupTag (id canvas.body.length) false]⟩
  /-- A connector that succeeds is painted with three lines, and a fourth one for its label. -/
  painted : ∀ answer, ((Step.connector span options).drawing canvas).outcome = .ok answer →
    ∃ lines, (canvas.after (.connector span options)).body = canvas.body ++ lines ∧
      lines.length = if options.label.getD "" = "" then 3 else 4

end Endings

end Connector

/-- What a drawing without lines leaves. -/
theorem Canvas.add_nil {α : Type} (canvas : Canvas) (outcome : Except ArithmeticError α) :
    canvas.add ⟨[], [], outcome⟩ = canvas := by
  simp [add]

section Law

variable [DigitLimit]

/-- **A connector is refused or whole,** unless its width is too long to be written. -/
theorem connector_refused_or_whole (canvas : Canvas) (span : Segment) (options : ConnectorOptions) :
    Connector.RefusedOrWhole canvas span options := by
  have hadded := Step.drawing_connector canvas span options
  have hfails : (∃ e, ((Step.connector span options).drawing canvas).outcome = .error e) ↔
      ∃ e, (Connector.draw canvas span options).outcome = .error e := by
    simp only [hadded, map_eq_error_iff]
  refine ⟨?_, ?_, ?_, ?_, ?_⟩
  · rw [hfails, Connector.draw_fails_iff, Number.exists_outOfRange_iff]
  · intro segment hsegment hnot
    rw [Canvas.after, hadded, Connector.draw_of_not_writable hsegment hnot]
    exact ⟨rfl, canvas.add_nil _⟩
  · intro segment hsegment hwritable hclipping hrange
    have hclip := (Connector.failsExactlyIf_clipRegion? span options .integerTooLarge).mpr
      ⟨rfl, hclipping, Number.exists_outOfRange_iff.mpr hrange⟩
    rw [Canvas.after, hadded, Connector.draw_of_clip_error hsegment hwritable hclip]
    exact ⟨rfl, canvas.add_nil _⟩
  · intro hunclipped hline hwidth
    rw [Canvas.after, hadded, Connector.draw_of_interrupted ⟨hunclipped, hline, hwidth⟩]
    exact ⟨rfl, rfl⟩
  · intro answer hanswer
    have hdrawn := Connector.drawn canvas span options
    rw [hadded] at hanswer
    rw [Canvas.after, hadded]
    generalize Connector.draw canvas span options = drawing at hdrawn hanswer ⊢
    cases hdrawn with
    | refused e cause => exact nomatch hanswer
    | interrupted cause => exact nomatch hanswer
    | @whole segment clip =>
      refine ⟨Connector.lines (Connector.id canvas.body.length) segment.plainPathText clip.isSome options, rfl, ?_⟩
      rw [Connector.lines, List.length_append, Connector.length_labelLines]
      split <;> rfl

end Law

section Digits

attribute [local instance] DigitLimit.standard

/-- The line to the largest position that can be written. -/
def longSpan : Segment := ⟨⟨0, 0⟩, ⟨.whole (10 ^ 4300 - 1 : Nat), 0⟩⟩

/-- **Digits stop a connector as well:** a clipped one before its position is found to be beyond the doubles, and one
without clipping behind the tag that opens its group. -/
theorem digits_stop_connector :
    (Binary64.overflowBound ≤ 10 ^ 4300 - 1 ∧
      ((Step.connector longSpan { clipping := true }).drawing (.blank 410 410)).outcome = .error .tooManyDigits) ∧
    ((Step.connector ⟨⟨0, 0⟩, ⟨10, 0⟩⟩ { width := .whole (10 ^ 4300 : Nat) }).drawing (.blank 410 410)).outcome =
        .error .tooManyDigits ∧
      ((Step.connector ⟨⟨0, 0⟩, ⟨10, 0⟩⟩ { width := .whole (10 ^ 4300 : Nat) }).drawing (.blank 410 410)).body =
        ["<g id=\"connector-0\">"] := by
  rw [Step.drawing_connector, Step.drawing_connector, Connector.draw_of_not_writable rfl (by decide +kernel),
    Connector.draw_of_interrupted ⟨rfl, by decide +kernel, by decide +kernel⟩]
  exact ⟨⟨by decide +kernel, rfl⟩, rfl, by decide⟩

/-- The law at one connector for each of its endings. -/
theorem longSpan_refused :
    (((Step.connector ⟨⟨0, 0⟩, ⟨.whole Binary64.ceiling, 0⟩⟩ { clipping := true }).drawing (.blank 410 410)).outcome =
        .error .integerTooLarge ∧
      (Canvas.blank 410 410).after (.connector ⟨⟨0, 0⟩, ⟨.whole Binary64.ceiling, 0⟩⟩ { clipping := true }) =
        .blank 410 410) ∧
    (Canvas.blank 410 410).after (.connector longSpan { clipping := true }) = .blank 410 410 ∧
    ((Canvas.blank 410 410).after
        (.connector ⟨⟨0, 0⟩, ⟨10, 0⟩⟩ { width := .whole (10 ^ 4300 : Nat) })).defs.length = 3 ∧
    ∃ lines, ((Canvas.blank 410 410).after (.connector longSpan { label := some "far" })).body = [] ++ lines ∧
      lines.length = 4 := by
  have hbeyond := connector_refused_or_whole (.blank 410 410) ⟨⟨0, 0⟩, ⟨.whole Binary64.ceiling, 0⟩⟩
    { clipping := true }
  have hlong := connector_refused_or_whole (.blank 410 410) longSpan { clipping := true }
  have hwide := connector_refused_or_whole (.blank 410 410) ⟨⟨0, 0⟩, ⟨10, 0⟩⟩ { width := .whole (10 ^ 4300 : Nat) }
  have hwhole := connector_refused_or_whole (.blank 410 410) longSpan { label := some "far" }
  refine ⟨hbeyond.unclipped _ rfl (by decide +kernel) rfl ⟨Binary64.ceiling, ?_, by decide +kernel⟩,
    (hlong.unwritten _ rfl (by decide +kernel)).2, ?_, ?_⟩
  · decide +kernel
  · rw [(hwide.interrupted rfl (by decide +kernel) (by decide +kernel)).2]
    decide +kernel
  · cases houtcome : ((Step.connector longSpan { label := some "far" }).drawing (.blank 410 410)).outcome with
    | ok answer => exact hwhole.painted answer houtcome
    | error e =>
      rcases hwhole.fails_iff.mp ⟨e, houtcome⟩ with ⟨hclipping, -⟩ | ⟨-, hlong⟩
      · exact absurd hclipping Bool.false_ne_true
      · exact absurd hlong (by decide +kernel)

end Digits

end Concentric
