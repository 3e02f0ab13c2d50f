import Concentric.Proofs.Geometry.PathReading
import Concentric.Proofs.Refusals

/-!
# Clipped horizontal connectors

A clipped connector is drawn longer than its span. Its start always moves left and its stop always moves right, so
that a line from left to right becomes longer at both ends, while one from right to left becomes shorter, or even
turns around. `clipped_lengthened_iff` says that lengthening is what happens to the former and to no other.
-/

namespace Concentric

/-- **The line from `l` to `r` lengthens the one from `a` to `b`** by a margin past both ends. All four are
positions on one horizontal line. -/
structure Lengthened (margin a b l r : Int) : Prop where
  /-- Every point between `a` and `b` is on the longer line. -/
  covers : ∀ x : ℚ, min (a : ℚ) b ≤ x → x ≤ max (a : ℚ) b → min (l : ℚ) r ≤ x ∧ x ≤ max (l : ℚ) r
  /-- Each end lies beyond the end that it belongs to, on its outer side. -/
  reaches : (a ≤ b ∧ l ≤ a - margin ∧ b + margin ≤ r) ∨ (b ≤ a ∧ r ≤ b - margin ∧ a + margin ≤ l)
  /-- The direction is the same. -/
  directed : (a < b → l < r) ∧ (b < a → r < l)

/-- To the left of the one end and to the right of the other a line from left to right is lengthened. -/
theorem lengthened_of_le {margin a b : Int} (hmargin : 0 ≤ margin) (h : a ≤ b) :
    Lengthened margin a b (a - margin) (b + margin) where
  covers := by
    intro x hleft hright
    have hspan : (a : ℚ) ≤ b := by exact_mod_cast h
    have hstart : ((a - margin : Int) : ℚ) ≤ a := by exact_mod_cast Int.sub_le_self a hmargin
    have hstop : (b : ℚ) ≤ ((b + margin : Int) : ℚ) := by exact_mod_cast Int.le_add_of_nonneg_right hmargin
    rw [min_eq_left hspan] at hleft
    rw [max_eq_right hspan] at hright
    exact ⟨min_le_of_left_le (hstart.trans hleft), le_max_of_le_right (hright.trans hstop)⟩
  reaches := .inl ⟨h, Int.le_refl _, Int.le_refl _⟩
  directed := by omega

/-- A line from right to left would have to reach further right at its start. -/
theorem not_lengthened_of_lt {margin a b : Int} (hmargin : 0 < margin) (h : b < a) :
    ¬ Lengthened margin a b (a - margin) (b + margin) := by
  intro hlengthened
  rcases hlengthened.reaches with ⟨hle, -, -⟩ | ⟨-, hstop, -⟩
  · omega
  · omega

theorem lengthened_iff {margin : Int} (hmargin : 0 < margin) (a b : Int) :
    Lengthened margin a b (a - margin) (b + margin) ↔ a ≤ b := by
  constructor
  · intro hlengthened
    apply Int.not_lt.mp
    intro hlt
    exact not_lengthened_of_lt hmargin hlt hlengthened
  · exact lengthened_of_le (Int.le_of_lt hmargin)

/-! ## The path of a clipped connector -/

namespace Connector

/-- The margin in whole units. -/
def margin : Int := 100

theorem clipMargin_eq : Style.clipMargin = .whole margin := rfl

/-- The horizontal line between two positions. -/
def level (x1 x2 y : Int) : Segment := ⟨⟨.whole x1, .whole y⟩, ⟨.whole x2, .whole y⟩⟩

section Level

variable {options : ConnectorOptions}

/-- The clipped line between two whole points runs a margin further at both ends. -/
theorem drawnSegment_whole (hclipping : options.clipping = true) (x1 y1 x2 y2 : Int) :
    drawnSegment ⟨⟨.whole x1, .whole y1⟩, ⟨.whole x2, .whole y2⟩⟩ options =
      .ok ⟨⟨.whole (x1 - margin), .whole y1⟩, ⟨.whole (x2 + margin), .whole y2⟩⟩ := by
  rw [drawnSegment, if_pos hclipping, clipMargin_eq]
  rfl

variable [DigitLimit]

/-- A clipped connector between positions in range succeeds, and its path is the extended line. -/
theorem exists_path_level (canvas : Canvas) (hclipping : options.clipping = true) {x1 x2 y : Int}
    (hrange : ∀ n ∈ [.whole x1, .whole x2, .whole y, options.width], ¬ n.OutOfRange) :
    ∃ made, (draw canvas (level x1 x2 y) options).outcome = .ok made ∧
      made.path = (level (x1 - margin) (x2 + margin) y).plainPathText := by
  have hdrawn := drawn canvas (level x1 x2 y) options
  have hfails := draw_fails_iff canvas (level x1 x2 y) options
  generalize draw canvas (level x1 x2 y) options = drawing at hdrawn hfails ⊢
  -- What is in range does not fail, so the connector is whole.
  have hsucceeds : ¬ ∃ e, drawing.outcome = .error e := by
    rw [hfails]
    rintro (⟨-, n, hmem, hout⟩ | ⟨hunclipped, -⟩)
    · refine hrange n ?_ hout
      simp only [numbers, level, List.mem_cons, List.not_mem_nil, or_false] at hmem ⊢
      tauto
    · exact Bool.false_ne_true (hunclipped.symm.trans hclipping)
  cases hdrawn with
  | refused e cause => exact absurd ⟨e, rfl⟩ hsucceeds
  | interrupted cause => exact absurd ⟨_, rfl⟩ hsucceeds
  | @whole segment clip hsegment hwritable hclip hwidth =>
    rw [level, drawnSegment_whole hclipping, Except.ok.injEq] at hsegment
    exact ⟨_, rfl, by rw [← hsegment, level]⟩

/-- **A clipped horizontal connector is lengthened exactly if it does not run from right to left.** It succeeds as
long as its numbers are in range, and its path starts a margin to the left of its start and stops a margin to the
right of its stop. -/
theorem clipped_lengthened_iff (canvas : Canvas) (options : ConnectorOptions) {x1 x2 y : Int}
    (hclipping : options.clipping = true)
    (hrange : ∀ n ∈ [.whole x1, .whole x2, .whole y, options.width], ¬ n.OutOfRange) :
    ∃ made, (draw canvas (level x1 x2 y) options).outcome = .ok made ∧
      readPath made.path =
        ([], [⟨"M", [.whole (x1 - margin), .whole y]⟩, ⟨"L", [.whole (x2 + margin), .whole y]⟩]) ∧
      (Lengthened margin x1 x2 (x1 - margin) (x2 + margin) ↔ x1 ≤ x2) := by
  obtain ⟨made, hmade, hpath⟩ := exists_path_level canvas hclipping hrange
  refine ⟨made, hmade, ?_, lengthened_iff (by decide) x1 x2⟩
  rw [hpath, level, readPath_whole]

end Level

section Directions

attribute [local instance] DigitLimit.standard

/-- A connector from left to right reaches a hundred units further at both ends. -/
theorem lengthened_rightward :
    ∃ made, (draw (.blank 410 410) (level 0 10 5) { clipping := true }).outcome = .ok made ∧
      readPath made.path = ([], [⟨"M", [.whole (-100), .whole 5]⟩, ⟨"L", [.whole 110, .whole 5]⟩]) ∧
      Lengthened margin 0 10 (-100) 110 := by
  have hrange : ∀ n ∈ [.whole 0, .whole 10, .whole 5, Style.arrowWidth], ¬ Number.OutOfRange n := by
    decide +kernel
  obtain ⟨made, hmade, hpath, hiff⟩ :=
    clipped_lengthened_iff (.blank 410 410) { clipping := true } rfl hrange
  exact ⟨made, hmade, hpath, hiff.mpr (by decide)⟩

/-- A connector from right to left loses a hundred units at both ends. -/
theorem shortened_leftward :
    (∀ n ∈ [.whole 300, .whole 0, .whole 5, Style.arrowWidth], ¬ Number.OutOfRange n) ∧
      ∃ made, (draw (.blank 410 410) (level 300 0 5) { clipping := true }).outcome = .ok made ∧
        made.path = "M 200 5 L 100 5" ∧
        readPath made.path = ([], [⟨"M", [.whole 200, .whole 5]⟩, ⟨"L", [.whole 100, .whole 5]⟩]) ∧
        ¬ Lengthened margin 300 0 200 100 := by
  have hrange : ∀ n ∈ [.whole 300, .whole 0, .whole 5, Style.arrowWidth], ¬ Number.OutOfRange n := by
    decide +kernel
  have hclipping : ({ clipping := true } : ConnectorOptions).clipping = true := rfl
  obtain ⟨made, hmade, hpath⟩ := exists_path_level (.blank 410 410) hclipping hrange
  refine ⟨hrange, made, hmade, ?_, ?_, not_lengthened_of_lt (by decide) (by decide)⟩
  · rw [hpath]
    decide +kernel
  · rw [hpath]
    exact readPath_whole 200 5 100 5

end Directions

end Connector

end Concentric
