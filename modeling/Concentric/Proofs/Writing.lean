import Concentric.Canvas
import Concentric.Proofs.Binary64.Overflow
import Concentric.Proofs.Outcome

/-!
# What can be written

Where the digits of whole numbers are limited, texts that are put together from numbers exist exactly if all
of these numbers are `Writable`; they are then the texts that are written without regard to the limit
(`pathText_eq`, `Canvas.document_eq`). Numbers of 640 digits are writable under every limit.
-/

namespace Concentric

/-- The letter and the arguments of a command without regard to their lengths. -/
def PathCommand.plainText (command : PathCommand) : String :=
  " ".intercalate (command.letter :: command.arguments.map Number.plainArgumentText)

/-- The text of a path without regard to the lengths of its numbers. -/
def plainPathText (commands : List PathCommand) : String :=
  " ".intercalate (commands.map PathCommand.plainText)

/-- The text of a straight line without regard to the lengths of its numbers. -/
def Segment.plainPathText (s : Segment) : String := Concentric.plainPathText s.path

namespace Canvas

/-- The lines of a document without regard to the lengths of its numbers. -/
def plainLines (canvas : Canvas) (style : Option String) : List String :=
  header canvas.width.plainText canvas.height.plainText :: canvas.contentLines style

/-- The text of a document without regard to the lengths of its numbers. -/
def plainDocument (canvas : Canvas) (style : Option String) : String :=
  "\n".intercalate (canvas.plainLines style) ++ "\n"

end Canvas

variable [DigitLimit]

namespace DigitLimit

/-- An integer of at most 640 digits can be written under every limit. -/
theorem admits_of_lt {z : Int} {digits : Nat} (hpositive : 0 < digits) (hdigits : digits ≤ 640)
    (h : z.natAbs < 10 ^ digits) : Admits z := by
  intro bound hbound
  have hlength : (Decimal.digitChars z.natAbs).length ≤ digits :=
    (Nat.length_toDigits_le_iff (by decide) hpositive).mpr h
  exact (hlength.trans hdigits).trans (floor bound hbound)

theorem admits_of_unlimited (h : most = none) (z : Int) : Admits z := by
  intro bound hbound
  rw [h] at hbound
  exact nomatch hbound

end DigitLimit

namespace Number

theorem text_of_writable {n : Number} (h : n.Writable) : n.text = .ok n.plainText := if_pos h

theorem text_of_not_writable {n : Number} (h : ¬ n.Writable) : n.text = .error .tooManyDigits := if_neg h

theorem writable_real (x : Binary64) : (real x).Writable := trivial

/-- The doubles end long before the limit of digits. -/
theorem writable_of_lt {z : Int} (h : z.natAbs < 2 * Binary64.overflowBound) : (whole z).Writable := by
  have hbound : 2 * Binary64.overflowBound ≤ 10 ^ 400 := by decide +kernel
  exact DigitLimit.admits_of_lt (by decide) (by decide) (Nat.lt_of_lt_of_le h hbound)

/-- **What can be converted to a double can be written.** -/
theorem writable_of_toReal {n : Number} {x : Binary64} (h : n.toReal = .ok x) : n.Writable := by
  cases n with
  | whole z =>
    apply writable_of_lt
    apply Nat.lt_of_not_le
    intro hrange
    have hbound : Binary64.overflowBound ≤ z.natAbs := by omega
    rw [toReal, realOfInt, (Binary64.ofInt?_eq_none_iff z).mpr hbound] at h
    cases h
  | real x => exact writable_real x

theorem argumentText_eq (n : Number) :
    n.argumentText = if n.Writable then .ok n.plainArgumentText else .error .tooManyDigits := rfl

/-- Without a limit every number is writable. -/
theorem writable_of_unlimited (n : Number) (h : DigitLimit.most = none) : n.Writable := by
  cases n with
  | whole z => exact DigitLimit.admits_of_unlimited h z
  | real x => exact trivial

end Number

/-! ## Paths -/

/-- All arguments of a command are writable. -/
def PathCommand.Writable (command : PathCommand) : Prop := ∀ n ∈ command.arguments, n.Writable

instance : DecidablePred PathCommand.Writable := fun command =>
  List.decidableBAll Number.Writable command.arguments

theorem PathCommand.text_eq (command : PathCommand) :
    command.text = if command.Writable then .ok command.plainText else .error .tooManyDigits := by
  have harguments : command.arguments.mapM Number.argumentText =
      if command.Writable then .ok (command.arguments.map Number.plainArgumentText) else .error .tooManyDigits :=
    mapM_eq_ite Number.argumentText_eq command.arguments
  rw [text, harguments]
  split <;> rfl

/-- **A path has a text if all its arguments are writable.** -/
theorem pathText_eq (commands : List PathCommand) :
    pathText commands =
      if ∀ command ∈ commands, command.Writable then .ok (plainPathText commands) else .error .tooManyDigits := by
  rw [pathText, mapM_eq_ite PathCommand.text_eq commands]
  split <;> rfl

theorem pathText_of_writable {commands : List PathCommand} (h : ∀ command ∈ commands, command.Writable) :
    pathText commands = .ok (plainPathText commands) := by
  rw [pathText_eq, if_pos h]

theorem exists_pathText_iff (commands : List PathCommand) :
    (∃ text, pathText commands = .ok text) ↔ ∀ command ∈ commands, command.Writable := by
  rw [pathText_eq]
  exact exists_ite_eq_ok_iff

/-- A text that a path has is the plain one. -/
theorem eq_plainPathText_of_pathText_eq_ok {commands : List PathCommand} {text : String}
    (h : pathText commands = .ok text) : plainPathText commands = text := by
  rw [pathText_eq] at h
  exact eq_of_ite_eq_ok h

/-- The four coordinates of a segment are writable. -/
def Segment.Writable (s : Segment) : Prop :=
  ∀ n ∈ [s.start.x, s.start.y, s.stop.x, s.stop.y], n.Writable

instance : DecidablePred Segment.Writable := fun s =>
  List.decidableBAll Number.Writable [s.start.x, s.start.y, s.stop.x, s.stop.y]

theorem Segment.pathText_eq (s : Segment) :
    s.pathText = if s.Writable then .ok s.plainPathText else .error .tooManyDigits := by
  have hiff : (∀ command ∈ s.path, command.Writable) ↔ s.Writable := by
    simp [path, PathCommand.Writable, Writable, and_assoc]
  rw [pathText, Concentric.pathText_eq]
  exact ite_cond_congr (propext hiff)

/-! ## Documents -/

/-- Both sides of a surface are writable. -/
def Surface.Writable (s : Surface) : Prop := s.width.Writable ∧ s.height.Writable

instance : DecidablePred Surface.Writable := fun s =>
  inferInstanceAs (Decidable (s.width.Writable ∧ s.height.Writable))

/-- **A document has a text if its size is writable.** -/
theorem Canvas.document_eq (canvas : Canvas) (style : Option String) :
    canvas.document style =
      if canvas.toSurface.Writable then .ok (canvas.plainDocument style) else .error .tooManyDigits := by
  unfold document
  by_cases hwidth : canvas.width.Writable
  · by_cases hheight : canvas.height.Writable
    · rw [Number.text_of_writable hwidth, Number.text_of_writable hheight, if_pos ⟨hwidth, hheight⟩]
      rfl
    · rw [Number.text_of_writable hwidth, Number.text_of_not_writable hheight, if_neg fun h => hheight h.2]
      rfl
  · rw [Number.text_of_not_writable hwidth, if_neg fun h => hwidth h.1]
    rfl

theorem Canvas.exists_document_iff (canvas : Canvas) (style : Option String) :
    (∃ text, canvas.document style = .ok text) ↔ canvas.toSurface.Writable := by
  rw [document_eq]
  exact exists_ite_eq_ok_iff

/-- A text that a document has is the plain one. -/
theorem Canvas.eq_plainDocument_of_document_eq_ok {canvas : Canvas} {style : Option String} {text : String}
    (h : canvas.document style = .ok text) : canvas.plainDocument style = text := by
  rw [document_eq] at h
  exact eq_of_ite_eq_ok h

end Concentric
