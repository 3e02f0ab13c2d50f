import Concentric.Geometry.Basic
import Concentric.Proofs.Numeral
import Concentric.Proofs.Text.Avoids

/-!
# Reading a path

The text of a path is split at its blanks. A word that is no numeral is the letter of a command, and the numerals
behind it are its arguments. So letters, arities and kinds come back, and each number as far as it is written
(`readPath_plainPathText`).
-/

namespace Concentric

open Text

/-- **A command as it is written:** a letter, and the numerals that its arguments show. -/
structure WrittenCommand where
  letter : String
  arguments : List Numeral
deriving DecidableEq

/-- How a command is written. -/
def PathCommand.written (command : PathCommand) : WrittenCommand :=
  ⟨command.letter, command.arguments.map Number.shown⟩

/-- The words of a text between its blanks. -/
def words (text : String) : List String := (split ' ' text).filter (· ≠ "")

/-- **Words grouped at the letters:** the numerals in front of the first letter, and the commands. -/
def regroup : List String → List Numeral × List WrittenCommand
  | [] => ([], [])
  | word :: rest =>
    match Numeral.parse? word.toList with
    | some numeral => (numeral :: (regroup rest).1, (regroup rest).2)
    | none => ([], ⟨word, (regroup rest).1⟩ :: (regroup rest).2)

/-- **Reading a path.** -/
def readPath (text : String) : List Numeral × List WrittenCommand := regroup (words text)

/-- **A letter:** one character of the alphabet. -/
def PathCommand.Lettered (command : PathCommand) : Prop :=
  ∃ c : Char, c.isAlpha = true ∧ command.letter = String.singleton c

/-! ## Words -/

/-- The words that a command consists of. -/
def PathCommand.parts (command : PathCommand) : List String :=
  command.letter :: command.arguments.map Number.plainArgumentText

/-- The text of a path is one row of words. -/
theorem plainPathText_eq_intercalate (commands : List PathCommand) :
    plainPathText commands = " ".intercalate (commands.flatMap PathCommand.parts) := by
  induction commands with
  | nil => rfl
  | cons command rest ih =>
    cases rest with
    | nil => simp [plainPathText, PathCommand.plainText, PathCommand.parts]
    | cons next more =>
      have hne : (next :: more).flatMap PathCommand.parts ≠ [] := by
        rw [List.flatMap_cons]
        exact List.cons_ne_nil _ _
      have hparts : command.parts ≠ [] := List.cons_ne_nil _ _
      rw [List.flatMap_cons, String.intercalate_append_of_ne_nil hparts hne, ← ih]
      exact String.intercalate_cons_of_ne_nil (by simp)

/-- No letter is a digit. -/
theorem isDigit_of_isAlpha {c : Char} (h : c.isAlpha = true) : c.isDigit = false := by
  have hfrom : 65 ≤ c.toNat := by
    have hcases : (decide ('A'.val ≤ c.val ∧ c.val ≤ 'Z'.val) ||
        decide ('a'.val ≤ c.val) && decide (c.val ≤ 'z'.val)) = true := h
    simp only [Bool.or_eq_true, Bool.and_eq_true, decide_eq_true_eq, UInt32.le_iff_toNat_le] at hcases
    have hfirst : 65 ≤ c.val.toNat ∨ 97 ≤ c.val.toNat := hcases.imp And.left And.left
    show 65 ≤ c.val.toNat
    omega
  rw [Bool.eq_false_iff]
  intro hdigit
  obtain ⟨-, hnine⟩ := Char.isDigit_iff_toNat.mp hdigit
  exact absurd (Nat.le_trans hfrom hnine) (by decide)

/-- No letter is a numeral. -/
theorem parse?_letter {c : Char} (h : c.isAlpha = true) : Numeral.parse? [c] = none := by
  have hsigns : c ≠ '-' ∧ c ≠ '+' ∧ c ≠ '.' := by
    refine ⟨?_, ?_, ?_⟩ <;> (rintro rfl; exact absurd h (by decide))
  have hdigit := isDigit_of_isAlpha h
  have hsplit : Decimal.splitSign [c] = (false, [c]) :=
    Decimal.splitSign_signChars false hsigns.1 hsigns.2.1 []
  have hnatural : Decimal.natural? [c] = none := Decimal.natural?_eq_none List.mem_cons_self hdigit
  have hfraction : Decimal.splitFraction [c] = ([], [c]) := by
    unfold Decimal.splitFraction
    split
    · next hsame => exact absurd (List.cons.inj hsame).1 hsigns.2.2
    · rfl
  have hnone : Decimal.natural? [] = none := rfl
  have hdecimal : Decimal.parse? [c] = none := by
    unfold Decimal.parse?
    rw [hsplit]
    simp only [List.takeWhile_cons, List.dropWhile_cons, hdigit, Bool.false_eq_true, if_false, hfraction,
      List.append_nil, hnone]
  have hnan : [c] ≠ "nan".toList := by simp
  have hinf : [c] ≠ "inf".toList := by simp
  unfold Numeral.parse?
  rw [hsplit]
  simp only [if_neg hnan, if_neg hinf, hnatural, hdecimal, Option.map_none]

theorem ne_empty_of_mem_parts {command : PathCommand} (h : command.Lettered) :
    ∀ part ∈ command.parts, part ≠ "" := by
  obtain ⟨c, -, hletter⟩ := h
  rw [PathCommand.parts, List.forall_mem_cons]
  constructor
  · rw [hletter]
    intro hempty
    have hlength := congrArg String.length hempty
    rw [String.length_singleton] at hlength
    exact absurd hlength (by decide)
  · intro part hpart
    obtain ⟨n, -, rfl⟩ := List.mem_map.mp hpart
    intro hempty
    have hread := Numeral.parse?_plainArgumentText n
    rw [hempty] at hread
    exact nomatch hread

theorem blank_not_mem_parts {command : PathCommand} (h : command.Lettered) :
    ∀ part ∈ command.parts, ' ' ∉ part.toList := by
  obtain ⟨c, hc, hletter⟩ := h
  rw [PathCommand.parts, List.forall_mem_cons]
  constructor
  · rw [hletter, String.toList_singleton, List.mem_singleton]
    rintro rfl
    exact absurd hc (by decide)
  · intro part hpart
    obtain ⟨n, -, rfl⟩ := List.mem_map.mp hpart
    exact ((numeric_plainArgumentText n).avoids (by decide)).not_mem (List.mem_singleton_self ' ')

/-- Texts without blanks are the words of what they are joined to. -/
theorem words_intercalate {texts : List String} (hne : texts ≠ []) (hempty : ∀ text ∈ texts, text ≠ "")
    (hblank : ∀ text ∈ texts, ' ' ∉ text.toList) : words (" ".intercalate texts) = texts := by
  have hsplit : split ' ' (" ".intercalate texts) = texts := split_intercalate hne hblank
  rw [words, hsplit, List.filter_eq_self]
  intro text htext
  exact decide_eq_true (hempty text htext)

/-- **The words of a path** are those of its commands. -/
theorem words_plainPathText {commands : List PathCommand} (h : ∀ command ∈ commands, command.Lettered) :
    words (plainPathText commands) = commands.flatMap PathCommand.parts := by
  cases commands with
  | nil => decide
  | cons command rest =>
    have hne : (command :: rest).flatMap PathCommand.parts ≠ [] := List.cons_ne_nil _ _
    rw [plainPathText_eq_intercalate]
    refine words_intercalate hne ?_ ?_
    · intro part hpart
      obtain ⟨command, hcommand, hmem⟩ := List.mem_flatMap.mp hpart
      exact ne_empty_of_mem_parts (h command hcommand) part hmem
    · intro part hpart
      obtain ⟨command, hcommand, hmem⟩ := List.mem_flatMap.mp hpart
      exact blank_not_mem_parts (h command hcommand) part hmem

/-! ## Commands -/

theorem regroup_numerals (numbers : List Number) (rest : List String) :
    regroup (numbers.map Number.plainArgumentText ++ rest) =
      (numbers.map Number.shown ++ (regroup rest).1, (regroup rest).2) := by
  induction numbers with
  | nil => rfl
  | cons n numbers ih =>
    rw [List.map_cons, List.cons_append, regroup, Numeral.parse?_plainArgumentText, ih]
    rfl

/-- **The text of a path is read back** as its commands. -/
theorem readPath_plainPathText {commands : List PathCommand} (h : ∀ command ∈ commands, command.Lettered) :
    readPath (plainPathText commands) = ([], commands.map PathCommand.written) := by
  rw [readPath, words_plainPathText h]
  induction commands with
  | nil => rfl
  | cons command rest ih =>
    rw [List.forall_mem_cons] at h
    obtain ⟨c, hc, hletter⟩ := h.1
    have hnone : Numeral.parse? command.letter.toList = none := by
      rw [hletter, String.toList_singleton]
      exact parse?_letter hc
    rw [List.flatMap_cons, PathCommand.parts, List.cons_append, regroup, hnone]
    simp only [regroup_numerals, ih h.2, List.append_nil, List.map_cons, PathCommand.written]

/-- A straight line between whole points is read back exactly. -/
theorem readPath_whole (x1 y1 x2 y2 : Int) :
    readPath (Segment.plainPathText ⟨⟨.whole x1, .whole y1⟩, ⟨.whole x2, .whole y2⟩⟩) =
      ([], [⟨"M", [.whole x1, .whole y1]⟩, ⟨"L", [.whole x2, .whole y2]⟩]) := by
  refine readPath_plainPathText ?_
  rw [Segment.path, List.forall_mem_cons, List.forall_mem_singleton]
  exact ⟨⟨'M', by decide, rfl⟩, ⟨'L', by decide, rfl⟩⟩

end Concentric
