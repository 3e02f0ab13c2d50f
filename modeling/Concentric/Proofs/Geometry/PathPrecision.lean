import Concentric.Proofs.Decimal.Tenths
import Concentric.Proofs.Geometry.PathReading

/-!
# What the text of a path keeps

A path has a text unless one of its whole numbers is too long to be written (`longPath_refused`). Reading the text
gives back the letters, the arities, the kinds of the arguments and every whole number. A finite double comes back as
the nearest decimal with one place. So the text determines a path up to a tenth in each of its doubles
(`path_decoded`).
-/

namespace Concentric

open Decimal

/-- **A numeral shows a number:** whole numbers and words are exact, and a finite double is shown by the nearest
decimal with one place, of two nearest ones by the one with the even last digit. -/
inductive Numeral.Shows : Numeral → Number → Prop
  | whole (z : Int) : Shows (.whole z) (.whole z)
  | decimal {d : Decimal} {negative : Bool} {quanta : Nat} {representable : Binary64.Representable quanta} {v : ℚ}
      (hvalue : (Binary64.finite negative quanta representable).value? = some v) (hsign : d.negative = negative)
      (hplace : d.exponent = -1) (hnear : |d.value - v| ≤ 1 / 20)
      (htie : |d.value - v| = 1 / 20 → d.digits % 2 = 0) :
      Shows (.decimal d) (.real (.finite negative quanta representable))
  | infinite (negative : Bool) : Shows (.infinite negative) (.real (.infinite negative))
  | nan : Shows .nan (.real .nan)

/-- **Numbers that agree up to a tenth:** equal ones, and finite doubles of one sign whose values differ by no more. -/
inductive Number.Agrees : Number → Number → Prop
  | whole (z : Int) : Agrees (.whole z) (.whole z)
  | finite {negative : Bool} {quanta quanta' : Nat} {representable : Binary64.Representable quanta}
      {representable' : Binary64.Representable quanta'} {v v' : ℚ}
      (hvalue : (Binary64.finite negative quanta representable).value? = some v)
      (hvalue' : (Binary64.finite negative quanta' representable').value? = some v') (hclose : |v - v'| ≤ 1 / 10) :
      Agrees (.real (.finite negative quanta representable)) (.real (.finite negative quanta' representable'))
  | infinite (negative : Bool) : Agrees (.real (.infinite negative)) (.real (.infinite negative))
  | nan : Agrees (.real .nan) (.real .nan)

/-- **A finite double is written positionally** with one place, and with a minus sign exactly if it has one. -/
def Number.Positional [DigitLimit] (n : Number) : Prop :=
  ∀ negative quanta representable, n = .real (.finite negative quanta representable) →
    ∃ text, n.argumentText = .ok text ∧ OnePlace text.toList negative

/-- A written command shows a command: its letter, and its arguments one by one. -/
structure WrittenCommand.Shows (written : WrittenCommand) (command : PathCommand) : Prop where
  letter : written.letter = command.letter
  arguments : List.Forall₂ Numeral.Shows written.arguments command.arguments

/-- Commands that agree up to a tenth. -/
structure PathCommand.Agrees (command other : PathCommand) : Prop where
  letter : command.letter = other.letter
  arguments : List.Forall₂ Number.Agrees command.arguments other.arguments

/-- **What the text of a path keeps.** -/
structure PathDecoded [DigitLimit] (commands : List PathCommand) : Prop where
  /-- There is a text if every whole number can be written. -/
  exists_iff : (∃ text, pathText commands = .ok text) ↔
    ∀ command ∈ commands, ∀ argument ∈ command.arguments, ∀ z, argument = .whole z → DigitLimit.Admits z
  /-- Without a limit there always is a text. -/
  unlimited : DigitLimit.most = none → ∃ text, pathText commands = .ok text
  /-- The only reason to have none is the number of digits. -/
  refused : ∀ error, pathText commands = .error error → error = .tooManyDigits
  /-- A text is read back as commands that show the path. -/
  read : ∀ text, pathText commands = .ok text →
    ∃ written, readPath text = ([], written) ∧ List.Forall₂ WrittenCommand.Shows written commands
  /-- The finite doubles are positional. -/
  positional : ∀ command ∈ commands, ∀ argument ∈ command.arguments, argument.Positional
  /-- Paths of one text agree up to a tenth. -/
  agree : ∀ others : List PathCommand, (∀ command ∈ others, command.Lettered) →
    ∀ text, pathText commands = .ok text → pathText others = .ok text →
      List.Forall₂ PathCommand.Agrees commands others

namespace Number

/-- **A path argument is shown by what is read of it.** -/
theorem shows_shown (n : Number) : n.shown.Shows n := by
  cases n with
  | whole z => exact .whole z
  | real x =>
    cases x with
    | finite negative quanta representable =>
      exact .decimal rfl rfl rfl (Binary64.abs_value_tenths_sub_le negative quanta)
        (Binary64.even_of_tie_tenths negative)
    | infinite negative => exact .infinite negative
    | nan => exact .nan

theorem positional [DigitLimit] (n : Number) : n.Positional := by
  rintro negative quanta representable rfl
  refine ⟨_, rfl, ?_⟩
  rw [plainArgumentText, String.toList_ofList]
  exact Binary64.onePlace_tenthsChars negative quanta representable

theorem writable_iff [DigitLimit] (n : Number) : n.Writable ↔ ∀ z, n = .whole z → DigitLimit.Admits z := by
  cases n with
  | whole z => exact ⟨fun h _ hsame => Number.whole.inj hsame ▸ h, fun h => h z rfl⟩
  | real x => exact ⟨fun _ _ hsame => (nomatch hsame), fun _ => trivial⟩

/-- **Numbers that are shown alike agree:** each is within half a tenth of what is shown. -/
theorem agrees_of_shown_eq {n m : Number} (h : n.shown = m.shown) : n.Agrees m := by
  have hn := n.shows_shown
  have hm := m.shows_shown
  rw [← h] at hm
  generalize n.shown = numeral at hn hm
  cases hn with
  | whole z =>
    cases hm
    exact .whole z
  | decimal hvalue hsign hplace hnear htie =>
    cases hm with
    | decimal hvalue' hsign' hplace' hnear' htie' =>
      subst hsign
      subst hsign'
      refine .finite hvalue hvalue' ?_
      rw [abs_le] at hnear hnear' ⊢
      constructor <;> linarith
  | infinite negative =>
    cases hm
    exact .infinite negative
  | nan =>
    cases hm
    exact .nan

end Number

namespace PathCommand

theorem shows_written (command : PathCommand) : command.written.Shows command where
  letter := rfl
  arguments := by
    rw [written, List.forall₂_map_left_iff]
    exact List.forall₂_same.mpr fun n _ => n.shows_shown

theorem agrees_of_written_eq {command other : PathCommand} (h : command.written = other.written) :
    command.Agrees other := by
  obtain ⟨hletter, harguments⟩ := WrittenCommand.mk.inj h
  refine ⟨hletter, ?_⟩
  rw [← List.forall₂_eq_eq_eq, List.forall₂_map_left_iff, List.forall₂_map_right_iff] at harguments
  exact harguments.imp fun _ _ hshown => Number.agrees_of_shown_eq hshown

end PathCommand

/-- **The text of a path with letters is decoded.** -/
theorem path_decoded [DigitLimit] {commands : List PathCommand} (h : ∀ command ∈ commands, command.Lettered) :
    PathDecoded commands where
  exists_iff := by
    rw [exists_pathText_iff]
    simp only [PathCommand.Writable, Number.writable_iff]
  unlimited := by
    intro hunlimited
    rw [exists_pathText_iff]
    exact fun _ _ argument _ => argument.writable_of_unlimited hunlimited
  refused := by
    intro error hfailed
    rw [pathText_eq] at hfailed
    exact eq_of_ite_eq_error hfailed
  read := by
    intro text htext
    refine ⟨commands.map PathCommand.written, ?_, ?_⟩
    · rw [← eq_plainPathText_of_pathText_eq_ok htext]
      exact readPath_plainPathText h
    · rw [List.forall₂_map_left_iff]
      exact List.forall₂_same.mpr fun command _ => command.shows_written
  positional := fun _ _ argument _ => argument.positional
  agree := by
    intro others hothers text htext htext'
    have hsame : plainPathText others = plainPathText commands :=
      (eq_plainPathText_of_pathText_eq_ok htext').trans (eq_plainPathText_of_pathText_eq_ok htext).symm
    have hwritten : commands.map PathCommand.written = others.map PathCommand.written := by
      have hread := readPath_plainPathText hothers
      rw [hsame, readPath_plainPathText h] at hread
      exact (Prod.mk.inj hread).2
    rw [← List.forall₂_eq_eq_eq, List.forall₂_map_left_iff, List.forall₂_map_right_iff] at hwritten
    exact hwritten.imp fun _ _ hsame => PathCommand.agrees_of_written_eq hsame

section Paths

attribute [local instance] DigitLimit.standard

/-- Signed zeros, ties, carries, the least and a huge double, words, a long integer and a command without arguments. -/
def mixedPath : List PathCommand :=
  [⟨"M", [.whole (-10 ^ 30), .real (Decimal.toBinary64 ⟨true, 4, -2⟩)]⟩, ⟨"Z", []⟩,
   ⟨"e", [.real (Decimal.toBinary64 ⟨false, 25, -2⟩), .real (Decimal.toBinary64 ⟨false, 5, -2⟩),
     .real (Decimal.toBinary64 ⟨false, 995, -2⟩), .real (Decimal.toBinary64 ⟨false, 9999, -3⟩)]⟩,
   ⟨"n", [.real (Decimal.toBinary64 ⟨true, 5, -324⟩), .real (Decimal.toBinary64 ⟨false, 1, 22⟩),
     .real (.infinite true), .real .nan]⟩]

theorem mixedPath_decoded :
    (∀ command ∈ mixedPath, command.Lettered) ∧ PathDecoded mixedPath ∧
      pathText mixedPath = .ok ("M -1" ++ String.ofList (List.replicate 30 '0') ++
        " -0.0 Z e 0.2 0.1 9.9 10.0 n -0.0 10000000000000000000000.0 -inf nan") := by
  have hletters : ∀ command ∈ mixedPath, command.Lettered := by
    simp only [mixedPath, List.forall_mem_cons]
    exact ⟨⟨'M', by decide, rfl⟩, ⟨'Z', by decide, rfl⟩, ⟨'e', by decide, rfl⟩, ⟨'n', by decide, rfl⟩,
      List.forall_mem_nil _⟩
  exact ⟨hletters, path_decoded hletters, by decide +kernel⟩

/-- **A path of letters has no text if one of its whole numbers is too long:** this is the line that a clipped
connector would draw from the origin to the largest position that can be written. -/
theorem longPath_refused :
    (∀ command ∈ [PathCommand.mk "M" [.whole (-100), 0], ⟨"L", [.whole (10 ^ 4300 + 99 : Nat), 0]⟩],
      command.Lettered) ∧
      pathText [⟨"M", [.whole (-100), 0]⟩, ⟨"L", [.whole (10 ^ 4300 + 99 : Nat), 0]⟩] = .error .tooManyDigits := by
  refine ⟨?_, ?_⟩
  · rw [List.forall_mem_cons, List.forall_mem_singleton]
    exact ⟨⟨'M', by decide, rfl⟩, ⟨'L', by decide, rfl⟩⟩
  · rw [pathText_eq, if_neg (by decide +kernel)]

end Paths

end Concentric
