import Concentric.Decimal.Text

/-!
# Numbers of a drawing

Lengths, coordinates and flags are either whole numbers of any size or doubles, and the two kinds
print differently. Whole numbers are computed exactly; as soon as a double takes part, the whole
number is converted to the nearest double, which fails beyond the range of finite doubles. Half of a
whole number is a double as well and has a range of its own. Computing with whole numbers has no bound,
but writing them may have one: where the digits are limited, a longer whole number has no text.
-/

namespace Concentric

/-- **How many digits a whole number may be written with:** any number, or a bound that is not too low.
The bound is a setting under which a program runs, so it is an instance and not an argument. -/
class DigitLimit where
  most : Option Nat
  floor : ∀ bound ∈ most, 640 ≤ bound

namespace DigitLimit

/-- The usual bound. -/
@[reducible]
def standard : DigitLimit where
  most := some 4300
  floor := by simp

/-- Whole numbers of any length are written. -/
@[reducible]
def unlimited : DigitLimit where
  most := none
  floor := by simp

/-- An integer that is not too long to be written. -/
def Admits [DigitLimit] (z : Int) : Prop :=
  ∀ bound ∈ most, (Decimal.digitChars z.natAbs).length ≤ bound

instance [DigitLimit] (z : Int) : Decidable (Admits z) :=
  inferInstanceAs (Decidable (∀ bound ∈ most, (Decimal.digitChars z.natAbs).length ≤ bound))

end DigitLimit

/-- Why a step with numbers has no result. -/
inductive ArithmeticError where
  /-- A whole number is beyond the finite doubles. -/
  | integerTooLarge
  /-- Half of a whole number is beyond the finite doubles. -/
  | quotientTooLarge
  /-- A whole number has more digits than can be written. -/
  | tooManyDigits
deriving DecidableEq, Repr

/-- The wording of the error. -/
def ArithmeticError.message [DigitLimit] : ArithmeticError → String
  | .integerTooLarge => "int too large to convert to float"
  | .quotientTooLarge => "integer division result too large for a float"
  | .tooManyDigits =>
    "Exceeds the limit (" ++ String.ofList (Decimal.digitChars (DigitLimit.most.getD 0)) ++
      " digits) for integer string conversion; use sys.set_int_max_str_digits() to increase the limit"

/-- **A number:** whole or real. -/
inductive Number where
  | whole (value : Int)
  | real (value : Binary64)
deriving DecidableEq

namespace Number

instance (n : Nat) : OfNat Number n := ⟨.whole n⟩

/-- The nearest double to a whole number. -/
def realOfInt (z : Int) : Except ArithmeticError Binary64 :=
  (Binary64.ofInt? z).elim (.error .integerTooLarge) .ok

/-- Up to 2^53 the nearest double is the whole number itself, so there is one. -/
theorem realOfInt_of_le {n : Nat} (hbits : n ≤ 1 <<< 53) : realOfInt n = .ok (Binary64.ofNat n) := by
  rw [realOfInt, Binary64.ofInt?_natCast hbits, Option.elim_some]

/-- The number as a double. -/
def toReal : Number → Except ArithmeticError Binary64
  | .whole z => realOfInt z
  | .real x => .ok x

/-! ## Arithmetic -/

/-- An operation with an exact form on whole numbers and a rounded one on doubles. -/
def combine (exact : Int → Int → Int) (rounded : Binary64 → Binary64 → Binary64) :
    Number → Number → Except ArithmeticError Number
  | .whole a, .whole b => .ok (.whole (exact a b))
  | .whole a, .real y => do return .real (rounded (← realOfInt a) y)
  | .real x, .whole b => do return .real (rounded x (← realOfInt b))
  | .real x, .real y => .ok (.real (rounded x y))

/-- Sum. -/
def add : Number → Number → Except ArithmeticError Number := combine (· + ·) (· + ·)

/-- Difference. -/
def sub : Number → Number → Except ArithmeticError Number := combine (· - ·) (· - ·)

/-- Product. -/
def mul : Number → Number → Except ArithmeticError Number := combine (· * ·) (· * ·)

/-- Half, always a double. -/
def half : Number → Except ArithmeticError Binary64
  | .whole z => (Binary64.halfOfInt? z).elim (.error .quotientTooLarge) .ok
  | .real x => .ok x.half

/-! ## Text -/

/-- The digits of an integer behind its sign. -/
def integerChars (z : Int) : List Char :=
  Decimal.signChars (z < 0) ++ Decimal.digitChars z.natAbs

/-- The exact text of a number without regard to its length. -/
def plainText : Number → String
  | .whole z => String.ofList (integerChars z)
  | .real x => String.ofList x.exactChars

/-- The text of a path argument without regard to its length: whole numbers bare, doubles with one
decimal place. -/
def plainArgumentText : Number → String
  | .whole z => String.ofList (integerChars z)
  | .real x => String.ofList x.tenthsChars

variable [DigitLimit]

/-- A number that has a text: a double, or a whole number that is not too long. -/
def Writable : Number → Prop
  | .whole z => DigitLimit.Admits z
  | .real _ => True

instance : DecidablePred Writable
  | .whole z => inferInstanceAs (Decidable (DigitLimit.Admits z))
  | .real _ => inferInstanceAs (Decidable True)

/-- **The exact text,** from which the number and its kind can be read. -/
def text (n : Number) : Except ArithmeticError String :=
  if n.Writable then .ok n.plainText else .error .tooManyDigits

/-- **The text of a path argument.** -/
def argumentText (n : Number) : Except ArithmeticError String :=
  if n.Writable then .ok n.plainArgumentText else .error .tooManyDigits

/-- **The text of a coordinate:** the number as a double, with one decimal place. -/
def coordinateText (n : Number) : Except ArithmeticError String :=
  n.toReal.map fun x => String.ofList x.tenthsChars

end Number

end Concentric
