import Concentric.Binary64.Basic

/-!
# Decimal numbers and their text

A decimal is a sign, a natural and a power of ten. `Decimal.parse?` reads one from its text, with or
without a point and an exponent; `Decimal.toBinary64` is the double-precision number nearest to it.
Together they say what it means that a text *reads back* as a number.
-/

namespace Concentric

/-- The value `± digits * 10 ^ exponent`. -/
structure Decimal where
  negative : Bool
  digits : Nat
  exponent : Int
deriving DecidableEq, Repr

namespace Decimal

/-! ## The nearest double-precision number -/

/-- The numerator of the magnitude, over `denominator`. -/
def numerator (d : Decimal) : Nat := d.digits * Nat.pow 10 d.exponent.toNat

/-- The denominator of the magnitude: the power of ten of a negative exponent. -/
def denominator (d : Decimal) : Nat := Nat.pow 10 (-d.exponent).toNat

/-- **The nearest double-precision number.** -/
def toBinary64 (d : Decimal) : Binary64 :=
  .ofRatio d.negative (d.numerator * Binary64.unit) d.denominator

/-! ## Reading -/

/-- Takes a leading sign off a text; `true` stands for a minus sign. -/
def splitSign : List Char → Bool × List Char
  | '-' :: rest => (true, rest)
  | '+' :: rest => (false, rest)
  | text => (false, text)

/-- The value of a nonempty text of decimal digits. -/
def natural? (text : List Char) : Option Nat :=
  if text ≠ [] ∧ text.all Char.isDigit then some (Nat.ofDigitChars 10 text 0) else none

/-- The exponent that follows the digits: nothing, or `e` and a whole number. -/
def exponent? : List Char → Option Int
  | [] => some 0
  | mark :: rest =>
    if mark = 'e' ∨ mark = 'E' then
      (natural? (splitSign rest).2).map fun n => if (splitSign rest).1 then -(n : Int) else n
    else
      none

/-- The digits after a point, and what follows them. -/
def splitFraction : List Char → List Char × List Char
  | '.' :: rest => (rest.takeWhile Char.isDigit, rest.dropWhile Char.isDigit)
  | text => ([], text)

/-- **Reading a decimal:** a sign, digits with at most one point among them, an exponent. -/
def parse? (text : List Char) : Option Decimal :=
  let (negative, unsigned) := splitSign text
  let whole := unsigned.takeWhile Char.isDigit
  let (fraction, rest) := splitFraction (unsigned.dropWhile Char.isDigit)
  match natural? (whole ++ fraction), exponent? rest with
  | some digits, some exponent => some ⟨negative, digits, exponent - fraction.length⟩
  | _, _ => none

end Decimal

namespace Binary64

/-- **Reading a double-precision number:** a decimal rounded to nearest, an infinity, or `nan`. -/
def parse? (text : List Char) : Option Binary64 :=
  let (negative, unsigned) := Decimal.splitSign text
  if unsigned = "nan".toList then
    some .nan
  else if unsigned = "inf".toList then
    some (.infinite negative)
  else
    (Decimal.parse? text).map Decimal.toBinary64

end Binary64

end Concentric
