import Concentric.Decimal.Basic

/-!
# Laying out decimal digits

Digits and the place of the first one are chosen elsewhere; a `Layout` decides how they are written.
Between 10^-4 and a bound the number is written positionally, elsewhere with one digit before the
point and an exponent of a sign and at least two digits. Trailing zeros are never significant.
-/

namespace Concentric.Decimal

/-- How chosen digits are written. -/
structure Layout where
  /-- Numbers whose first digit stands at this power of ten or above get an exponent. -/
  positionalBelow : Int
  /-- Whole numbers written positionally end in a point and a zero. -/
  pointZero : Bool

/-- The layout that identifies a double: positional below 10^16 and visibly fractional. -/
def Layout.exact : Layout where
  positionalBelow := 16
  pointZero := true

/-- The layout of six significant digits: positional below 10^6, whole numbers bare. -/
def Layout.general : Layout where
  positionalBelow := 6
  pointZero := false

/-- Drops the zeros at the end. -/
def dropTrailingZeros (digits : List Char) : List Char :=
  (digits.reverse.dropWhile (· = '0')).reverse

/-- The digits of a natural. -/
def digitChars (n : Nat) : List Char := Nat.toDigits 10 n

/-- The digits of an exponent, two at least. -/
def exponentDigits (n : Nat) : List Char :=
  if n < 10 then '0' :: digitChars n else digitChars n

/-- Digits whose first one stands at 10^lead, without an exponent. -/
def positional (layout : Layout) (digits : List Char) (lead : Int) : List Char :=
  if 0 ≤ lead then
    let places := lead.toNat + 1
    let whole := digits.take places ++ List.replicate (places - digits.length) '0'
    match digits.drop places with
    | [] => whole ++ (if layout.pointZero then ['.', '0'] else [])
    | fraction => whole ++ '.' :: fraction
  else
    '0' :: '.' :: (List.replicate ((-lead).toNat - 1) '0' ++ digits)

/-- Digits whose first one stands at 10^lead, with an exponent. -/
def scientific (digits : List Char) (lead : Int) : List Char :=
  let mantissa := match digits with
    | first :: second :: rest => first :: '.' :: second :: rest
    | short => short
  mantissa ++ 'e' :: (if lead < 0 then '-' else '+') :: exponentDigits lead.natAbs

/-- **The text of `digits * 10 ^ exponent`.** -/
def Layout.magnitude (layout : Layout) (digits : Nat) (exponent : Int) : List Char :=
  let chars := digitChars digits
  let lead := chars.length + exponent - 1
  let significant := dropTrailingZeros chars
  if digits = 0 then
    if layout.pointZero then ['0', '.', '0'] else ['0']
  else if -4 ≤ lead ∧ lead < layout.positionalBelow then
    positional layout significant lead
  else
    scientific significant lead

/-- The minus sign of a negative number. -/
def signChars (negative : Bool) : List Char := if negative then ['-'] else []

end Concentric.Decimal
