import Concentric.Decimal.Layout

/-!
# Decimal texts of a double

Three texts of a double differ in the digits that they keep: the exact text identifies the double,
coordinates keep one decimal place, and offsets along a path six significant digits. The latter two go to
the nearest multiple of a power of ten and resolve ties to even; the sign of a number that rounds to zero
stays.

## The fewest digits

A positive magnitude is compared with the decimal grids of 1, 2, … 17 digits. On each grid only its
two neighbours can read back as the same number if any point does; the nearer one is tried first. The
first grid with a hit gives the digits. Reading back is not a second notion: it is
`Decimal.toBinary64` itself.
-/

namespace Concentric

namespace Decimal

/-- The power of ten at the first digit of a positive magnitude: 10^324 times it has an integral part. -/
def leadOf (quanta : Nat) : Int :=
  (digitChars (quanta * Nat.pow 10 324 / Binary64.unit)).length - 325

/-- The magnitude over `10 ^ exponent`: its numerator. -/
def scaledNumerator (quanta : Nat) (exponent : Int) : Nat :=
  quanta * Nat.pow 10 (-exponent).toNat

/-- The magnitude over `10 ^ exponent`: its denominator. -/
def scaledDenominator (exponent : Int) : Nat := Binary64.unit * Nat.pow 10 exponent.toNat

/-- The multiple of `10 ^ exponent` nearest to the magnitude, ties to even. -/
def nearestMultiple (quanta : Nat) (exponent : Int) : Nat :=
  roundQuotient (scaledNumerator quanta exponent) (scaledDenominator exponent)

/-- The other one of the two multiples of `10 ^ exponent` around the magnitude. -/
def otherMultiple (quanta : Nat) (exponent : Int) : Nat :=
  let below := scaledNumerator quanta exponent / scaledDenominator exponent
  if nearestMultiple quanta exponent = below then below + 1 else below

/-- Whether a number is the magnitude, without a sign. -/
def isMagnitude (quanta : Nat) : Binary64 → Bool
  | .finite false same _ => same = quanta
  | _ => false

/-- Whether `digits * 10 ^ exponent` reads back as the magnitude. -/
def readsBack (quanta digits : Nat) (exponent : Int) : Bool :=
  isMagnitude quanta (Decimal.mk false digits exponent).toBinary64

/-- The digits on one grid that read back, the nearer ones first. -/
def onGrid? (quanta : Nat) (exponent : Int) : Option Decimal :=
  if readsBack quanta (nearestMultiple quanta exponent) exponent then
    some ⟨false, nearestMultiple quanta exponent, exponent⟩
  else if readsBack quanta (otherMultiple quanta exponent) exponent then
    some ⟨false, otherMultiple quanta exponent, exponent⟩
  else
    none

/-- The magnitude itself, digit by digit. -/
def expansion (quanta : Nat) : Decimal :=
  ⟨false, quanta * Nat.pow 5 Binary64.unitExponent, -Binary64.unitExponent⟩

/-- **The shortest decimal that reads back** as a positive magnitude. -/
def shortest (quanta : Nat) : Decimal :=
  let lead := leadOf quanta
  ((List.range 17).findSome? fun (count : Nat) => onGrid? quanta (lead - count)).getD (expansion quanta)

end Decimal

namespace Binary64

/-- **The exact text:** the fewest digits that identify the number. -/
def exactChars : Binary64 → List Char
  | .finite negative quanta _ =>
    let decimal := if quanta = 0 then ⟨false, 0, 0⟩ else Decimal.shortest quanta
    Decimal.signChars negative ++ Decimal.Layout.exact.magnitude decimal.digits decimal.exponent
  | .infinite negative => Decimal.signChars negative ++ "inf".toList
  | .nan => "nan".toList

/-! ## Rounded texts -/

/-- The magnitude in tenths, rounded. -/
def tenths (quanta : Nat) : Nat := roundQuotient (quanta * 10) unit

/-- **One decimal place,** always positional. -/
def tenthsChars : Binary64 → List Char
  | .finite negative quanta _ =>
    Decimal.signChars negative ++ Decimal.digitChars (tenths quanta / 10) ++
      '.' :: Decimal.digitChars (tenths quanta % 10)
  | .infinite negative => Decimal.signChars negative ++ "inf".toList
  | .nan => "nan".toList

/-- The power of ten of the last of six significant digits. -/
def sixthPlace (quanta : Nat) : Int := Decimal.leadOf quanta - 5

/-- **Six significant digits,** trailing zeros dropped. -/
def generalChars : Binary64 → List Char
  | .finite negative quanta _ =>
    let digits := if quanta = 0 then 0 else Decimal.nearestMultiple quanta (sixthPlace quanta)
    Decimal.signChars negative ++ Decimal.Layout.general.magnitude digits (sixthPlace quanta)
  | .infinite negative => Decimal.signChars negative ++ "inf".toList
  | .nan => "nan".toList

end Binary64

end Concentric
