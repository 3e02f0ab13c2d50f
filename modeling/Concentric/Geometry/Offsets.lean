import Concentric.Number

/-!
# Offsets along an arc

Labels along an arc stand at the centres of equal segments. Positions are percentages of the length of
the arc, computed in doubles from the length of one segment.
-/

namespace Concentric

/-- The length of one of `count` equal segments, as a percentage. -/
def segmentLength (count : Binary64) : Binary64 := Binary64.ofNat 100 / count

/-- The centre of the segment with a number, counted from zero. -/
def segmentCenter (length : Binary64) (number : Nat) : Binary64 :=
  Binary64.ofNat number * length + length.half

/-- **The centres of equal segments.** -/
def segmentCenters (count : Nat) : List Binary64 :=
  (List.range count).map (segmentCenter (segmentLength (.ofNat count)))

theorem length_segmentCenters (count : Nat) : (segmentCenters count).length = count := by
  simp [segmentCenters]

/-! ## Counts of any size

A count that is computed elsewhere can be negative or too large. The number of centres is the count
rounded to a double and read as a signed word of 64 bits, and the centres, eight bytes each, must be
addressable by such a word. `segmentCentersOfInt_natCast` says that none of this is felt up to 2^53.
-/

/-- Why the centres cannot be listed. -/
inductive OffsetError where
  /-- The count is beyond the finite doubles, so that a segment has no length. -/
  | noLength (cause : ArithmeticError)
  /-- The number of centres is beyond the words. -/
  | tooMany
  /-- The bytes of the centres are beyond the words. -/
  | tooLarge
deriving DecidableEq, Repr

/-- The wording of the error. -/
def OffsetError.message [DigitLimit] : OffsetError → String
  | .noLength cause => cause.message
  | .tooMany => "Maximum allowed size exceeded"
  | .tooLarge =>
    "array is too big; `arr.size * arr.dtype.itemsize` is larger than the maximum possible size."

/-- The least positive number that is not a signed word of 64 bits. -/
def wordBound : Nat := 1 <<< 63

/-- The bytes of one centre. -/
def centerBytes : Nat := 8

/-- **The number of centres** for a count. A negative count has none. A magnitude of `wordBound` is
let through on both sides; the positive one is then read as the least of the words, which is negative. -/
def centerNumber (count : Int) : Except OffsetError Nat :=
  let size := Binary64.roundNat count.natAbs
  if wordBound < size then
    .error .tooMany
  else if count < 0 ∨ size = wordBound then
    .ok 0
  else if wordBound ≤ size * centerBytes then
    .error .tooLarge
  else
    .ok size

theorem centerNumber_natCast {count : Nat} (hbits : count ≤ 1 <<< 53) :
    centerNumber count = .ok count := by
  have hsize : Binary64.roundNat (count : Int).natAbs = count := by
    rw [Int.natAbs_natCast]
    exact Binary64.roundNat_of_le hbits
  rw [Nat.one_shiftLeft] at hbits
  simp only [centerNumber, hsize, wordBound, centerBytes, Nat.one_shiftLeft]
  rw [if_neg (by omega), if_neg (by omega), if_neg (by omega)]

/-- **The centres for a count of any size.** The length of a segment comes before their number. -/
def segmentCentersOfInt (count : Int) : Except OffsetError (List Binary64) := do
  let _ ← (Number.realOfInt count).mapError .noLength
  return segmentCenters (← centerNumber count)

theorem segmentCentersOfInt_natCast {count : Nat} (hbits : count ≤ 1 <<< 53) :
    segmentCentersOfInt count = .ok (segmentCenters count) := by
  rw [segmentCentersOfInt, Number.realOfInt_of_le hbits, centerNumber_natCast hbits]
  rfl

end Concentric
