import Concentric.Geometry.Clip
import Concentric.Proofs.Geometry.Arcs

/-!
# Clip regions as they are printed

A list of points is read by splitting it at its blanks and each point at its comma (`readPoints?_pointsText`). Whole
numbers of at most 53 bits are doubles, their sums and differences of as many bits are exact, and they are printed
without loss. The region around two whole points is therefore computed and read back exactly (`exists_exactRegion`).
-/

namespace Concentric

open Binary64 Text

/-! ## Printed points -/

/-- **A printed point:** two numbers and a comma between them. -/
def readPoint? (text : String) : Option (Point ℚ) :=
  match split ',' text with
  | [x, y] => do return ⟨← textValue? x, ← textValue? y⟩
  | _ => none

/-- **Reading a list of points** by its values. -/
def readPoints? (text : String) : Option (List (Point ℚ)) := (words text).mapM readPoint?

/-- The values that a point shows. -/
def Point.shown? (p : Point Binary64) : Option (Point ℚ) := do
  return ⟨← (Number.real p.x).shown.value?, ← (Number.real p.y).shown.value?⟩

theorem readPoint?_text (p : Point Binary64) : readPoint? p.text = p.shown? := by
  have hcomma (x : Binary64) : ',' ∉ (String.ofList x.tenthsChars).toList :=
    (avoids_tenths x (by decide)).not_mem (List.mem_singleton_self ',')
  have htext : p.text = ",".intercalate [String.ofList p.x.tenthsChars, String.ofList p.y.tenthsChars] := by
    rw [String.intercalate_cons_of_ne_nil (by simp), String.intercalate_singleton]
    rfl
  have hsplit : split ',' p.text = [String.ofList p.x.tenthsChars, String.ofList p.y.tenthsChars] := by
    rw [htext]
    refine split_intercalate (List.cons_ne_nil _ _) ?_
    simp only [List.forall_mem_cons]
    exact ⟨hcomma p.x, hcomma p.y, List.forall_mem_nil _⟩
  simp only [readPoint?, hsplit, textValue?_tenths, Point.shown?]

/-- **A list of points is read back** as far as it is written. -/
theorem readPoints?_pointsText {points : List (Point Binary64)} (hne : points ≠ []) :
    readPoints? (pointsText points) = points.mapM Point.shown? := by
  have htexts : points.map Point.text ≠ [] := by simpa using hne
  have hempty : ∀ text ∈ points.map Point.text, text ≠ "" := by
    intro text htext hnone
    obtain ⟨p, -, rfl⟩ := List.mem_map.mp htext
    have hcomma : ',' ∈ p.text.toList := by simp [Point.text]
    rw [hnone] at hcomma
    exact absurd hcomma List.not_mem_nil
  have hblank : ∀ text ∈ points.map Point.text, ' ' ∉ text.toList := by
    intro text htext
    obtain ⟨p, -, rfl⟩ := List.mem_map.mp htext
    have hparts : Avoids p.text [' '] :=
      ((avoids_tenths p.x (by decide)).append (by decide)).append (avoids_tenths p.y (by decide))
    exact hparts.not_mem (List.mem_singleton_self ' ')
  rw [readPoints?, pointsText, words_intercalate htexts hempty hblank, List.mapM_map]
  have hread : readPoint? ∘ Point.text = Point.shown? := funext readPoint?_text
  rw [hread]

/-! ## Whole numbers -/

namespace Binary64

/-- **An integer** as a double. -/
def wholes (z : Int) : Binary64 := steps unitExponent z

theorem unitExponent_lt : 53 + unitExponent < ceilingExponent := by decide

theorem zero_eq_wholes : zero false = wholes 0 := by
  rw [zero, wholes, steps, Int.natAbs_zero, Nat.zero_shiftLeft]
  rfl

/-- **A whole number is a whole number of tenths.** -/
theorem tenths_wholes (k : Nat) : tenths (k <<< unitExponent) = 10 * k := by
  have hquanta : k <<< unitExponent * 10 = 10 * k * unit := by
    rw [unit, Nat.one_shiftLeft, Nat.shiftLeft_eq]
    ring
  rw [tenths, hquanta, roundQuotient_mul _ unit_pos]

variable {z : Int} (hbits : z.natAbs ≤ 1 <<< 53)
include hbits

theorem value?_wholes : (wholes z).value? = some (z : ℚ) := by
  have hone : magnitude (1 <<< unitExponent) = 1 := div_self unit_cast_ne_zero
  rw [wholes, value?_steps hbits unitExponent_lt, hone, mul_one]

theorem value?_shown_wholes : (Number.real (wholes z)).shown.value? = some (z : ℚ) := by
  have htenths : ((10 * z.natAbs : Nat) : ℚ) / 10 = z.natAbs * 1 := by
    push_cast
    ring
  rw [wholes, steps_eq_finite hbits unitExponent_lt, Number.shown, tenths_wholes, Numeral.value?,
    Decimal.value_tenths, htenths, withSign_natAbs, mul_one]

/-- **A whole number of 53 bits** is converted without loss. -/
theorem toReal_whole : (Number.whole z).toReal = .ok (wholes z) := by
  have hquanta : z.natAbs * unit = z.natAbs <<< unitExponent := by
    rw [unit, Nat.one_shiftLeft, Nat.shiftLeft_eq]
  have hbounded : (wholes z).bounded? = some (wholes z) := by
    rw [wholes, steps_eq_finite hbits unitExponent_lt, bounded?]
    intro negative hsame
    exact Binary64.noConfusion hsame
  rw [wholes, steps] at hbounded
  rw [Number.toReal, Number.realOfInt, ofInt?, hquanta, hbounded, Option.elim_some, wholes, steps]

end Binary64

/-! ## Regions -/

/-- **The corners** around two points, in values: above them from first to second, below them back. -/
def exactCorners (x1 y1 x2 y2 w : ℚ) : List (Point ℚ) := [⟨x1, y1 - w⟩, ⟨x2, y2 - w⟩, ⟨x2, y2 + w⟩, ⟨x1, y1 + w⟩]

/-- The values of a point. -/
def Point.value? (p : Point Binary64) : Option (Point ℚ) := do return ⟨← p.x.value?, ← p.y.value?⟩

/-- **A region without any rounding:** its corners have the values of exact arithmetic, and so does its text. -/
structure ExactRegion (x1 y1 x2 y2 w : ℚ) (region : List (Point Binary64)) : Prop where
  returned : region.mapM Point.value? = some (exactCorners x1 y1 x2 y2 w)
  printed : readPoints? (pointsText region) = some (exactCorners x1 y1 x2 y2 w)

section Whole

variable {x1 y1 x2 y2 w : Int} (hrange : ∀ z ∈ [x1, y1, x2, y2, w], z.natAbs ≤ 2 ^ 52)
include hrange

/-- What the region around two whole points consists of. -/
theorem clipRegion_whole :
    Segment.clipRegion ⟨⟨.whole x1, .whole y1⟩, ⟨.whole x2, .whole y2⟩⟩ (.whole w) =
      .ok [⟨wholes x1, wholes (y1 - w)⟩, ⟨wholes x2, wholes (y2 - w)⟩, ⟨wholes x2, wholes (y2 + w)⟩,
        ⟨wholes x1, wholes (y1 + w)⟩] := by
  have hbits : (1 <<< 53 : Nat) = 2 ^ 53 := Nat.one_shiftLeft 53
  simp only [List.forall_mem_cons] at hrange
  obtain ⟨hx1, hy1, hx2, hy2, hw, -⟩ := hrange
  have hcast {z : Int} (hz : z.natAbs ≤ 2 ^ 52) : (Number.whole z).toReal = .ok (wholes z) :=
    toReal_whole (by omega)
  have hsub {a b : Int} (ha : a.natAbs ≤ 2 ^ 52) (hb : b.natAbs ≤ 2 ^ 52) : wholes a - wholes b = wholes (a - b) :=
    steps_sub (by omega) (by omega) unitExponent_lt
  have hadd {a b : Int} (ha : a.natAbs ≤ 2 ^ 52) (hb : b.natAbs ≤ 2 ^ 52) : wholes a + wholes b = wholes (a + b) :=
    steps_add (by omega) (by omega) unitExponent_lt
  have hnone : (0 : Int).natAbs ≤ 2 ^ 52 := Nat.zero_le _
  -- Taking off or adding a zero does not move a whole position.
  have hraise {x y : Int} (hx : x.natAbs ≤ 2 ^ 52) (hy : y.natAbs ≤ 2 ^ 52) :
      Point.raise ⟨wholes x, wholes y⟩ (wholes w) = ⟨wholes x, wholes (y - w)⟩ := by
    rw [Point.raise, zero_eq_wholes, hsub hx hnone, hsub hy hw, Int.sub_zero]
  have hlower {x y : Int} (hx : x.natAbs ≤ 2 ^ 52) (hy : y.natAbs ≤ 2 ^ 52) :
      Point.lower ⟨wholes x, wholes y⟩ (wholes w) = ⟨wholes x, wholes (y + w)⟩ := by
    rw [Point.lower, zero_eq_wholes, hadd hx hnone, hadd hy hw, Int.add_zero]
  have hregion : Segment.clipRegion ⟨⟨.whole x1, .whole y1⟩, ⟨.whole x2, .whole y2⟩⟩ (.whole w) =
      .ok (corners ⟨wholes x1, wholes y1⟩ ⟨wholes x2, wholes y2⟩ (wholes w)) := by
    simp only [Segment.clipRegion, Point.toReal, hcast hx1, hcast hy1, hcast hx2, hcast hy2, hcast hw]
    rfl
  rw [hregion, corners, hraise hx1 hy1, hraise hx2 hy2, hlower hx2 hy2, hlower hx1 hy1]

/-- **The region around two whole points in range is exact.** -/
theorem exists_exactRegion :
    ∃ region, Segment.clipRegion ⟨⟨.whole x1, .whole y1⟩, ⟨.whole x2, .whole y2⟩⟩ (.whole w) = .ok region ∧
      ExactRegion x1 y1 x2 y2 w region := by
  have hbits : (1 <<< 53 : Nat) = 2 ^ 53 := Nat.one_shiftLeft 53
  have hclip := clipRegion_whole hrange
  simp only [List.forall_mem_cons] at hrange
  obtain ⟨hx1, hy1, hx2, hy2, hw, -⟩ := hrange
  have hvalue {x y : Int} (hx : x.natAbs ≤ 1 <<< 53) (hy : y.natAbs ≤ 1 <<< 53) :
      Point.value? ⟨wholes x, wholes y⟩ = some ⟨x, y⟩ := by
    simp only [Point.value?, value?_wholes hx, value?_wholes hy]
    rfl
  have hshown {x y : Int} (hx : x.natAbs ≤ 1 <<< 53) (hy : y.natAbs ≤ 1 <<< 53) :
      Point.shown? ⟨wholes x, wholes y⟩ = some ⟨x, y⟩ := by
    simp only [Point.shown?, value?_shown_wholes hx, value?_shown_wholes hy]
    rfl
  have hx1' : x1.natAbs ≤ 1 <<< 53 := by omega
  have hx2' : x2.natAbs ≤ 1 <<< 53 := by omega
  have habove1 : (y1 - w).natAbs ≤ 1 <<< 53 := by omega
  have habove2 : (y2 - w).natAbs ≤ 1 <<< 53 := by omega
  have hbelow1 : (y1 + w).natAbs ≤ 1 <<< 53 := by omega
  have hbelow2 : (y2 + w).natAbs ≤ 1 <<< 53 := by omega
  refine ⟨_, hclip, ?_, ?_⟩
  · simp only [List.mapM_cons, List.mapM_nil, hvalue hx1' habove1, hvalue hx2' habove2, hvalue hx2' hbelow2,
      hvalue hx1' hbelow1, Int.cast_sub, Int.cast_add]
    rfl
  · rw [readPoints?_pointsText (List.cons_ne_nil _ _)]
    simp only [List.mapM_cons, List.mapM_nil, hshown hx1' habove1, hshown hx2' habove2, hshown hx2' hbelow2,
      hshown hx1' hbelow1, Int.cast_sub, Int.cast_add]
    rfl

end Whole

example : readPoints? "-0.0,2.5 3.0,-1.0" = some [⟨0, 5 / 2⟩, ⟨3, -1⟩] := by
  decide +kernel

end Concentric
