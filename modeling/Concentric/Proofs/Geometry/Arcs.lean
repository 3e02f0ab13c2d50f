import Mathlib.Data.Real.Basic
import Mathlib.Tactic.NormNum
import Concentric.Proofs.Decimal.Tenths
import Concentric.Proofs.Geometry.PathReading
import Concentric.Proofs.Markup.Values
import Concentric.Proofs.Ring

/-!
# Half circles as they are printed

The text of a path is read with the values of its numerals. A half circle in halves of integers is read back without
loss (`readExact?_realArc`). As a set of points it lies on the circle around the middle of its ends, so that half circles
around one centre can only meet if their radii are equal up to the sign (`not_meet_halfArc`).
-/

namespace Concentric

open Binary64 Decimal Markup

/-! ## Values of numerals -/

/-- The value that a numeral stands for. -/
def Numeral.value? : Numeral → Option ℚ
  | .whole z => some z
  | .decimal d => some d.value
  | .infinite _ => none
  | .nan => none

/-- The value of a printed number. -/
def textValue? (text : String) : Option ℚ := (Numeral.parse? text.toList).bind Numeral.value?

theorem textValue?_tenths (x : Binary64) :
    textValue? (String.ofList x.tenthsChars) = (Number.real x).shown.value? := by
  rw [textValue?, String.toList_ofList, Numeral.parse?_tenths, Option.bind_some]

/-- The value of a number. -/
def Number.value? : Number → Option ℚ
  | .whole z => some z
  | .real x => x.value?

/-- **A command with the values of its arguments.** -/
structure ExactCommand where
  letter : String
  arguments : List ℚ
deriving DecidableEq

/-- The values of a written command, if all of them are finite. -/
def WrittenCommand.exact? (written : WrittenCommand) : Option ExactCommand :=
  (written.arguments.mapM Numeral.value?).map (⟨written.letter, ·⟩)

/-- **Reading a path by its values.** -/
def readExact? (text : String) : Option (List ExactCommand) :=
  if (readPath text).1 = [] then (readPath text).2.mapM WrittenCommand.exact? else none

/-- A path that is defined on a line, with its identifier. -/
def definedPath? (line : String) : Option (String × List ExactCommand) :=
  (values? "path" ["id", "d"] line).bind fun
    | [id, path] => (readExact? path).map (id, ·)
    | _ => none

/-- **A printed circle.** -/
structure ExactCircle where
  x : ℚ
  y : ℚ
  radius : ℚ
deriving DecidableEq

/-- The circle on a line. -/
def circleOf? (line : String) : Option ExactCircle :=
  (values? "circle" ["cx", "cy", "r"] line).bind fun texts =>
    (texts.mapM textValue?).bind fun
      | [x, y, radius] => some ⟨x, y, radius⟩
      | _ => none

/-! ## Halves of integers -/

section Halves

variable {z : Int} (hbits : z.natAbs ≤ 1 <<< 53)
include hbits

theorem shown_halves : (Number.real (halves z)).shown = .decimal (ofHalves z) := by
  rw [halves, steps_eq_finite hbits halfExponent_lt, Number.shown, tenths_halves, ofHalves]

theorem value?_shown_halves : (Number.real (halves z)).shown.value? = some ((z : ℚ) / 2) := by
  rw [shown_halves hbits, Numeral.value?, value_ofHalves]

/-- **The text of half an integer is read back exactly.** -/
theorem textValue?_halves : textValue? (String.ofList (halves z).tenthsChars) = some ((z : ℚ) / 2) := by
  rw [textValue?_tenths, value?_shown_halves hbits]

end Halves

/-! ## Half circles -/

/-- **The half circle** from the left to the right, over the top with the sweep 1, in values. -/
def halfArc (radius x y sweep : ℚ) : List ExactCommand :=
  [⟨"M", [x - radius, y]⟩, ⟨"A", [radius, radius, 0, 0, sweep, x + radius, y]⟩]

theorem lettered_realArc (radius : Binary64) (center : Point Binary64) (sweep : Number) :
    ∀ command ∈ realArc radius center sweep, command.Lettered := by
  simp only [realArc, List.forall_mem_cons]
  exact ⟨⟨'M', by decide, rfl⟩, ⟨'A', by decide, rfl⟩, List.forall_mem_nil _⟩

/-- **A half circle in halves of integers is read back without loss,** as long as its ends have 53 bits. -/
theorem readExact?_realArc {r x y : Int} (sweep : Int) (hr : r.natAbs ≤ 1 <<< 53) (hx : x.natAbs ≤ 1 <<< 53)
    (hy : y.natAbs ≤ 1 <<< 53) (hleft : (x - r).natAbs ≤ 1 <<< 53) (hright : (x + r).natAbs ≤ 1 <<< 53) :
    readExact? (plainPathText (realArc (halves r) ⟨halves x, halves y⟩ (.whole sweep))) =
      some (halfArc (r / 2) (x / 2) (y / 2) sweep) := by
  have hends : halves x - halves r = halves (x - r) ∧ halves x + halves r = halves (x + r) :=
    ⟨steps_sub hx hr halfExponent_lt, steps_add hx hr halfExponent_lt⟩
  have hzero : (0 : Number).shown.value? = some (0 : ℚ) := rfl
  have hsweep : (Number.whole sweep).shown.value? = some (sweep : ℚ) := rfl
  have hvalues : ((x - r : Int) : ℚ) / 2 = x / 2 - r / 2 ∧ ((x + r : Int) : ℚ) / 2 = x / 2 + r / 2 := by
    push_cast
    constructor <;> ring
  rw [readExact?, readPath_plainPathText (lettered_realArc _ _ _), if_pos rfl]
  simp only [realArc, hends, List.map_cons, List.map_nil, PathCommand.written, WrittenCommand.exact?,
    List.mapM_cons, List.mapM_nil, value?_shown_halves hr, value?_shown_halves hy, value?_shown_halves hleft,
    value?_shown_halves hright, hzero, hsweep, hvalues]
  rfl

/-- **The points of a half circle:** those of the circle around the middle of its ends that lie on the side of the
sweep. -/
def OnArc (path : List ExactCommand) (x y : ℝ) : Prop :=
  ∃ left top radius sweep right bottom : ℚ,
    path = [⟨"M", [left, top]⟩, ⟨"A", [radius, radius, 0, 0, sweep, right, bottom]⟩] ∧
      (x - (left + right) / 2) ^ 2 + (y - (top + bottom) / 2) ^ 2 = (radius : ℝ) ^ 2 ∧
      0 ≤ (if sweep = 1 then -1 else 1) * ((right - left) * (y - top) - (bottom - top) * (x - left))

/-- **Two paths meet** in a point of the plane. -/
def Meets (path other : List ExactCommand) : Prop := ∃ x y : ℝ, OnArc path x y ∧ OnArc other x y

theorem meets_comm {path other : List ExactCommand} : Meets path other ↔ Meets other path := by
  simp only [Meets, and_comm]

theorem OnArc.on_circle {radius x y sweep : ℚ} {px py : ℝ} (h : OnArc (halfArc radius x y sweep) px py) :
    (px - x) ^ 2 + (py - y) ^ 2 = (radius : ℝ) ^ 2 := by
  obtain ⟨left, top, radius', sweep', right, bottom, hpath, hcircle, -⟩ := h
  simp only [halfArc, List.cons.injEq, ExactCommand.mk.injEq, true_and, and_true] at hpath
  obtain ⟨⟨rfl, rfl⟩, rfl, -, -, rfl, rfl⟩ := hpath
  have hmiddle : (((x - radius : ℚ) : ℝ) + ((x + radius : ℚ) : ℝ)) / 2 = x := by
    push_cast
    ring
  have hlevel : ((y : ℝ) + y) / 2 = y := by ring
  rwa [hmiddle, hlevel] at hcircle

/-- **Half circles around one centre meet only if their radii are equal up to the sign.** -/
theorem not_meet_halfArc {radius radius' : ℚ} (h : radius ^ 2 ≠ radius' ^ 2) (x y sweep sweep' : ℚ) :
    ¬ Meets (halfArc radius x y sweep) (halfArc radius' x y sweep') := by
  rintro ⟨px, py, hfirst, hsecond⟩
  have hsquares := hfirst.on_circle.symm.trans hsecond.on_circle
  exact h (by exact_mod_cast hsquares)

/-- The left end of one half circle is the right end of the one with the opposite radius. -/
theorem meets_halfArc_neg (radius x y sweep sweep' : ℚ) :
    Meets (halfArc radius x y sweep) (halfArc (-radius) x y sweep') := by
  refine ⟨(x - radius : ℚ), y, ⟨_, _, _, _, _, _, rfl, ?_, ?_⟩, ⟨_, _, _, _, _, _, rfl, ?_, ?_⟩⟩
  · push_cast
    ring
  · simp
  · push_cast
    ring
  · simp

/-! ## Bands -/

/-- **A place between two multiples:** above the one below an index and below the one at it. -/
def InBand (s : ℚ) (i : Int) (r : ℚ) : Prop := (i - 1) * s < r ∧ r < i * s

variable {s r r' : ℚ} {i j : Int}

/-- Bands of different indices have nothing in common. -/
theorem InBand.index_eq (hs : 0 < s) (hi : InBand s i r) (hj : InBand s j r) : i = j := by
  have hless : ((i : ℚ) - 1) * s < j * s := hi.1.trans hj.2
  have hless' : ((j : ℚ) - 1) * s < i * s := hj.1.trans hi.2
  have hbelow : (i : ℚ) - 1 < j := lt_of_mul_lt_mul_right hless (le_of_lt hs)
  have hbelow' : (j : ℚ) - 1 < i := lt_of_mul_lt_mul_right hless' (le_of_lt hs)
  have hle : i - 1 < j := by exact_mod_cast hbelow
  have hle' : j - 1 < i := by exact_mod_cast hbelow'
  omega

/-- The band of an index is the mirror of another one. -/
theorem InBand.neg (h : InBand s i r) : InBand s (1 - i) (-r) := by
  obtain ⟨hlow, hhigh⟩ := h
  constructor
  · push_cast
    linarith
  · push_cast
    linarith

/-- Places in different bands have different distances from zero, unless they are opposite. -/
theorem InBand.sq_ne_sq_of_ne_neg (hs : 0 < s) (hi : InBand s i r) (hj : InBand s j r') (hne : i ≠ j)
    (hopposite : r ≠ -r') : r ^ 2 ≠ r' ^ 2 := by
  intro hsquares
  rcases sq_eq_sq_iff_eq_or_eq_neg.mp hsquares with hsame | hneg
  · rw [← hsame] at hj
    exact hne (hi.index_eq hs hj)
  · exact hopposite hneg

/-- **Places in bands that are neither equal nor mirrors of each other** have different distances from zero. -/
theorem InBand.sq_ne_sq (hs : 0 < s) (hi : InBand s i r) (hj : InBand s j r') (hne : i ≠ j) (hmirror : i + j ≠ 1) :
    r ^ 2 ≠ r' ^ 2 := by
  refine hi.sq_ne_sq_of_ne_neg hs hj hne ?_
  intro hopposite
  have hj' := hj.neg
  rw [← hopposite] at hj'
  have hindex := hi.index_eq hs hj'
  omega

/-- Nothing but zero is a multiple of something greater. -/
theorem int_mul_ne {c : ℚ} (hc : c ≠ 0) (hs : |c| < s) (k : Int) : k * s ≠ c := by
  intro hsame
  have hpositive : 0 < s := lt_of_le_of_lt (abs_nonneg c) hs
  have hk : k ≠ 0 := by
    rintro rfl
    exact hc (by rw [← hsame, Int.cast_zero, zero_mul])
  have hone : (1 : ℚ) ≤ |(k : ℚ)| := by exact_mod_cast Int.one_le_abs hk
  have hgreater : 1 * s ≤ |(k : ℚ)| * s := mul_le_mul_of_nonneg_right hone (le_of_lt hpositive)
  rw [← hsame, abs_mul, abs_of_pos hpositive] at hs
  linarith

end Concentric
