import Concentric.Proofs.Geometry.Arcs
import Concentric.Proofs.Identifiers
import Concentric.Proofs.Run

/-!
# Exact rings

A ring whose numbers are whole and not too large is drawn without any rounding: everything that is computed on the way is
half an integer of at most 53 bits (`wholeRing_exact`). From the exact radii it follows that the label arcs of a ring run
inside its own band, and that those of two rings on one surface do not meet, unless their bands are mirrors of each other;
`mirrored_rings_meet` shows that these do.
-/

namespace Concentric

open Binary64 Markup Text

namespace Ring

/-- The radius of the arc over the top, in values. -/
def upperRadius (i s : ℚ) : ℚ := i * s - s / 2 - 5

/-- The radius of the arc under the bottom, in values. -/
def lowerRadius (i s : ℚ) : ℚ := i * s - s / 2 + 5

/-- The arc over the top, read by its values. -/
def upperArc (w h s i : ℚ) : List ExactCommand := halfArc (upperRadius i s) (w / 2) (h / 2) 1

/-- The arc under the bottom. -/
def lowerArc (w h s i : ℚ) : List ExactCommand := halfArc (lowerRadius i s) (w / 2) (h / 2) 0

/-- The circles that a drawing paints. -/
def circles (drawing : Drawing Answer) : List ExactCircle := drawing.body.filterMap circleOf?

/-- The paths that a drawing defines. -/
def arcs (drawing : Drawing Answer) : List (List ExactCommand) :=
  (drawing.defs.filterMap definedPath?).map Prod.snd

/-- **A ring of whole numbers in range** on a surface of whole numbers. The radius keeps its index in range too,
unless there is no spacing; then the index has to have a text. -/
structure Whole [DigitLimit] (w h s i : Int) (canvas : Canvas) (layer : Layer) : Prop where
  surface : canvas.toSurface = ⟨.whole w, .whole h⟩
  index : layer.index = .whole i
  written : s ≠ 0 ∨ (Number.whole i).Writable
  width_le : w.natAbs ≤ 2 ^ 50
  height_le : h.natAbs ≤ 2 ^ 50
  spacing_le : s.natAbs ≤ 2 ^ 50
  radius_le : (i * s).natAbs ≤ 2 ^ 50

/-- **A drawing without any rounding:** the circle that is returned, the circle that is painted and the paths that are
defined have the values of exact arithmetic. -/
structure DrawnExactly (w h s i : Int) (layer : Layer) (drawing : Drawing Answer) : Prop where
  returned : ∃ circle, drawing.outcome = .ok (.circle circle) ∧ circle.center.x.value? = some ((w : ℚ) / 2) ∧
    circle.center.y.value? = some ((h : ℚ) / 2) ∧ circle.radius.value? = some ((i : ℚ) * s)
  painted : circles drawing = [⟨w / 2, h / 2, i * s⟩]
  defined : drawing.defs.map definedPath? =
    some (upperId layer.index.plainText, upperArc w h s i) ::
      if layer.components = [] then [] else [some (lowerId layer.index.plainText, lowerArc w h s i)]

/-! ## Lines -/

theorem quote_not_mem_tenths (x : Binary64) : '"' ∉ (String.ofList x.tenthsChars).toList :=
  (avoids_tenths x (by decide)).not_mem (List.mem_singleton_self '"')

theorem quote_not_mem_realArc (radius : Binary64) (center : Point Binary64) (sweep : Number) :
    '"' ∉ (plainPathText (realArc radius center sweep)).toList := by
  have havoids : Avoids (plainPathText (realArc radius center sweep)) ['"'] :=
    avoids_realArc radius center sweep (by decide) (by decide)
  exact havoids.not_mem (List.mem_singleton_self '"')

/-- The path on its line is what its text is read as. -/
theorem definedPath?_pathElement {id path : String} (hid : '"' ∉ id.toList) (hpath : '"' ∉ path.toList) :
    definedPath? (pathElement id path) = (readExact? path).map (id, ·) := by
  have hquotes : ∀ a ∈ [Attribute.mk "id" id, ⟨"d", path⟩], '"' ∉ a.value.toList := by
    simp only [List.forall_mem_cons]
    exact ⟨hid, hpath, List.forall_mem_nil _⟩
  have hvalues : values? "path" ["id", "d"] (pathElement id path) = some [id, path] :=
    values?_emptyElement "path" hquotes []
  rw [definedPath?, hvalues, Option.bind_some]

/-- **A half circle in halves of integers is read off its line.** -/
theorem definedPath?_halfArc {id : String} {r x y : Int} (sweep : Int) (hid : '"' ∉ id.toList)
    (hr : r.natAbs ≤ 1 <<< 53) (hx : x.natAbs ≤ 1 <<< 53) (hy : y.natAbs ≤ 1 <<< 53)
    (hleft : (x - r).natAbs ≤ 1 <<< 53) (hright : (x + r).natAbs ≤ 1 <<< 53) :
    definedPath? (pathElement id (plainPathText (realArc (halves r) ⟨halves x, halves y⟩ (.whole sweep)))) =
      some (id, halfArc (r / 2) (x / 2) (y / 2) sweep) := by
  rw [definedPath?_pathElement hid (quote_not_mem_realArc _ _ _), readExact?_realArc sweep hr hx hy hleft hright,
    Option.map_some]

/-- The texts of a circle on its line: both coordinates of the centre and the radius. -/
def circleTexts (center : Point Binary64) (radius : Binary64) : List String :=
  [String.ofList center.x.tenthsChars, String.ofList center.y.tenthsChars, String.ofList radius.tenthsChars]

/-- The texts of a circle are read off its line, whatever the colour is. -/
theorem values?_circleLine (layer : Layer) (center : Point Binary64) (radius : Binary64) :
    values? "circle" ["cx", "cy", "r"] (circleLine layer center radius) = some (circleTexts center radius) := by
  have hquotes : ∀ a ∈ [Attribute.mk "cx" (String.ofList center.x.tenthsChars),
      ⟨"cy", String.ofList center.y.tenthsChars⟩, ⟨"r", String.ofList radius.tenthsChars⟩],
      '"' ∉ a.value.toList := by
    simp only [List.forall_mem_cons]
    exact ⟨quote_not_mem_tenths _, quote_not_mem_tenths _, quote_not_mem_tenths _, List.forall_mem_nil _⟩
  exact values?_emptyElement "circle" hquotes _

theorem values?_groupTag (index : Number) : values? "circle" ["cx", "cy", "r"] (groupTag index) = none :=
  (beginsWith_openTag (by decide) _).values?_eq_none (by decide) (by decide) _ _

/-- No other line of a ring is a circle. -/
theorem filterMap_values?_lines (layer : Layer) (center : Point Binary64) (radius : Binary64) :
    (lines layer center radius).filterMap (values? "circle" ["cx", "cy", "r"]) = [circleTexts center radius] := by
  have hlabel (pathId : String) (content : Content) (offset attributes : String) :
      values? "circle" ["cx", "cy", "r"] (pathLabel pathId content offset attributes) = none :=
    (beginsWith_pathLabel _ _ _ _).values?_eq_none (by decide) (by decide) _ _
  have hlabels : (componentLabels layer.index.plainText layer.components).filterMap
      (values? "circle" ["cx", "cy", "r"]) = [] := by
    rw [List.filterMap_eq_nil_iff]
    intro line hline
    obtain ⟨labelled, -, rfl⟩ := List.mem_map.mp hline
    exact hlabel _ _ _ _
  have hname : values? "circle" ["cx", "cy", "r"] (nameLabel layer.index.plainText layer.label) = none :=
    hlabel _ _ _ _
  have hclose : values? "circle" ["cx", "cy", "r"] (closeTag "g") = none := values?_closeTag (by decide) _ _ _
  rw [lines, List.filterMap_append, List.filterMap_append, hlabels, List.append_nil]
  simp only [List.filterMap_cons, List.filterMap_nil, values?_groupTag, hname, hclose, values?_circleLine,
    List.append_nil]

/-- The circle on its line is what its three texts are read as. -/
theorem filterMap_circleOf?_lines {layer : Layer} {x y r : Int} (hx : x.natAbs ≤ 1 <<< 53)
    (hy : y.natAbs ≤ 1 <<< 53) (hr : r.natAbs ≤ 1 <<< 53) :
    (lines layer ⟨halves x, halves y⟩ (halves r)).filterMap circleOf? = [⟨x / 2, y / 2, r / 2⟩] := by
  unfold circleOf?
  rw [← List.filterMap_filterMap, filterMap_values?_lines]
  simp only [circleTexts, List.filterMap_cons, List.filterMap_nil, List.mapM_cons, List.mapM_nil,
    textValue?_halves hx, textValue?_halves hy, textValue?_halves hr]
  rfl

/-! ## Exact drawings -/

namespace Whole

variable [DigitLimit] {w h s i : Int} {canvas : Canvas} {layer : Layer} (hring : Whole w h s i canvas layer)
include hring

/-- **The index of the ring has a text:** with a spacing it is no longer than the radius. -/
theorem writable_index : layer.index.Writable := by
  rw [hring.index]
  rcases hring.written with hspacing | hindex
  · apply Number.writable_of_lt
    have hpositive : 1 ≤ s.natAbs := Int.natAbs_pos.mpr hspacing
    have hproduct : i.natAbs * s.natAbs ≤ 2 ^ 50 := Int.natAbs_mul i s ▸ hring.radius_le
    have hrange : 2 ^ 50 < 2 * overflowBound := by decide +kernel
    calc i.natAbs ≤ i.natAbs * s.natAbs := Nat.le_mul_of_pos_right _ hpositive
      _ ≤ 2 ^ 50 := hproduct
      _ < 2 * overflowBound := hrange
  · exact hindex

/-- What a ring of whole numbers draws: all doubles are halves of integers. -/
theorem drawing_eq :
    (Step.ring layer (.whole s)).drawing canvas =
      ⟨definitions layer ⟨halves w, halves h⟩ (halves (2 * (i * s) - s)),
        lines layer ⟨halves w, halves h⟩ (halves (2 * (i * s))),
        .ok (.circle ⟨⟨.real (halves w), .real (halves h)⟩, .whole (i * s)⟩)⟩ := by
  have hwritable := hring.writable_index
  obtain ⟨hsurface, hindex, -, hwidth, hheight, hspacing, hproduct⟩ := hring
  have hbits : (1 <<< 53 : Nat) = 2 ^ 53 := Nat.one_shiftLeft 53
  have hhalf (z : Int) (hz : z.natAbs ≤ 2 ^ 50) : (Number.whole z).half = .ok (halves z) := by
    rw [Number.half, halfOfInt?_eq (by omega)]
    rfl
  have hradius : ringRadius layer.index (.whole s) = .ok (.whole (i * s)) := by
    rw [hindex]
    rfl
  have hcenter : canvas.toSurface.center = .ok ⟨halves w, halves h⟩ := by
    rw [hsurface, Surface.center, hhalf w hwidth, hhalf h hheight]
    rfl
  have hreal : (Number.whole (i * s)).toReal = .ok (halves (2 * (i * s))) := by
    rw [Number.toReal, Number.realOfInt, ofInt?_eq (by omega)]
    rfl
  have hmiddle : halves (2 * (i * s)) - halves s = halves (2 * (i * s) - s) :=
    steps_sub (by omega) (by omega) halfExponent_lt
  rw [Step.drawing_ring, draw_eq hradius hcenter hwritable hreal (hhalf s hspacing), hmiddle]
  rfl

/-- The defined paths are read back without loss. -/
theorem map_definedPath?_definitions :
    (definitions layer ⟨halves w, halves h⟩ (halves (2 * (i * s) - s))).map definedPath? =
      some (upperId layer.index.plainText, upperArc w h s i) ::
        if layer.components = [] then [] else [some (lowerId layer.index.plainText, lowerArc w h s i)] := by
  obtain ⟨-, -, -, hwidth, hheight, hspacing, hproduct⟩ := hring
  have hbits : (1 <<< 53 : Nat) = 2 ^ 53 := Nat.one_shiftLeft 53
  have hshift : Style.baselineShift = halves 10 := by decide +kernel
  have hupper : halves (2 * (i * s) - s) - halves 10 = halves (2 * (i * s) - s - 10) :=
    steps_sub (by omega) (by omega) halfExponent_lt
  have hlower : halves (2 * (i * s) - s) + halves 10 = halves (2 * (i * s) - s + 10) :=
    steps_add (by omega) (by omega) halfExponent_lt
  have hupperRadius : ((2 * (i * s) - s - 10 : Int) : ℚ) / 2 = upperRadius i s := by
    rw [upperRadius]
    push_cast
    ring
  have hlowerRadius : ((2 * (i * s) - s + 10 : Int) : ℚ) / 2 = lowerRadius i s := by
    rw [lowerRadius]
    push_cast
    ring
  have hid (role : Role) : '"' ∉ ((Owner.layer layer.index).name role).toList :=
    (avoids_name (.layer layer.index) role).not_mem (by simp)
  have hfirst : definedPath? (upperPath layer ⟨halves w, halves h⟩ (halves (2 * (i * s) - s))) =
      some (upperId layer.index.plainText, upperArc w h s i) := by
    rw [upperPath, hshift, hupper, upperArc, ← hupperRadius]
    exact definedPath?_halfArc 1 (hid .upper) (by omega) (by omega) (by omega) (by omega) (by omega)
  have hsecond : definedPath? (lowerPath layer ⟨halves w, halves h⟩ (halves (2 * (i * s) - s))) =
      some (lowerId layer.index.plainText, lowerArc w h s i) := by
    rw [lowerPath, hshift, hlower, lowerArc, ← hlowerRadius]
    exact definedPath?_halfArc 0 (hid .lower) (by omega) (by omega) (by omega) (by omega) (by omega)
  rw [definitions, List.map_cons, hfirst]
  cases layer.components with
  | nil => rfl
  | cons component rest => simp [hsecond]

/-- **A ring of whole numbers in range is drawn exactly.** -/
theorem drawnExactly : DrawnExactly w h s i layer ((Step.ring layer (.whole s)).drawing canvas) := by
  have hbits : (1 <<< 53 : Nat) = 2 ^ 53 := Nat.one_shiftLeft 53
  have hwidth := hring.width_le
  have hheight := hring.height_le
  have hproduct := hring.radius_le
  have hradius : ((2 * (i * s) : Int) : ℚ) / 2 = i * s := by
    push_cast
    ring
  rw [hring.drawing_eq]
  refine ⟨⟨_, rfl, value?_halves (by omega), value?_halves (by omega), ?_⟩, ?_, hring.map_definedPath?_definitions⟩
  · rw [Number.value?, Int.cast_mul]
  · rw [circles, filterMap_circleOf?_lines (by omega) (by omega) (by omega), hradius]

end Whole

/-! ## Rings of one surface -/

section Bands

variable {w h s : ℚ} {i j : Int}

/-- With a spacing above ten both arcs run inside the band of their ring. -/
theorem inBand_upperRadius (hs : 10 < s) (i : Int) : InBand s i (upperRadius i s) := by
  constructor <;> rw [upperRadius] <;> linarith

theorem inBand_lowerRadius (hs : 10 < s) (i : Int) : InBand s i (lowerRadius i s) := by
  constructor <;> rw [lowerRadius] <;> linarith

/-- A radius of a band and the other one of its mirror are opposite. -/
theorem lowerRadius_mirror (i s : ℚ) : lowerRadius (1 - i) s = -upperRadius i s := by
  rw [upperRadius, lowerRadius]
  ring

theorem cast_mirror (hmirror : i + j = 1) : (j : ℚ) = 1 - i := by
  have hj : j = 1 - i := by omega
  rw [hj]
  push_cast
  rfl

/-- The two arcs over the top of different rings do not meet, not even if their bands are mirrors. -/
theorem not_meet_upperArcs (hs : 10 < s) (hne : i ≠ j) : ¬ Meets (upperArc w h s i) (upperArc w h s j) := by
  refine not_meet_halfArc ?_ _ _ _ _
  refine (inBand_upperRadius hs i).sq_ne_sq_of_ne_neg (by linarith) (inBand_upperRadius hs j) hne ?_
  intro hopposite
  refine int_mul_ne (by norm_num) (by norm_num; exact hs : |(10 : ℚ)| < s) (i + j - 1) ?_
  rw [upperRadius, upperRadius] at hopposite
  push_cast
  linarith

theorem not_meet_lowerArcs (hs : 10 < s) (hne : i ≠ j) : ¬ Meets (lowerArc w h s i) (lowerArc w h s j) := by
  refine not_meet_halfArc ?_ _ _ _ _
  refine (inBand_lowerRadius hs i).sq_ne_sq_of_ne_neg (by linarith) (inBand_lowerRadius hs j) hne ?_
  intro hopposite
  refine int_mul_ne (by norm_num) (by norm_num; exact hs : |(-10 : ℚ)| < s) (i + j - 1) ?_
  rw [lowerRadius, lowerRadius] at hopposite
  push_cast
  linarith

/-- An arc over the top meets one under the bottom of another ring in the mirrored band, and in no other one. -/
theorem meets_upperArc_lowerArc (hs : 10 < s) (hne : i ≠ j) :
    Meets (upperArc w h s i) (lowerArc w h s j) ↔ i + j = 1 := by
  constructor
  · intro hmeets
    by_contra hmirror
    exact not_meet_halfArc
      ((inBand_upperRadius hs i).sq_ne_sq (by linarith) (inBand_lowerRadius hs j) hne hmirror) _ _ _ _ hmeets
  · intro hmirror
    rw [upperArc, lowerArc, cast_mirror hmirror, lowerRadius_mirror]
    exact meets_halfArc_neg _ _ _ _ _

end Bands

/-- **An exact ring:** it is drawn without any rounding. With a spacing above ten its arcs run inside its own band, where
those of another ring on the surface come only if the bands are mirrors of each other; with a positive spacing its circle
is smaller than that of each greater index. -/
structure ExactRing [DigitLimit] (w h s i : Int) (canvas : Canvas) (layer : Layer) : Prop where
  drawn : DrawnExactly w h s i layer ((Step.ring layer (.whole s)).drawing canvas)
  banded : 10 < s → InBand s i (upperRadius i s) ∧ InBand s i (lowerRadius i s)
  apart : 10 < s → ∀ {j : Int} {canvas' : Canvas} {layer' : Layer}, Whole w h s j canvas' layer' → i ≠ j →
    ∀ arc ∈ arcs ((Step.ring layer (.whole s)).drawing canvas),
    ∀ arc' ∈ arcs ((Step.ring layer' (.whole s)).drawing canvas'),
      Meets arc arc' ↔ i + j = 1 ∧ (arc = upperArc w h s i ∧ arc' = lowerArc w h s j ∨
        arc = lowerArc w h s i ∧ arc' = upperArc w h s j)
  growing : 0 < s → ∀ {j : Int} {canvas' : Canvas} {layer' : Layer}, Whole w h s j canvas' layer' → i < j →
    ∀ circle ∈ circles ((Step.ring layer (.whole s)).drawing canvas),
    ∀ circle' ∈ circles ((Step.ring layer' (.whole s)).drawing canvas'), circle.radius < circle'.radius

/-- A path that is read off a definition is among the arcs. -/
theorem mem_arcs {drawing : Drawing Answer} {id : String} {arc : List ExactCommand}
    (h : some (id, arc) ∈ drawing.defs.map definedPath?) : arc ∈ arcs drawing := by
  obtain ⟨line, hline, hread⟩ := List.mem_map.mp h
  exact List.mem_map.mpr ⟨_, List.mem_filterMap.mpr ⟨line, hline, hread⟩, rfl⟩

section Drawn

variable {w h s i : Int} {layer : Layer} {drawing : Drawing Answer} (hdrawn : DrawnExactly w h s i layer drawing)
include hdrawn

/-- The arc over the top is always there. -/
theorem DrawnExactly.upperArc_mem : upperArc w h s i ∈ arcs drawing := by
  apply mem_arcs
  rw [hdrawn.defined]
  exact List.mem_cons_self

/-- The arc under the bottom is there as soon as there are components. -/
theorem DrawnExactly.lowerArc_mem (hcomponents : layer.components ≠ []) : lowerArc w h s i ∈ arcs drawing := by
  apply mem_arcs
  rw [hdrawn.defined, if_neg hcomponents]
  exact List.mem_cons_of_mem _ List.mem_cons_self

/-- There are no other arcs than those two. -/
theorem DrawnExactly.eq_upperArc_or_lowerArc {arc : List ExactCommand} (harc : arc ∈ arcs drawing) :
    arc = upperArc w h s i ∨ arc = lowerArc w h s i := by
  obtain ⟨⟨id, arc⟩, hmem, rfl⟩ := List.mem_map.mp harc
  obtain ⟨line, hline, hdefined⟩ := List.mem_filterMap.mp hmem
  have hread := List.mem_map_of_mem (f := definedPath?) hline
  rw [hdefined, hdrawn.defined] at hread
  split at hread
  all_goals simp only [List.mem_cons, List.not_mem_nil, Option.some.injEq, Prod.mk.injEq, or_false] at hread
  · exact .inl hread.2
  · exact hread.imp And.right And.right

end Drawn

/-- The two arcs of a ring run over different sides. -/
theorem upperArc_ne_lowerArc {w h s i : ℚ} : upperArc w h s i ≠ lowerArc w h s i := by
  intro hsame
  simp only [upperArc, lowerArc, halfArc, List.cons.injEq, ExactCommand.mk.injEq] at hsame
  grind

/-- **Rings of whole numbers are exact,** as long as their measures have at most 50 bits. -/
theorem wholeRing_exact [DigitLimit] {w h s i : Int} {canvas : Canvas} {layer : Layer}
    (hring : Whole w h s i canvas layer) : ExactRing w h s i canvas layer := by
  have hdrawn := hring.drawnExactly
  refine ⟨hdrawn, ?_, ?_, ?_⟩
  · intro hs
    have hs' : (10 : ℚ) < s := by exact_mod_cast hs
    exact ⟨inBand_upperRadius hs' i, inBand_lowerRadius hs' i⟩
  · intro hs j canvas' layer' hother hne arc harc arc' harc'
    have hs' : (10 : ℚ) < s := by exact_mod_cast hs
    rcases hdrawn.eq_upperArc_or_lowerArc harc with rfl | rfl <;>
      rcases hother.drawnExactly.eq_upperArc_or_lowerArc harc' with rfl | rfl
    · refine iff_of_false (not_meet_upperArcs hs' hne) ?_
      rintro ⟨-, ⟨-, hsame⟩ | ⟨hsame, -⟩⟩
      · exact upperArc_ne_lowerArc hsame
      · exact upperArc_ne_lowerArc hsame
    · rw [meets_upperArc_lowerArc hs' hne]
      exact ⟨fun hmirror => ⟨hmirror, .inl ⟨rfl, rfl⟩⟩, And.left⟩
    · rw [meets_comm, meets_upperArc_lowerArc hs' hne.symm, add_comm]
      exact ⟨fun hmirror => ⟨hmirror, .inr ⟨rfl, rfl⟩⟩, And.left⟩
    · refine iff_of_false (not_meet_lowerArcs hs' hne) ?_
      rintro ⟨-, ⟨hsame, -⟩ | ⟨-, hsame⟩⟩
      · exact upperArc_ne_lowerArc hsame.symm
      · exact upperArc_ne_lowerArc hsame.symm
  · intro hs j canvas' layer' hother hless circle hcircle circle' hcircle'
    rw [hdrawn.painted, List.mem_singleton] at hcircle
    rw [hother.drawnExactly.painted, List.mem_singleton] at hcircle'
    rw [hcircle, hcircle']
    have hs' : (0 : ℚ) < s := by exact_mod_cast hs
    have hless' : (i : ℚ) < j := by exact_mod_cast hless
    exact mul_lt_mul_of_pos_right hless' hs'

section Witness

attribute [local instance] DigitLimit.standard

/-- Odd measures, a centre left of the surface, a negative index and components. -/
theorem oddRing_exact :
    Whole (-411) 7 25 (-3) (.blank (.whole (-411)) (.whole 7)) ⟨.whole (-3), "odd", "#eee", ["a", "b"]⟩ ∧
      ExactRing (-411) 7 25 (-3) (.blank (.whole (-411)) (.whole 7)) ⟨.whole (-3), "odd", "#eee", ["a", "b"]⟩ := by
  have hring : Whole (-411) 7 25 (-3) (.blank (.whole (-411)) (.whole 7))
      ⟨.whole (-3), "odd", "#eee", ["a", "b"]⟩ :=
    ⟨rfl, rfl, .inl (by decide), by decide, by decide, by decide, by decide⟩
  exact ⟨hring, wholeRing_exact hring⟩

/-- The layer of the outer ring, which has the index one. -/
def outerLayer : Layer := ⟨1, "outer", "#eee", []⟩

/-- The layer of the inner ring, which has the index zero: with a spacing of twenty the radius of its arc under the
bottom is minus five. -/
def innerLayer : Layer := ⟨0, "inner", "#ddd", ["x"]⟩

/-- **Rings of mirrored bands meet:** that of the index one and then that of the index zero, on one surface and with one
spacing above ten. -/
theorem mirrored_rings_meet :
    Whole 410 410 20 1 (.blank 410 410) outerLayer ∧
    Whole 410 410 20 0 ((Canvas.blank 410 410).after (.ring outerLayer 20)) innerLayer ∧
    ∃ arc ∈ arcs ((Step.ring outerLayer 20).drawing (.blank 410 410)),
    ∃ arc' ∈ arcs ((Step.ring innerLayer 20).drawing ((Canvas.blank 410 410).after (.ring outerLayer 20))),
      Meets arc arc' := by
  have houter : Whole 410 410 20 1 (.blank 410 410) outerLayer :=
    ⟨rfl, rfl, .inl (by decide), by decide, by decide, by decide, by decide⟩
  have hinner : Whole 410 410 20 0 ((Canvas.blank 410 410).after (.ring outerLayer 20)) innerLayer :=
    ⟨rfl, rfl, .inl (by decide), by decide, by decide, by decide, by decide⟩
  have hspacing : (10 : ℚ) < (20 : Int) := by norm_num
  have hindices : (1 : Int) ≠ 0 := by decide
  exact ⟨houter, hinner, _, houter.drawnExactly.upperArc_mem, _, hinner.drawnExactly.lowerArc_mem (by decide),
    (meets_upperArc_lowerArc hspacing hindices).mpr rfl⟩

end Witness

end Ring

end Concentric
