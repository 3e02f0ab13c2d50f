import Concentric.Proofs.Decimal.SixDigits
import Concentric.Proofs.Fragments
import Concentric.Proofs.Geometry.Offsets
import Concentric.Proofs.Identifiers

/-!
# Where component labels are printed

The lines of a ring that refer to its lower path are read back as labels at places, percentages of the path. There is
one for each component, in their order, and it is printed within 10^-4 of the centre of its segment
(`components_centered`). Two roundings come together, that of the centre to a double and that of the double to six
digits. Neither changes the order of labels, and with fewer than 10^6 components no two of them are printed at one place:
there the segments are longer than what six digits can move.
-/

namespace Concentric

open Binary64 Markup Markup.Scanner Text

namespace Markup

/-! ## Labels at places -/

/-- **A label at a place** of its path, as a percentage of its length. -/
structure PlacedLabel extends Label where
  place : ℚ
deriving DecidableEq

/-- The value of a percentage, a decimal before a percent sign. -/
def percentage? (text : String) : Option ℚ :=
  if text.toList.getLast? = some '%' then (Decimal.parse? text.toList.dropLast).map Decimal.value else none

/-- The place in the attributes of a label's path. -/
def placeOf? (attributes : List Attribute) : Option ℚ :=
  (attributes.find? fun a => a.name = "startOffset").bind fun a => percentage? a.value

/-- **The label on a line:** a `text` element with one label in it. -/
def placedLabel? (line : String) : Option PlacedLabel :=
  (tokens? line).bind fun
    | .opening "text" _ :: .opening "textPath" attributes :: rest =>
      match labels (some ⟨hrefOf attributes, ""⟩) rest with
      | [label] => (placeOf? attributes).map fun place => ⟨label, place⟩
      | _ => none
    | _ => none

/-- The lines of a body that are labels along a path. -/
def labelsAlong (pathId : String) (body : List String) : List String :=
  body.filter fun line => pathOf? line = some pathId

/-- **A plain label is read back,** whatever its text is. -/
theorem placedLabel?_pathLabel {pathId offset : String} (text : String) {attributes : List Attribute} {place : ℚ}
    (htag : ReadableTag "text" attributes) (hne : attributes ≠ []) (hid : Avoids pathId unquotable)
    (hoffset : Avoids offset unquotable) (hplace : percentage? offset = some place) :
    placedLabel? (pathLabel pathId (.plain text) offset (attributesText attributes)) =
      some ⟨⟨"#" ++ pathId, text⟩, place⟩ := by
  have hinner : Reads (Content.plain text).inner (text.toList.map .data) := reads_escape text
  have htokens := (reads_pathLabel hinner htag hne (readableTag_textPath hid hoffset)).tokens?_eq
  have hlabels : labels (some ⟨"#" ++ pathId, ""⟩)
      (text.toList.map .data ++ [.closing "textPath", .closing "text"]) = [⟨"#" ++ pathId, text⟩] := by
    rw [textOf_data]
    simp [labels]
  have href : hrefOf [⟨"href", "#" ++ pathId⟩, ⟨"startOffset", offset⟩] = "#" ++ pathId := by simp [hrefOf]
  have hfound : placeOf? [⟨"href", "#" ++ pathId⟩, ⟨"startOffset", offset⟩] = some place := by
    simp [placeOf?, hplace]
  rw [placedLabel?, htokens, Option.bind_some]
  simp only [href, hlabels, hfound, Option.map_some]

theorem BeginsWith.pathOf?_eq_none {line name : String} (h : BeginsWith line name) (hne : "text" ≠ name) :
    pathOf? line = none := by
  rw [pathOf?, h.inside?_eq_none (by decide) hne, Option.bind_none]

end Markup

/-! ## Places -/

/-- The value of the six digits of a number. -/
def Binary64.sixDigitValue : Binary64 → ℚ
  | .finite negative quanta _ => withSign negative (sixDigits quanta)
  | _ => 0

/-- **The places of component labels,** as they are printed. -/
def componentPlaces (count : Nat) : List ℚ := (segmentCenters count).map sixDigitValue

/-- **Places at the centres of equal segments.** -/
structure Centered (count : Nat) (places : List ℚ) : Prop where
  length_eq : places.length = count
  near : ∀ (i : Nat) (h : i < places.length), |places[i] - exactCenter count i| < 1 / 10000
  inside : ∀ place ∈ places, 0 < place ∧ place ≤ 100
  ordered : places.Pairwise (· ≤ ·)
  distinct : count < 10 ^ 6 → places.Pairwise (· < ·)

theorem length_componentPlaces (count : Nat) : (componentPlaces count).length = count := by
  rw [componentPlaces, List.length_map, length_segmentCenters]

section Places

variable {count i j : Nat}

theorem getElem_componentPlaces (h : i < (componentPlaces count).length) :
    (componentPlaces count)[i] = (segmentCenter (segmentLength (.ofNat count)) i).sixDigitValue := by
  have hnumber : i < count := by rwa [length_componentPlaces] at h
  apply Option.some.inj
  rw [← List.getElem?_eq_getElem h, componentPlaces, List.getElem?_map, getElem?_segmentCenters hnumber,
    Option.map_some]

/-- The digits of a centre. -/
theorem exists_place (hmany : count ≤ segmentBound) (h : i < (componentPlaces count).length) :
    ∃ quanta, (componentPlaces count)[i] = sixDigits quanta ∧ quanta ≠ 0 ∧ magnitude quanta < 100 ∧
      |magnitude quanta - exactCenter count i| ≤ centerError := by
  have hnumber : i < count := by rwa [length_componentPlaces] at h
  obtain ⟨quanta, representable, hcenter, herror, hne, hbelow⟩ := segmentCenter_inside hnumber hmany
  refine ⟨quanta, ?_, hne, hbelow, herror⟩
  rw [getElem_componentPlaces, hcenter, sixDigitValue, withSign_false]

theorem abs_place_sub_lt (hmany : count ≤ segmentBound) (h : i < (componentPlaces count).length) :
    |(componentPlaces count)[i] - exactCenter count i| ≤ 1 / 20000 + centerError := by
  obtain ⟨quanta, hplace, hne, hbelow, herror⟩ := exists_place hmany h
  have hdigits : |sixDigits quanta - magnitude quanta| ≤ 10 ^ (2 - 6 : Int) / 2 :=
    abs_sixDigits_sub_le_of_lt hne (by norm_num; exact hbelow)
  have hplaces : (10 : ℚ) ^ (2 - 6 : Int) / 2 = 1 / 20000 := by norm_num
  rw [hplaces] at hdigits
  rw [hplace]
  calc |sixDigits quanta - exactCenter count i|
      ≤ |sixDigits quanta - magnitude quanta| + |magnitude quanta - exactCenter count i| := abs_sub_le _ _ _
    _ ≤ 1 / 20000 + centerError := add_le_add hdigits herror

/-- Rounding to six digits does not reverse the order of centres. -/
theorem place_le (hmany : count ≤ segmentBound) (hij : i < j) (hj : j < (componentPlaces count).length)
    (hi : i < (componentPlaces count).length) : (componentPlaces count)[i] ≤ (componentPlaces count)[j] := by
  have hsome : 0 < count := by
    rw [length_componentPlaces] at hj
    omega
  obtain ⟨quanta, hplace, hne, -, herror⟩ := exists_place hmany hi
  obtain ⟨quanta', hplace', -, -, herror'⟩ := exists_place hmany hj
  have hapart := exactCenter_add_le_of_lt hsome hij
  have hsmall := two_mul_centerError_lt hsome hmany
  have hmagnitudes : magnitude quanta < magnitude quanta' := by
    have hupper := (abs_le.mp herror).2
    have hlower := (abs_le.mp herror').1
    have hsegment : (100 : ℚ) / count = 50 / count + 50 / count := by ring
    have hpositive : (0 : ℚ) < 50 / count := by positivity
    linarith
  rw [hplace, hplace']
  exact sixDigits_mono hne (Nat.le_of_lt (lt_of_magnitude_lt hmagnitudes))

/-- With fewer than 10^6 segments the places are different, because the centres are too far from each other. -/
theorem place_lt (hfew : count < 10 ^ 6) (hij : i < j) (hj : j < (componentPlaces count).length)
    (hi : i < (componentPlaces count).length) : (componentPlaces count)[i] < (componentPlaces count)[j] := by
  have hsome : 0 < count := by
    rw [length_componentPlaces] at hj
    omega
  have hmany : count ≤ segmentBound := Nat.le_trans (Nat.le_of_lt hfew) (by decide)
  have hcount : (0 : ℚ) < count := by exact_mod_cast hsome
  have hfew' : (count : ℚ) ≤ 999999 := by
    have hle : count ≤ 999999 := by omega
    exact_mod_cast hle
  have hsegment : 100 / 999999 ≤ (100 : ℚ) / count := div_le_div_of_nonneg_left (by norm_num) hcount hfew'
  have hapart := exactCenter_add_le_of_lt hsome hij
  have hupper := (abs_le.mp (abs_place_sub_lt hmany hi)).2
  have hlower := (abs_le.mp (abs_place_sub_lt hmany hj)).1
  rw [centerError] at hupper hlower
  norm_num at hupper hlower hsegment
  linarith

/-- **The printed places are those of the centres.** -/
theorem centered_componentPlaces (hmany : count ≤ segmentBound) : Centered count (componentPlaces count) where
  length_eq := length_componentPlaces count
  near i h := by
    have herror := abs_place_sub_lt hmany h
    rw [centerError] at herror
    norm_num at herror ⊢
    linarith
  inside place hplace := by
    obtain ⟨i, h, rfl⟩ := List.getElem_of_mem hplace
    obtain ⟨quanta, hplace, hne, hbelow, -⟩ := exists_place hmany h
    have hhundred : sixDigits quanta ≤ 10 ^ (2 : Int) := sixDigits_le hne (by norm_num; exact hbelow)
    norm_num at hhundred
    rw [hplace]
    exact ⟨sixDigits_pos hne, hhundred⟩
  ordered := List.pairwise_iff_getElem.mpr fun _ _ hi hj hij => place_le hmany hij hj hi
  distinct hfew := List.pairwise_iff_getElem.mpr fun _ _ hi hj hij => place_lt hfew hij hj hi

end Places

namespace Ring

/-! ## Lines -/

/-- The text of six digits is the percentage that it shows. -/
theorem percentage?_generalChars (negative : Bool) {quanta : Nat} (representable : Representable quanta) :
    percentage? (String.ofList (generalChars (.finite negative quanta representable)) ++ "%") =
      some (withSign negative (sixDigits quanta)) := by
  obtain ⟨d, hparse, hsign, hvalue⟩ := readsAs_generalChars negative representable
  have htext : (String.ofList (generalChars (.finite negative quanta representable)) ++ "%").toList =
      generalChars (.finite negative quanta representable) ++ ['%'] := by
    rw [String.toList_append, String.toList_ofList]
    rfl
  rw [percentage?, htext, List.getLast?_concat, if_pos rfl, List.dropLast_concat, hparse, Option.map_some,
    Decimal.value, hsign, hvalue]

/-- A component at a centre is read back. -/
theorem placedLabel?_componentLabel (index : Number) (component : String) (negative : Bool) {quanta : Nat}
    (representable : Representable quanta) :
    placedLabel? (componentLabel index.plainText component (.finite negative quanta representable)) =
      some ⟨⟨"#" ++ lowerId index.plainText, component⟩, withSign negative (sixDigits quanta)⟩ :=
  placedLabel?_pathLabel component (readable_labelTag (by decide)) (by simp [labelAttributes])
    ((readable_id index).append (by decide)) (readable_percentage _) (percentage?_generalChars negative representable)

/-- All components are read back, in their order and each with its own place. -/
theorem map_placedLabel?_componentLabels {layer : Layer} (hmany : layer.components.length ≤ segmentBound) :
    (componentLabels layer.index.plainText layer.components).map placedLabel? =
      (layer.components.zip (componentPlaces layer.components.length)).map fun labelled =>
        some ⟨⟨"#" ++ lowerId layer.index.plainText, labelled.1⟩, labelled.2⟩ := by
  rw [componentLabels, componentPlaces, List.zip_map_right, List.map_map, List.map_map]
  apply List.map_congr_left
  rintro ⟨component, center⟩ hlabelled
  obtain ⟨number, hnumber, hcenter⟩ := List.getElem_of_mem (List.of_mem_zip hlabelled).2
  rw [length_segmentCenters] at hnumber
  obtain ⟨quanta, representable, hfinite, -⟩ := segmentCenter_inside hnumber hmany
  have hsame : center = .finite false quanta representable := by
    rw [← hfinite, ← hcenter]
    apply Option.some.inj
    rw [← List.getElem?_eq_getElem, getElem?_segmentCenters hnumber]
  simp only [Function.comp_apply, Prod.map_apply, id_eq, hsame, placedLabel?_componentLabel, sixDigitValue]

/-- **The labels along the lower path** are those of the components: the name runs along the upper path, and no other
line of a ring is a label. -/
theorem labelsAlong_lines (layer : Layer) (center : Point Binary64) (radius : Binary64) :
    labelsAlong (lowerId layer.index.plainText) (lines layer center radius) =
      componentLabels layer.index.plainText layer.components := by
  have hgroup : pathOf? (groupTag layer.index) = none :=
    (beginsWith_openTag (by decide) _).pathOf?_eq_none (by decide)
  have hcircle : pathOf? (circleLine layer center radius) = none :=
    (beginsWith_emptyElement (by decide) _).pathOf?_eq_none (by decide)
  have hclose : pathOf? (closeTag "g") = none := by
    rw [pathOf?, inside?_closeTag (by decide), Option.bind_none]
  have hid (role : Role) : Avoids ((Owner.layer layer.index).name role) ['"', '<'] :=
    (avoids_name (.layer layer.index) role).mono (by simp)
  have hname : pathOf? (nameLabel layer.index.plainText layer.label) = some (upperId layer.index.plainText) :=
    pathOf?_pathLabel _ (hid .upper) (by decide) (behindLast?_plain layer.label)
  have hapart : upperId layer.index.plainText ≠ lowerId layer.index.plainText := by
    intro hsame
    have hnames : (Owner.layer layer.index).name .upper = (Owner.layer layer.index).name .lower := hsame
    exact absurd (eq_of_name_eq hnames).2 (by decide)
  have hcomponents : (componentLabels layer.index.plainText layer.components).filter
        (fun line => pathOf? line = some (lowerId layer.index.plainText)) =
      componentLabels layer.index.plainText layer.components := by
    rw [List.filter_eq_self]
    intro line hline
    obtain ⟨labelled, -, rfl⟩ := List.mem_map.mp hline
    have hoffset := (readable_percentage labelled.2).not_mem (by decide : '<' ∈ unquotable)
    exact decide_eq_true (pathOf?_pathLabel _ (hid .lower) hoffset (behindLast?_plain labelled.1))
  rw [labelsAlong, lines, List.filter_append, List.filter_append, hcomponents]
  simp [hgroup, hcircle, hname, hclose, hapart]

/-- **The labels of all components at the centres of equal segments:** as many lines along the lower path as there are
components, which are read back as the components in their order, each at the place of its centre. -/
def ComponentsCentered (layer : Layer) (body : List String) : Prop :=
  (labelsAlong (lowerId layer.index.plainText) body).length = layer.components.length ∧
    ∃ places, Centered layer.components.length places ∧
      (labelsAlong (lowerId layer.index.plainText) body).map placedLabel? =
        (layer.components.zip places).map fun labelled =>
          some ⟨⟨"#" ++ lowerId layer.index.plainText, labelled.1⟩, labelled.2⟩

/-- **Component labels are printed at the centres of equal segments, in order,** by every ring that succeeds. -/
theorem components_centered [DigitLimit] {canvas : Canvas} {layer : Layer} {spacing : Number}
    (hmany : layer.components.length ≤ segmentBound)
    (hsucceeds : Moment.succeeds ⟨canvas, .ring layer spacing⟩ = true) :
    ComponentsCentered layer (Moment.drawing ⟨canvas, .ring layer spacing⟩).body := by
  obtain ⟨radius, center, r, half, -, -, -, -, -, hdrawing⟩ := Moment.ring_whole hsucceeds
  rw [hdrawing, ComponentsCentered, labelsAlong_lines]
  refine ⟨?_, _, centered_componentPlaces hmany, map_placedLabel?_componentLabels hmany⟩
  rw [componentLabels, List.length_map, List.length_zip, length_segmentCenters, Nat.min_self]

section Markup

attribute [local instance] DigitLimit.standard

/-- Components whose names are markup themselves, one of them that of a label on the same path. -/
def markupLayer : Layer :=
  ⟨2, "<b>", "#eee", ["&", "</textPath>", "<text ><textPath href=\"#layer-2-lower\" startOffset=\"0%\">"]⟩

theorem markupLayer_centered :
    markupLayer.components.length ≤ segmentBound ∧
      Moment.succeeds ⟨.blank 410 410, .ring markupLayer 40⟩ = true ∧
      ComponentsCentered markupLayer (Moment.drawing ⟨.blank 410 410, .ring markupLayer 40⟩).body := by
  have hmany : markupLayer.components.length ≤ segmentBound := by decide
  have hsucceeds : Moment.succeeds ⟨.blank 410 410, .ring markupLayer 40⟩ = true := by decide +kernel
  exact ⟨hmany, hsucceeds, components_centered hmany hsucceeds⟩

end Markup

-- The last of 10^6 segments is shown at the end of the arc, and the first of 2^40 with an exponent.
example : (segmentCenter (segmentLength (.ofNat 1000000)) 999999).generalChars = "100".toList ∧
    (segmentCenter (segmentLength (.ofNat segmentBound)) 0).generalChars = "4.54747e-11".toList := by
  decide +kernel

end Ring

end Concentric
