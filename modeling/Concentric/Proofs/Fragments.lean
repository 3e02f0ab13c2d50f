import Concentric.Proofs.Markup.Fragment
import Concentric.Proofs.Run

/-!
# The lines of the builders are fragments

Each builder adds a fragment to the definitions and, if it succeeds, a fragment to the body. The strings
that go into attributes as they are must have neither quotes nor opening angle brackets nor ampersands
(`Step.attributeTexts`); labels can be any strings. `Moment.labels` says which labels a moment of a run
adds.
-/

namespace Concentric

open Markup Markup.Scanner Text

/-! ## Printed values -/

theorem readable_number (n : Number) : Avoids n.plainText unquotable :=
  (numeric_plainText n).avoids (by decide)

theorem readable_tenths (x : Binary64) : Avoids (String.ofList x.tenthsChars) unquotable :=
  avoids_tenths x (by decide)

theorem readable_percentage (x : Binary64) :
    Avoids (String.ofList x.generalChars ++ "%") unquotable := by
  have hnumber : Avoids (String.ofList x.generalChars) unquotable :=
    Numeric.avoids (by simpa using numeric_generalChars x) (by decide)
  exact hnumber.append (by decide)

theorem readable_realArc (radius : Binary64) (center : Point Binary64) (sweep : Number) :
    Avoids (plainPathText (realArc radius center sweep)) unquotable :=
  avoids_realArc radius center sweep (by decide) (by decide)

theorem readable_segment (segment : Segment) : Avoids segment.plainPathText unquotable :=
  avoids_segment segment (by decide) (by decide)

theorem readable_points (points : List (Point Binary64)) : Avoids (pointsText points) unquotable :=
  avoids_pointsText points (by decide) (by decide) (by decide)

/-! ## Markers and patterns -/

namespace Marker

variable {id color : String}

theorem fragment_headLines (hid : Avoids id unquotable) (hcolor : Avoids color unquotable) :
    Fragment (headLines id color) [] 0 := by
  have hpolygon : ReadableTag "polygon" [⟨"points", "0,0 10,3.5 0,7"⟩, ⟨"fill", color⟩] := by
    refine readableTag_of_values ["points", "fill"] (.refl _) (by decide) ?_
    simp only [List.forall_mem_cons]
    exact ⟨by decide, hcolor, by simp⟩
  refine (fragment_empty hpolygon).element ?_ (by decide) (by decide)
  refine readableTag_of_values ["id", "markerWidth", "markerHeight", "refX", "refY", "viewBox", "orient"]
    (.refl _) (by decide) ?_
  simp only [List.forall_mem_cons]
  exact ⟨hid, by decide, by decide, by decide, by decide, by decide, by decide, by simp⟩

theorem fragment_patternLines (hid : Avoids id unquotable) (hcolor : Avoids color unquotable) :
    Fragment (patternLines id color) [] 0 := by
  have hline : ReadableTag "line"
      [⟨"x1", "0"⟩, ⟨"y1", "3.5"⟩, ⟨"x2", "10"⟩, ⟨"y2", "3.5"⟩, ⟨"stroke", color⟩,
        ⟨"stroke-width", "1"⟩] := by
    refine readableTag_of_values ["x1", "y1", "x2", "y2", "stroke", "stroke-width"] (.refl _) (by decide) ?_
    simp only [List.forall_mem_cons]
    exact ⟨by decide, by decide, by decide, by decide, hcolor, by decide, by simp⟩
  have hpolygon : ReadableTag "polygon" [⟨"points", "10,0 20,3.5 10,7"⟩, ⟨"fill", color⟩] := by
    refine readableTag_of_values ["points", "fill"] (.refl _) (by decide) ?_
    simp only [List.forall_mem_cons]
    exact ⟨by decide, hcolor, by simp⟩
  have hgroup : ReadableTag "g" [] := readableTag_of_values [] (.refl _) (by decide) (by simp)
  have hinner := (fragment_empty hline).append (fragment_empty hpolygon)
  refine (hinner.element hgroup (by decide) (by decide)).element ?_ (by decide) (by decide)
  refine readableTag_of_values ["id", "x", "y", "width", "height", "patternUnits"] (.refl _) (by decide) ?_
  simp only [List.forall_mem_cons]
  exact ⟨hid, by decide, by decide, by decide, by decide, by decide, by simp⟩

end Marker

/-! ## Rings -/

namespace Ring

theorem readable_id (index : Number) : Avoids (id index.plainText) unquotable :=
  Avoids.append (by decide) (readable_number index)

theorem readable_labelTag {fill : String} (hfill : Avoids fill unquotable) :
    ReadableTag "text" (labelAttributes fill) := by
  refine readableTag_of_values
    ["text-anchor", "letter-spacing", "font-family", "font-size", "fill"] (.refl _) (by decide) ?_
  simp only [labelAttributes, fontAttributes, List.cons_append, List.nil_append, List.forall_mem_cons]
  exact ⟨by decide, by decide, by decide, by decide, hfill, by simp⟩

theorem fragment_pathElement {id path : String} (hid : Avoids id unquotable)
    (hpath : Avoids path unquotable) : Fragment [pathElement id path] [] 0 := by
  have htag : ReadableTag "path" [⟨"id", id⟩, ⟨"d", path⟩] := by
    refine readableTag_of_values ["id", "d"] (.refl _) (by decide) ?_
    simp only [List.forall_mem_cons]
    exact ⟨hid, hpath, by simp⟩
  exact fragment_empty htag

theorem fragment_circleLine (layer : Layer) (center : Point Binary64) (radius : Binary64)
    (hcolor : Avoids layer.color unquotable) : Fragment [circleLine layer center radius] [] 1 := by
  have htag : ReadableTag "circle"
      [⟨"cx", String.ofList center.x.tenthsChars⟩, ⟨"cy", String.ofList center.y.tenthsChars⟩,
        ⟨"r", String.ofList radius.tenthsChars⟩, ⟨"fill", layer.color⟩, ⟨"fill-opacity", "1"⟩,
        ⟨"stroke", Style.ringStroke⟩, ⟨"stroke-width", Style.ringStrokeWidth.plainText⟩] := by
    refine readableTag_of_values ["cx", "cy", "r", "fill", "fill-opacity", "stroke", "stroke-width"]
      (.refl _) (by decide) ?_
    simp only [List.forall_mem_cons]
    exact ⟨readable_tenths _, readable_tenths _, readable_tenths _, hcolor, by decide, by decide,
      by decide, by simp⟩
  exact fragment_empty htag

/-- The labels of a ring: its name over the top, and its components along the bottom. -/
def labels (layer : Layer) : List Label :=
  ⟨"#" ++ upperId layer.index.plainText, layer.label⟩ ::
    layer.components.map fun component => ⟨"#" ++ lowerId layer.index.plainText, component⟩

theorem fragment_nameLabel (layer : Layer) :
    Fragment [nameLabel layer.index.plainText layer.label]
      [⟨"#" ++ upperId layer.index.plainText, layer.label⟩] 0 :=
  fragment_pathLabel (shows_plain layer.label) (readable_labelTag (by decide)) (by simp [labelAttributes])
    ((readable_id layer.index).append (by decide)) (by decide)

theorem fragment_componentLabels (layer : Layer) :
    Fragment (componentLabels layer.index.plainText layer.components)
      (layer.components.map fun component => ⟨"#" ++ lowerId layer.index.plainText, component⟩) 0 := by
  have hone : ∀ labelled ∈ layer.components.zip (segmentCenters layer.components.length),
      Fragment [componentLabel layer.index.plainText labelled.1 labelled.2]
        [⟨"#" ++ lowerId layer.index.plainText, labelled.1⟩] false.toNat := by
    intro labelled _
    exact fragment_pathLabel (shows_plain labelled.1) (readable_labelTag (by decide))
      (by simp [labelAttributes]) ((readable_id layer.index).append (by decide))
      (readable_percentage labelled.2)
  have hall := Fragment.flatMap hone
  rw [← List.map_eq_flatMap, ← List.map_eq_flatMap,
    map_labelled layer.components fun component =>
      (⟨"#" ++ lowerId layer.index.plainText, component⟩ : Label)] at hall
  simpa [componentLabels] using hall

theorem fragment_definitions (layer : Layer) (center : Point Binary64) (middle : Binary64) :
    Fragment (definitions layer center middle) [] 0 := by
  have hupper : Fragment [upperPath layer center middle] [] 0 :=
    fragment_pathElement ((readable_id layer.index).append (by decide)) (readable_realArc _ _ _)
  have hlower : Fragment [lowerPath layer center middle] [] 0 :=
    fragment_pathElement ((readable_id layer.index).append (by decide)) (readable_realArc _ _ _)
  unfold definitions
  split
  · exact hupper
  · exact hupper.append hlower

theorem fragment_lines (layer : Layer) (center : Point Binary64) (radius : Binary64)
    (hcolor : Avoids layer.color unquotable) :
    Fragment (lines layer center radius) (labels layer) 1 := by
  have hgroup : ReadableTag "g" [⟨"id", id layer.index.plainText⟩] := by
    refine readableTag_of_values ["id"] (.refl _) (by decide) ?_
    simp only [List.forall_mem_cons]
    exact ⟨readable_id layer.index, by simp⟩
  have hinner := ((fragment_circleLine layer center radius hcolor).append
    (fragment_nameLabel layer)).append (fragment_componentLabels layer)
  have hring := hinner.element hgroup (by decide) (by decide)
  simpa [lines, labels, groupTag] using hring

end Ring

/-! ## Connectors -/

namespace Connector

theorem readable_id (number : Nat) : Avoids (id number) unquotable :=
  Avoids.append (by decide) (readable_number _)

theorem sublist_classAttributes (name : Option String) :
    ((classAttributes name).map Attribute.name).Sublist ["class"] := by
  cases name with
  | none => exact List.nil_sublist _
  | some value => by_cases hempty : value = "" <;> simp [classAttributes, hempty]

theorem eq_some_of_mem_classAttributes {name : Option String} {a : Attribute}
    (ha : a ∈ classAttributes name) : name = some a.value := by
  cases name with
  | none => exact absurd ha (by simp [classAttributes])
  | some value =>
    by_cases hempty : value = ""
    · exact absurd ha (by simp [classAttributes, hempty])
    · obtain rfl : a = ⟨"class", value⟩ := by simpa [classAttributes, hempty] using ha
      rfl

theorem sublist_markerAttributes (marker : Option String) :
    ((markerAttributes marker).map Attribute.name).Sublist ["marker-end"] := by
  unfold markerAttributes
  cases nonempty? marker with
  | none => exact List.nil_sublist _
  | some name => exact .refl _

theorem exists_of_mem_markerAttributes {marker : Option String} {a : Attribute}
    (ha : a ∈ markerAttributes marker) :
    ∃ name, marker = some name ∧ a = ⟨"marker-end", reference name⟩ := by
  unfold markerAttributes at ha
  cases hmarker : nonempty? marker with
  | none =>
    rw [hmarker] at ha
    exact absurd ha List.not_mem_nil
  | some name =>
    rw [hmarker] at ha
    exact ⟨name, (nonempty?_eq_some hmarker).1, List.mem_singleton.mp ha⟩

/-- **The strings of a connector that go into attributes:** its paint, its marker and its class, and the
colour and the class of its label if there is one. -/
def attributeTexts (options : ConnectorOptions) : List String :=
  options.paint :: (attached options).toList ++ options.pathClass.toList ++
    if (nonempty? options.label).isSome then options.labelColor :: options.labelClass.toList else []

theorem fragment_clipLines (number : Nat) (clip : Option (List (Point Binary64))) :
    Fragment (clipLines (id number) clip) [] 0 := by
  cases clip with
  | none => exact fragment_nil
  | some region =>
    have hclip : ReadableTag "clipPath" [⟨"id", clipId (id number)⟩] := by
      refine readableTag_of_values ["id"] (.refl _) (by decide) ?_
      simp only [List.forall_mem_cons]
      exact ⟨(readable_id number).append (by decide), by simp⟩
    have hpolygon : ReadableTag "polygon" [⟨"points", pointsText region⟩] := by
      refine readableTag_of_values ["points"] (.refl _) (by decide) ?_
      simp only [List.forall_mem_cons]
      exact ⟨readable_points region, by simp⟩
    exact (fragment_empty hpolygon).element hclip (by decide) (by decide)

theorem fragment_missingMarkerLines {marker : Option String}
    (h : ∀ name, marker = some name → Avoids name unquotable) (defs : List String) :
    Fragment (missingMarkerLines marker defs) [] 0 := by
  cases hmarker : nonempty? marker with
  | none =>
    rw [missingMarkerLines_of_none hmarker]
    exact fragment_nil
  | some name =>
    rw [missingMarkerLines_of_some hmarker]
    by_cases hdefined : Marker.defined name defs = true
    · rw [if_pos hdefined]
      exact fragment_nil
    · rw [if_neg hdefined]
      exact Marker.fragment_headLines (h name (nonempty?_eq_some hmarker).1) (by decide)

theorem fragment_labelPaths (number : Nat) (segment : Segment) (options : ConnectorOptions) :
    Fragment (labelPaths (id number) segment.plainPathText options) [] 0 := by
  unfold labelPaths
  split
  · exact Ring.fragment_pathElement ((readable_id number).append (by decide)) (readable_segment segment)
  · exact fragment_nil

theorem readable_attached {options : ConnectorOptions}
    (h : ∀ text ∈ attributeTexts options, Avoids text unquotable) :
    ∀ name, attached options = some name → Avoids name unquotable := by
  intro name hname
  exact h name (by simp [attributeTexts, hname])

theorem fragment_definitions (number : Nat) (segment : Segment)
    (clip : Option (List (Point Binary64))) {options : ConnectorOptions} (defs : List String)
    (h : ∀ text ∈ attributeTexts options, Avoids text unquotable) :
    Fragment (definitions (id number) segment.plainPathText clip options defs) [] 0 := by
  exact ((fragment_clipLines number clip).append (fragment_missingMarkerLines (readable_attached h) _)).append
    (fragment_labelPaths number segment options)

theorem readable_groupTag (number : Nat) (clipped : Bool) :
    ReadableTag "g"
      (⟨"id", id number⟩ :: if clipped then [⟨"clip-path", reference (clipId (id number))⟩] else []) := by
  have hreference : Avoids (reference (clipId (id number))) unquotable :=
    (Avoids.append (by decide) ((readable_id number).append (by decide))).append (by decide)
  refine readableTag_of_values ["id", "clip-path"] ?_ (by decide) ?_
  · cases clipped <;> simp
  · cases clipped <;> simp [readable_id, hreference]

/-- The group of an interrupted connector is left open. -/
theorem openFragment_groupTag (number : Nat) (clipped : Bool) :
    OpenFragment [groupTag (id number) clipped] ["g"] [] 0 :=
  openFragment_openTag (readable_groupTag number clipped) (by decide) (by decide)

theorem fragment_group (number : Nat) (segment : Segment) (clipped : Bool) {options : ConnectorOptions}
    (h : ∀ text ∈ attributeTexts options, Avoids text unquotable) :
    Fragment [groupTag (id number) clipped, lineElement segment.plainPathText options.width.plainText options
      (attached options), closeTag "g"] [] 0 := by
  have hline : ReadableTag "path"
      (⟨"d", segment.plainPathText⟩ :: classAttributes options.pathClass ++
        [⟨"fill", "none"⟩, ⟨"stroke", options.paint⟩, ⟨"stroke-width", options.width.plainText⟩] ++
        markerAttributes (attached options)) := by
    refine readableTag_of_values
      ("d" :: ["class"] ++ ["fill", "stroke", "stroke-width"] ++ ["marker-end"]) ?_ (by decide) ?_
    · -- Class and marker may be missing, so the names are a part of a fixed list.
      simp only [List.map_append, List.map_cons, List.cons_append]
      exact (((sublist_classAttributes _).append (.refl _)).append
        (sublist_markerAttributes _)).cons_cons "d"
    · intro a ha
      simp only [List.cons_append, List.mem_cons, List.mem_append, List.not_mem_nil, or_false] at ha
      rcases ha with rfl | (hclass | rfl | rfl | rfl) | hmarker
      · exact readable_segment segment
      · exact h a.value (by simp [attributeTexts, eq_some_of_mem_classAttributes hclass])
      · exact (by decide : Avoids "none" unquotable)
      · exact h options.paint (by simp [attributeTexts])
      · exact readable_number options.width
      · obtain ⟨name, hname, rfl⟩ := exists_of_mem_markerAttributes hmarker
        have hid : Avoids name unquotable := h name (by simp [attributeTexts, hname])
        exact (Avoids.append (by decide) hid).append (by decide)
  exact (fragment_empty hline).element (readable_groupTag number clipped) (by decide) (by decide)

theorem shows_raisedLabel (text : String) : (Content.markup [raisedLabel text]).Shows text := by
  have htag : ReadableTag "tspan" [⟨"dy", Style.arrowTextRise.plainText⟩] := by
    refine readableTag_of_values ["dy"] (.refl _) (by decide) ?_
    simp only [List.forall_mem_cons]
    exact ⟨by decide, by simp⟩
  refine ⟨_, ?_, (nested_data text.toList).element htag (by decide),
    (textOf_data text).element (by decide) [⟨"dy", Style.arrowTextRise.plainText⟩]⟩
  have hinner : (Content.markup [raisedLabel text]).inner = raisedLabel text := by
    simp [Content.inner]
  rw [hinner]
  exact ((reads_openTag htag.named htag.readable).append (reads_escape text)).append
    (reads_closeTag htag.named)

/-- The labels of a connector with a number: its text, unless it is empty. -/
def labels (number : Nat) (options : ConnectorOptions) : List Label :=
  (nonempty? options.label).toList.map fun text => ⟨"#" ++ labelPathId (id number), text⟩

theorem fragment_labelLines (number : Nat) {options : ConnectorOptions}
    (h : ∀ text ∈ attributeTexts options, Avoids text unquotable) :
    Fragment (labelLines (id number) options) (labels number options) 0 := by
  unfold labelLines labels
  cases hlabel : nonempty? options.label with
  | none => exact fragment_nil
  | some text =>
    have htag : ReadableTag "text" (labelAttributes options) := by
      refine readableTag_of_values
        ("text-anchor" :: ["class"] ++ ["font-family", "font-size", "fill"]) ?_ (by decide) ?_
      · simp only [labelAttributes, fontAttributes, List.map_cons, List.map_append, List.cons_append]
        exact ((sublist_classAttributes _).append (.refl _)).cons_cons "text-anchor"
      · intro a ha
        simp only [labelAttributes, fontAttributes, List.cons_append, List.mem_cons, List.mem_append,
          List.not_mem_nil, or_false] at ha
        rcases ha with rfl | hclass | rfl | rfl | rfl
        · exact (by decide : Avoids "middle" unquotable)
        · exact h a.value (by simp [attributeTexts, hlabel, eq_some_of_mem_classAttributes hclass])
        · exact (by decide : Avoids Style.fontFamily unquotable)
        · exact readable_number Style.fontSize
        · exact h options.labelColor (by simp [attributeTexts, hlabel])
    exact fragment_pathLabel (shows_raisedLabel text) htag (by simp [labelAttributes])
      ((readable_id number).append (by decide)) (by decide)

theorem fragment_lines (number : Nat) (segment : Segment) (clipped : Bool) {options : ConnectorOptions}
    (h : ∀ text ∈ attributeTexts options, Avoids text unquotable) :
    Fragment (lines (id number) segment.plainPathText clipped options) (labels number options) 0 :=
  (fragment_group number segment clipped h).append (fragment_labelLines number h)

end Connector

/-! ## Moments of a run -/

/-- The strings of a step that go into attributes as they are. -/
def Step.attributeTexts : Step → List String
  | .arrowHead id color => [id, color]
  | .arrowPattern id color => [id, color]
  | .ring layer _ => [layer.color]
  | .connector _ options => Connector.attributeTexts options
  | _ => []

/-- Whether a step draws a connector that is interrupted. -/
def Step.isInterrupted [DigitLimit] : Step → Bool
  | .connector span options => decide (Connector.Interrupted span options)
  | _ => false

variable [DigitLimit]

/-- Whether a connector opens its group: it is drawn, or it is interrupted behind the tag. -/
def Moment.opens (m : Moment) : Bool := m.succeeds || m.step.isInterrupted

theorem Moment.opens_of_succeeds {m : Moment} (h : m.succeeds = true) : m.opens = true := by
  rw [opens, h, Bool.true_or]

theorem Moment.opens_of_interrupted {canvas : Canvas} {span : Segment} {options : ConnectorOptions}
    (h : Connector.Interrupted span options) : Moment.opens ⟨canvas, .connector span options⟩ = true := by
  rw [opens, Step.isInterrupted, decide_eq_true h, Bool.or_true]

/-- **The labels that a moment adds:** those of a ring or a connector, if it succeeds. -/
def Moment.labels (m : Moment) : List Label :=
  if m.succeeds then
    match m.step with
    | .ring layer _ => Ring.labels layer
    | .connector _ options => Connector.labels m.canvas.body.length options
    | _ => []
  else
    []

/-- **Each builder adds a fragment to both lists,** as long as a ring does not fail halfway. Only an
interrupted connector leaves an element open, its group. -/
theorem Moment.fragments {m : Moment} (hbuilder : m.step.isBuilder = true)
    (hring : m.step.isRing = true → m.succeeds = true)
    (htexts : ∀ text ∈ m.step.attributeTexts, Avoids text unquotable) :
    Fragment m.drawing.defs [] 0 ∧
      OpenFragment m.drawing.body (List.replicate m.step.isInterrupted.toNat "g") m.labels
        m.step.isRing.toNat := by
  obtain ⟨canvas, step⟩ := m
  cases step with
  | arrowHead id color =>
    simp only [Step.attributeTexts, List.forall_mem_cons] at htexts
    exact ⟨Marker.fragment_headLines htexts.1 htexts.2.1, fragment_nil⟩
  | arrowPattern id color =>
    simp only [Step.attributeTexts, List.forall_mem_cons] at htexts
    exact ⟨Marker.fragment_patternLines htexts.1 htexts.2.1, fragment_nil⟩
  | ring layer spacing =>
    have hcolor : Avoids layer.color unquotable := htexts layer.color (by simp [Step.attributeTexts])
    -- A ring that stops halfway leaves its group open, which is why it has to succeed.
    obtain ⟨radius, center, r, half, -, -, -, -, -, hdrawing⟩ := Moment.ring_whole (hring rfl)
    rw [Moment.labels, if_pos (hring rfl), hdrawing]
    exact ⟨Ring.fragment_definitions layer _ _, Ring.fragment_lines layer _ _ hcolor⟩
  | connector span options =>
    rcases Moment.connector_cases canvas span options with
      ⟨hfails, hnot, hdefs, hbody⟩ | ⟨hfails, hinterrupted, hdefs, hbody⟩ |
        ⟨segment, clip, hsucceeds, hwidth, hdefs, hbody⟩
    · rw [hdefs, hbody, Moment.labels, if_neg (by simp [hfails]), Step.isInterrupted, decide_eq_false hnot]
      exact ⟨fragment_nil, fragment_nil⟩
    · rw [hdefs, hbody, Moment.labels, if_neg (by simp [hfails]), Step.isInterrupted, decide_eq_true hinterrupted]
      exact ⟨Connector.fragment_missingMarkerLines (Connector.readable_attached htexts) _,
        Connector.openFragment_groupTag _ _⟩
    · have hnot : ¬ Connector.Interrupted span options := fun hinterrupted => hinterrupted.width hwidth
      rw [hdefs, hbody, Moment.labels, if_pos hsucceeds, Step.isInterrupted, decide_eq_false hnot]
      exact ⟨Connector.fragment_definitions _ _ _ _ htexts, Connector.fragment_lines _ _ _ htexts⟩
  | label pathId content offset attributes => exact absurd hbuilder Bool.false_ne_true
  | define lines => exact absurd hbuilder Bool.false_ne_true
  | paint lines => exact absurd hbuilder Bool.false_ne_true
  | center => exact absurd hbuilder Bool.false_ne_true
  | render style => exact absurd hbuilder Bool.false_ne_true

end Concentric
