import Concentric.Proofs.Extension
import Concentric.Proofs.Geometry.Regions
import Concentric.Proofs.Identifiers
import Concentric.Proofs.Markers.References
import Concentric.Proofs.Markup.Values

/-!
# Connectors and what they return

A connector writes its path twice, as the stroke in the body and as the path of its label among the definitions, and
returns it. Its clip region and its marker are written if they are returned, and not otherwise. All of this is read
off the lines, whatever the strings of the connector hold (`agrees_of_drawn`). The corners of a clip region take
another way than the ends of the stroke, through doubles; for whole numbers up to 2^52 both are printed without loss
(`exact_of_clipping`).
-/

namespace Concentric

open Markup Text

namespace Connector

/-! ## Reading the lines -/

/-- **The clip regions that lines define:** the identifier, and the points of the polygon behind the opening tag. -/
def clipRegions : List String → List (String × String)
  | opening :: polygon :: rest =>
    match idOf? "clipPath" opening, values? "polygon" ["points"] polygon with
    | some id, some [points] => (id, points) :: clipRegions rest
    | _, _ => clipRegions (polygon :: rest)
  | _ => []

/-- Whether the last attribute on a line is a reference to a marker. -/
def EndsWithMarker (line : String) : Prop := ∃ name, (markerEnd name).toList <:+ line.toList

/-- **The lines of a connector agree with what it returns.** -/
structure Agrees (number : Nat) (options : ConnectorOptions) (made : Connector) (drawing : Drawing Answer) : Prop where
  /-- The stroke has the returned path. -/
  stroke : drawing.body.filterMap (values? "path" ["d"]) = [[made.path]]
  /-- The path that a label follows is the returned one. Without a label there is none. -/
  label : drawing.defs.filterMap (values? "path" ["id", "d"]) =
    if options.label.getD "" = "" then [] else [[labelPathId (id number), made.path]]
  /-- The group refers to a clip region if one is returned. -/
  clipped : drawing.body.filterMap clipOf? = if made.clip.isSome then [clipId (id number)] else []
  /-- A clip region is defined if one is returned. -/
  defined : drawing.defs.filterMap (idOf? "clipPath") = if made.clip.isSome then [clipId (id number)] else []
  /-- The polygon of the clip region has the returned corners. -/
  region : clipRegions drawing.defs = made.clip.toList.map fun region => (clipId (id number), pointsText region)
  /-- A line ends with a reference to a marker if the returned one has a name. -/
  marked : (∃ line ∈ drawing.body, EndsWithMarker line) ↔ ∃ name, made.marker = some name ∧ name ≠ ""
  /-- A marker that is returned with a name is referred to by that name. -/
  named : ∀ name, made.marker = some name → name ≠ "" → ∃ line ∈ drawing.body, (markerEnd name).toList <:+ line.toList

/-- **A clipped connector without any rounding:** the polygon that is printed and the corners that are returned have the
values of exact arithmetic, and the stroke runs a margin further at both ends. -/
structure Exact (x1 y1 x2 y2 w : Int) (drawing : Drawing Answer) : Prop where
  region : ∃ made region, drawing.outcome = .ok (.connector made) ∧ made.clip = some region ∧
    region.mapM Point.value? = some (exactCorners x1 y1 x2 y2 w)
  polygon : (clipRegions drawing.defs).map (fun region => readPoints? region.2) =
    [some (exactCorners x1 y1 x2 y2 w)]
  stroke : ∃ path, drawing.body.filterMap (values? "path" ["d"]) = [[path]] ∧
    readPath path = ([], [⟨"M", [.whole (x1 - margin), .whole y1]⟩, ⟨"L", [.whole (x2 + margin), .whole y2]⟩])

/-- **How a connector on a canvas agrees with itself.** -/
structure Coherent [DigitLimit] (canvas : Canvas) (span : Segment) (options : ConnectorOptions) : Prop where
  agrees : ∀ answer, ((Step.connector span options).drawing canvas).outcome = .ok answer →
    ∃ made, answer = .connector made ∧
      Agrees canvas.body.length options made ((Step.connector span options).drawing canvas)
  unrounded : options.clipping = true → ∀ {x1 y1 x2 y2 w : Int}, (∀ z ∈ [x1, y1, x2, y2, w], z.natAbs ≤ 2 ^ 52) →
    span = ⟨⟨.whole x1, .whole y1⟩, ⟨.whole x2, .whole y2⟩⟩ → options.width = .whole w →
    Exact x1 y1 x2 y2 w ((Step.connector span options).drawing canvas)

/-! ## The stroke -/

section Lines

variable (number : Nat) (segment : Segment) (clip : Option (List (Point Binary64))) (options : ConnectorOptions)
  (defs : List String)

theorem quote_not_mem_plainPathText (segment : Segment) : '"' ∉ segment.plainPathText.toList := by
  have havoids : Avoids segment.plainPathText ['"'] := avoids_segment segment (by decide) (by decide)
  exact havoids.not_mem (List.mem_singleton_self '"')

theorem values?_lineElement (width : String) :
    values? "path" ["d"] (lineElement segment.plainPathText width options (attached options)) =
      some [segment.plainPathText] := by
  have hquotes : ∀ a ∈ [Attribute.mk "d" segment.plainPathText], '"' ∉ a.value.toList :=
    List.forall_mem_singleton.mpr (quote_not_mem_plainPathText segment)
  exact values?_emptyElement "path" hquotes _

/-- **The stroke is read off the body.** -/
theorem filterMap_values?_lines (clipped : Bool) :
    (lines (id number) segment.plainPathText clipped options).filterMap (values? "path" ["d"]) =
      [[segment.plainPathText]] := by
  have hgroup : values? "path" ["d"] (groupTag (id number) clipped) = none :=
    (beginsWith_openTag (by decide) _).values?_eq_none (by decide) (by decide) _ _
  have hclose : values? "path" ["d"] (closeTag "g") = none := values?_closeTag (by decide) _ _ _
  have hlabel : (labelLines (id number) options).filterMap (values? "path" ["d"]) = [] := by
    unfold labelLines
    split
    · have hnone := (beginsWith_pathLabel (labelPathId (id number)) (.markup [raisedLabel ‹String›]) "50%"
        (attributesText (labelAttributes options))).values?_eq_none
        (by decide : Scanner.isName "path".toList = true) (by decide) "d" []
      simp only [List.filterMap_cons, List.filterMap_nil, hnone]
    · rfl
  rw [lines, List.filterMap_append, hlabel, List.append_nil]
  simp only [List.filterMap_cons, List.filterMap_nil, hgroup, hclose, values?_lineElement]

/-! ## Definitions -/

/-- A line of the definitions that is neither a label path nor opens a clip region. -/
def Silent (line : String) : Prop := values? "path" ["id", "d"] line = none ∧ idOf? "clipPath" line = none

theorem silent_of_begins {line name : String} (h : BeginsWith line name) (hpath : "path" ≠ name)
    (hregion : "clipPath" ≠ name) : Silent line := by
  refine ⟨h.values?_eq_none (by decide) hpath _ _, ?_⟩
  rw [idOf?, h.inside?_eq_none (by decide) hregion, Option.map_none]

theorem silent_closeTag (name : String) : Silent (closeTag name) := by
  refine ⟨values?_closeTag (by decide) _ _ _, ?_⟩
  rw [idOf?, inside?_closeTag (by decide), Option.map_none]

/-- The definition of a marker is silent, whatever its name is. -/
theorem silent_missingMarkerLines (marker : Option String) :
    ∀ line ∈ missingMarkerLines marker defs, Silent line := by
  cases hmarker : nonempty? marker with
  | none =>
    rw [missingMarkerLines_of_none hmarker]
    exact List.forall_mem_nil _
  | some name =>
    rw [missingMarkerLines_of_some hmarker]
    split
    · exact List.forall_mem_nil _
    · simp only [Marker.headLines, List.forall_mem_cons]
      refine ⟨?_, ?_, silent_closeTag "marker", List.forall_mem_nil _⟩
      · exact silent_of_begins (beginsWith_openTag (by decide) _) (by decide) (by decide)
      · exact silent_of_begins (beginsWith_emptyElement (by decide) _) (by decide) (by decide)

theorem filterMap_eq_nil_of_silent {lines : List String} (h : ∀ line ∈ lines, Silent line) :
    lines.filterMap (values? "path" ["id", "d"]) = [] := by
  rw [List.filterMap_eq_nil_iff]
  exact fun line hline => (h line hline).1

/-- **The label path is read off the definitions.** -/
theorem filterMap_values?_definitions :
    (definitions (id number) segment.plainPathText clip options defs).filterMap (values? "path" ["id", "d"]) =
      if options.label.getD "" = "" then [] else [[labelPathId (id number), segment.plainPathText]] := by
  have hclip : (clipLines (id number) clip).filterMap (values? "path" ["id", "d"]) = [] := by
    cases clip with
    | none => rfl
    | some region =>
      rw [List.filterMap_eq_nil_iff]
      simp only [clipLines, List.forall_mem_cons]
      refine ⟨?_, ?_, values?_closeTag (by decide) _ _ _, List.forall_mem_nil _⟩
      · exact (beginsWith_openTag (by decide) _).values?_eq_none (by decide) (by decide) _ _
      · exact (beginsWith_emptyElement (by decide) _).values?_eq_none (by decide) (by decide) _ _
  have hmarker := filterMap_eq_nil_of_silent
    (silent_missingMarkerLines (defs ++ clipLines (id number) clip) (attached options))
  have hquotes : ∀ a ∈ [Attribute.mk "id" (labelPathId (id number)), ⟨"d", segment.plainPathText⟩],
      '"' ∉ a.value.toList := by
    simp only [List.forall_mem_cons]
    exact ⟨(avoids_name (.connector number) .label).not_mem (by simp), quote_not_mem_plainPathText segment,
      List.forall_mem_nil _⟩
  have hpath : values? "path" ["id", "d"]
      (emptyElement "path" [⟨"id", labelPathId (id number)⟩, ⟨"d", segment.plainPathText⟩]) =
      some [labelPathId (id number), segment.plainPathText] :=
    values?_emptyElement "path" hquotes []
  rw [definitions, List.filterMap_append, List.filterMap_append, hclip, hmarker, List.nil_append, List.nil_append,
    labelPaths]
  cases hlabel : options.label with
  | none => rfl
  | some text =>
    by_cases hempty : text = ""
    · simp [nonempty?, hempty]
    · simp [nonempty?, hempty, hpath]

/-- Lines that open no clip region define none. -/
theorem clipRegions_eq_nil {lines : List String} (h : ∀ line ∈ lines, idOf? "clipPath" line = none) :
    clipRegions lines = [] := by
  induction lines with
  | nil => rfl
  | cons line rest ih =>
    rw [List.forall_mem_cons] at h
    cases rest with
    | nil => rfl
    | cons next more =>
      rw [clipRegions, h.1]
      exact ih h.2

/-- **The clip region is read off the definitions.** -/
theorem clipRegions_definitions :
    clipRegions (definitions (id number) segment.plainPathText clip options defs) =
      clip.toList.map fun region => (clipId (id number), pointsText region) := by
  have hlabel : ∀ line ∈ labelPaths (id number) segment.plainPathText options, idOf? "clipPath" line = none := by
    intro line hline
    unfold labelPaths at hline
    split at hline
    · rw [List.mem_singleton.mp hline, idOf?,
        (beginsWith_emptyElement (by decide) _).inside?_eq_none (by decide) (by decide), Option.map_none]
    · exact absurd hline List.not_mem_nil
  have hrest : ∀ line ∈ missingMarkerLines (attached options) (defs ++ clipLines (id number) clip) ++
      labelPaths (id number) segment.plainPathText options, idOf? "clipPath" line = none := by
    rw [List.forall_mem_append]
    exact ⟨fun line hline => (silent_missingMarkerLines _ _ line hline).2, hlabel⟩
  rw [definitions, List.append_assoc]
  cases clip with
  | none => exact clipRegions_eq_nil hrest
  | some region =>
    have hid : '"' ∉ (clipId (id number)).toList := (avoids_name (.connector number) .region).not_mem (by simp)
    have hpoints : ∀ a ∈ [Attribute.mk "points" (pointsText region)], '"' ∉ a.value.toList := by
      have havoids : Avoids (pointsText region) ['"'] :=
        avoids_pointsText region (by decide) (by decide) (by decide)
      exact List.forall_mem_singleton.mpr (havoids.not_mem (List.mem_singleton_self '"'))
    have hpolygon : values? "polygon" ["points"] (emptyElement "polygon" [⟨"points", pointsText region⟩]) =
        some [pointsText region] :=
      values?_emptyElement "polygon" hpoints []
    have hclose : ∀ line ∈ closeTag "clipPath" :: (missingMarkerLines (attached options)
        (defs ++ clipLines (id number) (some region)) ++ labelPaths (id number) segment.plainPathText options),
        idOf? "clipPath" line = none := by
      rw [List.forall_mem_cons]
      exact ⟨(silent_closeTag "clipPath").2, hrest⟩
    rw [clipLines, List.cons_append, List.cons_append, List.cons_append, List.nil_append, clipRegions,
      idOf?_openTag hid, hpolygon]
    simp only [clipLines] at hclose
    rw [clipRegions_eq_nil hclose]
    rfl

/-! ## The marker -/

/-- **Without a marker the stroke ends with its width,** and no number ends with a bracket. -/
theorem not_endsWithMarker {path : String} (h : nonempty? (attached options) = none) :
    ¬ EndsWithMarker (lineElement path options.width.plainText options (attached options)) := by
  rintro ⟨name, front, hsame⟩
  obtain ⟨front', hlast⟩ := lineElement_eq path options
  have hvalue : lastValue options = options.width.plainText := by
    rw [lastValue, h]
    rfl
  have hreference : (markerEnd name).toList = (" marker-end=\"url(#" ++ name).toList ++ [')'] ++ "\"/>".toList := by
    simp [markerEnd, reference]
  have hcut : (front ++ (" marker-end=\"url(#" ++ name).toList ++ [')']) ++ "\"/>".toList =
      (front' ++ '"' :: options.width.plainText.toList) ++ "\"/>".toList := by
    rw [hlast, hvalue, hreference] at hsame
    simpa using hsame
  have hends := congrArg List.getLast? (List.append_cancel_right hcut)
  rw [List.getLast?_concat, List.getLast?_append_cons] at hends
  have hmem : ')' ∈ '"' :: options.width.plainText.toList := List.mem_of_getLast? hends.symm
  rcases List.mem_cons.mp hmem with hquote | hdigit
  · exact absurd hquote (by decide)
  · exact absurd (numeric_plainText options.width ')' hdigit) (by decide)

theorem suffix_emptyElement (tag : String) (front : List Attribute) (name : String) :
    (markerEnd name).toList <:+ (emptyElement tag (front ++ [⟨"marker-end", reference name⟩])).toList :=
  ⟨("<" ++ tag ++ spacedAttributes front).toList, by simp [emptyElement, spacedAttributes, Attribute.text, markerEnd]⟩

theorem suffix_lineElement {path name : String} (width : String) (h : nonempty? (attached options) = some name) :
    (markerEnd name).toList <:+ (lineElement path width options (attached options)).toList := by
  have hattributes : markerAttributes (attached options) = [⟨"marker-end", reference name⟩] := by
    rw [markerAttributes, h]
  rw [lineElement, hattributes]
  exact suffix_emptyElement _ _ name

/-- The stroke is the line that refers to the marker. -/
theorem exists_suffix_lines {path name : String} (clipped : Bool) (h : attached options = some name) (hne : name ≠ "") :
    ∃ line ∈ lines (id number) path clipped options, (markerEnd name).toList <:+ line.toList :=
  ⟨_, List.mem_cons_of_mem _ List.mem_cons_self, suffix_lineElement options _ (nonempty?_of_ne h hne)⟩

/-- **The marker is read off the body.** -/
theorem exists_endsWithMarker_iff {path : String} (clipped : Bool) :
    (∃ line ∈ lines (id number) path clipped options, EndsWithMarker line) ↔
      ∃ name, attached options = some name ∧ name ≠ "" := by
  constructor
  · rintro ⟨line, hline, name, hend⟩
    rw [eq_lineElement_of_markerEnd hline hend] at hend
    cases hmarker : nonempty? (attached options) with
    | none => exact absurd ⟨name, hend⟩ (not_endsWithMarker options hmarker)
    | some other => exact ⟨other, nonempty?_eq_some hmarker⟩
  · rintro ⟨name, hattached, hne⟩
    obtain ⟨line, hline, hend⟩ := exists_suffix_lines number options clipped hattached hne
    exact ⟨line, hline, name, hend⟩

end Lines

/-! ## Connectors -/

/-- **A whole connector agrees with what it returns.** -/
theorem agrees_of_drawn {number : Nat} {segment : Segment} {clip : Option (List (Point Binary64))}
    {options : ConnectorOptions} {defs : List String} {drawing : Drawing Answer}
    (hdefs : drawing.defs = definitions (id number) segment.plainPathText clip options defs)
    (hbody : drawing.body = lines (id number) segment.plainPathText clip.isSome options) :
    Agrees number options ⟨segment.plainPathText, clip, attached options⟩ drawing where
  stroke := by
    rw [hbody]
    exact filterMap_values?_lines number segment options clip.isSome
  label := by
    rw [hdefs]
    exact filterMap_values?_definitions number segment clip options defs
  clipped := by
    rw [hbody]
    exact congrArg Identifiers.clips (identifiers_lines number segment.plainPathText clip.isSome options)
  defined := by
    rw [hdefs]
    exact congrArg Identifiers.regions (identifiers_definitions number segment.plainPathText clip options defs)
  region := by
    rw [hdefs]
    exact clipRegions_definitions number segment clip options defs
  marked := by
    rw [hbody]
    exact exists_endsWithMarker_iff number options clip.isSome
  named := by
    intro name hattached hne
    rw [hbody]
    exact exists_suffix_lines number options clip.isSome hattached hne

/-- Whole numbers up to 2^52 are far from every limit of digits, and so are those a margin further. -/
theorem admits_of_le [DigitLimit] {z : Int} (h : z.natAbs ≤ 2 ^ 52 + 100) : DigitLimit.Admits z :=
  DigitLimit.admits_of_lt (by decide : 0 < 16) (by decide) (Nat.lt_of_le_of_lt h (by decide))

/-- **A clipped connector between whole points in range succeeds and is drawn exactly.** -/
theorem exact_of_clipping [DigitLimit] (canvas : Canvas) {options : ConnectorOptions}
    (hclipping : options.clipping = true) {x1 y1 x2 y2 w : Int}
    (hrange : ∀ z ∈ [x1, y1, x2, y2, w], z.natAbs ≤ 2 ^ 52) (hwidth : options.width = .whole w) :
    Exact x1 y1 x2 y2 w
      ((Step.connector ⟨⟨.whole x1, .whole y1⟩, ⟨.whole x2, .whole y2⟩⟩ options).drawing canvas) := by
  obtain ⟨region, hregion, hreturned, hprinted⟩ := exists_exactRegion hrange
  have hsegment := drawnSegment_whole hclipping x1 y1 x2 y2
  have hclip : clipRegion? ⟨⟨.whole x1, .whole y1⟩, ⟨.whole x2, .whole y2⟩⟩ options = .ok (some region) := by
    rw [clipRegion?, if_pos hclipping, hwidth, hregion]
    rfl
  have hwritable : Segment.Writable ⟨⟨.whole (x1 - margin), .whole y1⟩, ⟨.whole (x2 + margin), .whole y2⟩⟩ := by
    simp only [List.forall_mem_cons] at hrange
    simp only [Segment.Writable, List.forall_mem_cons, Number.Writable]
    exact ⟨admits_of_le (by unfold margin; omega), admits_of_le (by omega), admits_of_le (by unfold margin; omega),
      admits_of_le (by omega), List.forall_mem_nil _⟩
  have hwidth' := writable_of_clipRegion?_eq_ok hclipping hclip
  rw [Step.drawing_connector, draw_of_whole hsegment hwritable hclip hwidth']
  refine ⟨⟨_, region, rfl, rfl, hreturned⟩, ?_, _, filterMap_values?_lines _ _ _ _, readPath_whole _ _ _ _⟩
  rw [clipRegions_definitions, Option.toList_some, List.map_singleton, List.map_singleton, hprinted]

end Connector

/-- **Stroke, label path, clip region and marker of a connector agree.** -/
theorem connector_coherent [DigitLimit] (canvas : Canvas) (span : Segment) (options : ConnectorOptions) :
    Connector.Coherent canvas span options where
  agrees := by
    intro answer hanswer
    have hdrawn := Connector.drawn canvas span options
    rw [Step.drawing_connector] at hanswer ⊢
    generalize Connector.draw canvas span options = drawing at hdrawn hanswer ⊢
    cases hdrawn with
    | refused e cause => exact nomatch hanswer
    | interrupted cause => exact nomatch hanswer
    | whole hsegment hwritable hclip hwidth =>
      obtain rfl := Except.ok.inj hanswer
      exact ⟨_, rfl, Connector.agrees_of_drawn rfl rfl⟩
  unrounded := by
    intro hclipping x1 y1 x2 y2 w hrange hspan hwidth
    rw [hspan]
    exact Connector.exact_of_clipping canvas hclipping hrange hwidth

section Steep

attribute [local instance] DigitLimit.standard

/-- A span from right to left, from the corner of the exact range. -/
def steepSpan : Segment := ⟨⟨.whole (2 ^ 52 : Nat), .whole (-(2 ^ 52 : Nat))⟩, ⟨.whole (-3), .whole 7⟩⟩

/-- A clipped connector with a label and a head. -/
def steepOptions : ConnectorOptions := { width := 4, label := some "x < y", clipping := true }

/-- **Both parts of the law at one connector,** whose polygon reaches past the exact range. -/
theorem steepConnector_coherent :
    (∃ made, ((Step.connector steepSpan steepOptions).drawing (.blank 410 410)).outcome = .ok (.connector made) ∧
      Connector.Agrees 0 steepOptions made ((Step.connector steepSpan steepOptions).drawing (.blank 410 410))) ∧
    Connector.Exact (2 ^ 52 : Nat) (-(2 ^ 52 : Nat)) (-3) 7 4
      ((Step.connector steepSpan steepOptions).drawing (.blank 410 410)) ∧
    Connector.clipRegions ((Step.connector steepSpan steepOptions).drawing (.blank 410 410)).defs =
      [("connector-0-clip",
        "4503599627370496.0,-4503599627370500.0 -3.0,3.0 -3.0,11.0 4503599627370496.0,-4503599627370492.0")] := by
  have hcoherent := connector_coherent (.blank 410 410) steepSpan steepOptions
  have hexact := hcoherent.unrounded rfl (by decide +kernel) rfl rfl
  refine ⟨?_, hexact, by decide +kernel⟩
  obtain ⟨made, region, hmade, -⟩ := hexact.region
  obtain ⟨same, hsame, hagrees⟩ := hcoherent.agrees _ hmade
  obtain rfl := Answer.connector.inj hsame
  exact ⟨made, hmade, hagrees⟩

end Steep

end Concentric
