import Concentric.Proofs.Markup.Line
import Concentric.Proofs.Run

/-!
# The lines of the builders

Every builder adds drawing lines, whether it succeeds or stops halfway, as long as there is no line feed in the
strings that it is given (`Moment.drawingLines`). This is where a canvas differs from an arbitrary pair of lists.
-/

namespace Concentric

open Markup Text

/-! ## Printed values -/

theorem single_number (n : Number) : Avoids n.plainText ['\n'] := (numeric_plainText n).avoids (by decide)

theorem single_tenths (x : Binary64) : Avoids (String.ofList x.tenthsChars) ['\n'] :=
  avoids_tenths x (by decide)

/-! ## Markers and patterns -/

namespace Marker

variable {id color : String} (hid : Avoids id ['\n']) (hcolor : Avoids color ['\n'])
include hid hcolor

theorem drawingLines_headLines : DrawingLines (headLines id color) := by
  have hpolygon : DrawingLine
      (emptyElement "polygon" ([⟨"points", "0,0 10,3.5 0,7"⟩] ++ [⟨"fill", color⟩])) := by
    refine drawingLine_emptyElement (by decide) (List.forall_mem_append.mpr ⟨by decide, ?_⟩)
    exact List.forall_mem_singleton.mpr (single_mk (by decide) hcolor)
  refine (hpolygon.cons drawingLines_nil).element (by decide) ?_
  exact List.forall_mem_cons.mpr ⟨single_mk (by decide) hid, by decide⟩

theorem drawingLines_patternLines : DrawingLines (patternLines id color) := by
  have hline : DrawingLine (emptyElement "line"
      ([⟨"x1", "0"⟩, ⟨"y1", "3.5"⟩, ⟨"x2", "10"⟩, ⟨"y2", "3.5"⟩] ++
        [⟨"stroke", color⟩, ⟨"stroke-width", "1"⟩])) := by
    refine drawingLine_emptyElement (by decide) (List.forall_mem_append.mpr ⟨by decide, ?_⟩)
    exact List.forall_mem_cons.mpr ⟨single_mk (by decide) hcolor, by decide⟩
  have hpolygon : DrawingLine
      (emptyElement "polygon" ([⟨"points", "10,0 20,3.5 10,7"⟩] ++ [⟨"fill", color⟩])) := by
    refine drawingLine_emptyElement (by decide) (List.forall_mem_append.mpr ⟨by decide, ?_⟩)
    exact List.forall_mem_singleton.mpr (single_mk (by decide) hcolor)
  have hname : IsDrawingName "g" := by decide
  have hgroup := (hline.cons (hpolygon.cons drawingLines_nil)).element hname (List.forall_mem_nil _)
  refine hgroup.element (by decide) ?_
  exact List.forall_mem_cons.mpr ⟨single_mk (by decide) hid, by decide⟩

end Marker

/-! ## Rings -/

namespace Ring

theorem single_id (index : Number) : Avoids (id index.plainText) ['\n'] :=
  Avoids.append (by decide) (single_number index)

theorem drawingLine_pathElement {id path : String} (hid : Avoids id ['\n']) (hpath : Avoids path ['\n']) :
    DrawingLine (pathElement id path) := by
  refine drawingLine_emptyElement (by decide) ?_
  simp only [List.forall_mem_cons]
  exact ⟨single_mk (by decide) hid, single_mk (by decide) hpath, List.forall_mem_nil _⟩

theorem single_realArc (radius : Binary64) (center : Point Binary64) (sweep : Number) :
    Avoids (plainPathText (realArc radius center sweep)) ['\n'] :=
  avoids_realArc radius center sweep (by decide) (by decide)

theorem drawingLines_definitions (layer : Layer) (center : Point Binary64) (middle : Binary64) :
    DrawingLines (definitions layer center middle) := by
  have hupper : DrawingLine (upperPath layer center middle) :=
    drawingLine_pathElement ((single_id layer.index).append (by decide)) (single_realArc _ _ _)
  have hlower : DrawingLine (lowerPath layer center middle) :=
    drawingLine_pathElement ((single_id layer.index).append (by decide)) (single_realArc _ _ _)
  unfold definitions
  split
  · exact hupper.cons drawingLines_nil
  · exact hupper.cons (hlower.cons drawingLines_nil)

theorem single_groupAttributes (index : Number) : ∀ a ∈ [Attribute.mk "id" (id index.plainText)], a.Single :=
  List.forall_mem_singleton.mpr (single_mk (by decide) (single_id index))

theorem drawingLine_groupTag (index : Number) : DrawingLine (groupTag index) :=
  drawingLine_openTag (by decide) (single_groupAttributes index)

theorem drawingLine_circleLine {layer : Layer} (hcolor : Avoids layer.color ['\n'])
    (center : Point Binary64) (radius : Binary64) : DrawingLine (circleLine layer center radius) := by
  refine drawingLine_emptyElement (by decide) ?_
  simp only [List.forall_mem_cons]
  exact ⟨single_mk (by decide) (single_tenths _), single_mk (by decide) (single_tenths _),
    single_mk (by decide) (single_tenths _), single_mk (by decide) hcolor, by decide⟩

theorem single_labelAttributes {fill : String} (hfill : Avoids fill ['\n']) :
    Avoids (attributesText (labelAttributes fill)) ['\n'] := by
  refine avoids_attributesText ?_
  simp only [labelAttributes, fontAttributes, List.cons_append, List.nil_append, List.forall_mem_cons]
  exact ⟨by decide, by decide, by decide, by decide, single_mk (by decide) hfill, List.forall_mem_nil _⟩

theorem drawingLine_nameLabel {layer : Layer} (hlabel : Avoids layer.label ['\n']) :
    DrawingLine (nameLabel layer.index.plainText layer.label) :=
  drawingLine_pathLabel ((single_id layer.index).append (by decide)) (avoids_escape hlabel) (by decide)
    (single_labelAttributes (by decide))

theorem drawingLine_componentLabel (index : Number) {component : String}
    (hcomponent : Avoids component ['\n']) (center : Binary64) :
    DrawingLine (componentLabel index.plainText component center) := by
  have hcenter : Avoids (String.ofList center.generalChars) ['\n'] :=
    Numeric.avoids (by simpa using numeric_generalChars center) (by decide)
  exact drawingLine_pathLabel ((single_id index).append (by decide)) (avoids_escape hcomponent)
    (hcenter.append (by decide)) (single_labelAttributes (by decide))

theorem drawingLines_componentLabels {layer : Layer}
    (hcomponents : ∀ component ∈ layer.components, Avoids component ['\n']) :
    DrawingLines (componentLabels layer.index.plainText layer.components) := by
  intro line hline
  obtain ⟨labelled, hlabelled, rfl⟩ := List.mem_map.mp hline
  exact drawingLine_componentLabel layer.index (hcomponents _ (List.of_mem_zip hlabelled).1) _

theorem drawingLines_lines {layer : Layer} (hlabel : Avoids layer.label ['\n'])
    (hcolor : Avoids layer.color ['\n'])
    (hcomponents : ∀ component ∈ layer.components, Avoids component ['\n']) (center : Point Binary64)
    (radius : Binary64) : DrawingLines (lines layer center radius) := by
  have hhead : DrawingLines [circleLine layer center radius, nameLabel layer.index.plainText layer.label] :=
    (drawingLine_circleLine hcolor center radius).cons ((drawingLine_nameLabel hlabel).cons drawingLines_nil)
  exact (hhead.append (drawingLines_componentLabels hcomponents)).element (by decide)
    (single_groupAttributes layer.index)

end Ring

/-! ## Connectors -/

namespace Connector

theorem single_id (number : Nat) : Avoids (id number) ['\n'] := Avoids.append (by decide) (single_number _)

theorem single_segment (segment : Segment) : Avoids segment.plainPathText ['\n'] :=
  avoids_segment segment (by decide) (by decide)

/-- **The strings of a connector.** -/
def strings (options : ConnectorOptions) : List String :=
  options.paint :: options.labelColor :: (options.head.toList ++ options.label.toList ++
    options.pathClass.toList ++ options.labelClass.toList)

variable {options : ConnectorOptions}

theorem single_classAttributes {name : Option String}
    (h : ∀ text, name = some text → Avoids text ['\n']) : ∀ a ∈ classAttributes name, a.Single := by
  intro a ha
  cases name with
  | none => exact absurd ha List.not_mem_nil
  | some text =>
    simp only [classAttributes] at ha
    split at ha
    · exact absurd ha List.not_mem_nil
    · rw [List.mem_singleton.mp ha]
      exact single_mk (by decide) (h text rfl)

theorem single_markerAttributes {marker : Option String}
    (h : ∀ name, marker = some name → Avoids name ['\n']) : ∀ a ∈ markerAttributes marker, a.Single := by
  intro a ha
  unfold markerAttributes at ha
  split at ha
  · next name hname =>
    have hid : Avoids name ['\n'] := h name (nonempty?_eq_some hname).1
    rw [List.mem_singleton.mp ha]
    exact single_mk (by decide) ((Avoids.append (by decide) hid).append (by decide))
  · exact absurd ha List.not_mem_nil

theorem drawingLines_clipLines (number : Nat) (clip : Option (List (Point Binary64))) :
    DrawingLines (clipLines (id number) clip) := by
  cases clip with
  | none => exact drawingLines_nil
  | some region =>
    have hid : Attribute.Single ⟨"id", clipId (id number)⟩ :=
      single_mk (by decide) ((single_id number).append (by decide))
    have hpoints : Attribute.Single ⟨"points", pointsText region⟩ :=
      single_mk (by decide) (avoids_pointsText region (by decide) (by decide) (by decide))
    have hpolygon : DrawingLine (emptyElement "polygon" [⟨"points", pointsText region⟩]) :=
      drawingLine_emptyElement (by decide) (List.forall_mem_singleton.mpr hpoints)
    exact (hpolygon.cons drawingLines_nil).element (by decide) (List.forall_mem_singleton.mpr hid)

theorem drawingLines_missingMarkerLines {marker : Option String}
    (h : ∀ name, marker = some name → Avoids name ['\n']) (defs : List String) :
    DrawingLines (missingMarkerLines marker defs) := by
  cases hmarker : nonempty? marker with
  | none =>
    rw [missingMarkerLines_of_none hmarker]
    exact drawingLines_nil
  | some name =>
    rw [missingMarkerLines_of_some hmarker]
    split
    · exact drawingLines_nil
    · exact Marker.drawingLines_headLines (h name (nonempty?_eq_some hmarker).1) (by decide)

theorem drawingLines_labelPaths (number : Nat) (segment : Segment) (options : ConnectorOptions) :
    DrawingLines (labelPaths (id number) segment.plainPathText options) := by
  unfold labelPaths
  split
  · have hpath : DrawingLine (Ring.pathElement (labelPathId (id number)) segment.plainPathText) :=
      Ring.drawingLine_pathElement ((single_id number).append (by decide)) (single_segment segment)
    exact hpath.cons drawingLines_nil
  · exact drawingLines_nil

theorem single_groupAttributes (number : Nat) (clipped : Bool) :
    ∀ a ∈ Attribute.mk "id" (id number) ::
      if clipped then [⟨"clip-path", reference (clipId (id number))⟩] else [], a.Single := by
  have hclip : Avoids (reference (clipId (id number))) ['\n'] :=
    (Avoids.append (by decide) ((single_id number).append (by decide))).append (by decide)
  rw [List.forall_mem_cons]
  refine ⟨single_mk (by decide) (single_id number), ?_⟩
  cases clipped with
  | false => exact nofun
  | true => exact List.forall_mem_singleton.mpr (single_mk (by decide) hclip)

section

variable (h : ∀ text ∈ strings options, Avoids text ['\n'])
include h

/-- The marker that is attached is one of the strings. -/
theorem single_attached (name : String) (hname : attached options = some name) : Avoids name ['\n'] := by
  unfold attached at hname
  split at hname
  · exact h name (by simp [strings, hname])
  · exact nomatch hname

theorem drawingLines_definitions (number : Nat) (segment : Segment) (clip : Option (List (Point Binary64)))
    (defs : List String) :
    DrawingLines (definitions (id number) segment.plainPathText clip options defs) :=
  ((drawingLines_clipLines number clip).append (drawingLines_missingMarkerLines (single_attached h) _)).append
    (drawingLines_labelPaths number segment options)

theorem drawingLine_lineElement (segment : Segment) :
    DrawingLine (lineElement segment.plainPathText options.width.plainText options (attached options)) := by
  have hclass : ∀ a ∈ classAttributes options.pathClass, a.Single :=
    single_classAttributes fun text htext => h text (by simp [strings, htext])
  have hmarker : ∀ a ∈ markerAttributes (attached options), a.Single :=
    single_markerAttributes (single_attached h)
  have hstroke : ∀ a ∈ [Attribute.mk "fill" "none", ⟨"stroke", options.paint⟩,
      ⟨"stroke-width", options.width.plainText⟩], a.Single := by
    simp only [List.forall_mem_cons]
    exact ⟨by decide, single_mk (by decide) (h _ (by simp [strings])),
      single_mk (by decide) (single_number _), List.forall_mem_nil _⟩
  refine drawingLine_emptyElement (by decide) ?_
  simp only [List.cons_append, List.forall_mem_cons, List.forall_mem_append]
  simp only [List.forall_mem_cons] at hstroke
  exact ⟨single_mk (by decide) (single_segment segment), ⟨hclass, hstroke⟩, hmarker⟩

theorem drawingLines_labelLines (number : Nat) : DrawingLines (labelLines (id number) options) := by
  unfold labelLines
  split
  · next text htext =>
    have hlabel : Avoids text ['\n'] := h text (by simp [strings, (nonempty?_eq_some htext).1])
    have hcontent : Avoids (Content.markup [raisedLabel text]).inner ['\n'] := by
      have hinner : (Content.markup [raisedLabel text]).inner = raisedLabel text := by simp [Content.inner]
      rw [hinner]
      exact (Avoids.append (by decide) (avoids_escape hlabel)).append (by decide)
    have hclass : ∀ a ∈ classAttributes options.labelClass, a.Single :=
      single_classAttributes fun name hname => h name (by simp [strings, hname])
    have hattributes : ∀ a ∈ labelAttributes options, a.Single := by
      simp only [labelAttributes, fontAttributes, List.cons_append, List.forall_mem_cons,
        List.forall_mem_append]
      exact ⟨by decide, hclass, by decide, by decide,
        single_mk (by decide) (h _ (by simp [strings])), List.forall_mem_nil _⟩
    have hline : DrawingLine (pathLabel (labelPathId (id number)) (.markup [raisedLabel text]) "50%"
        (attributesText (labelAttributes options))) :=
      drawingLine_pathLabel ((single_id number).append (by decide)) hcontent (by decide)
        (avoids_attributesText hattributes)
    exact hline.cons drawingLines_nil
  · exact drawingLines_nil

theorem drawingLines_lines (number : Nat) (segment : Segment) (clipped : Bool) :
    DrawingLines (lines (id number) segment.plainPathText clipped options) := by
  have hline :
      DrawingLines [lineElement segment.plainPathText options.width.plainText options (attached options)] :=
    (drawingLine_lineElement h segment).cons drawingLines_nil
  exact (hline.element (by decide) (single_groupAttributes number clipped)).append
    (drawingLines_labelLines h number)

end

end Connector

/-! ## Moments of a run -/

/-- The strings in the content of a label. -/
def Markup.Content.strings : Content → List String
  | .plain text => [text]
  | .markup pieces => pieces

/-- **The strings that a step is given.** -/
def Step.strings : Step → List String
  | .arrowHead id color => [id, color]
  | .arrowPattern id color => [id, color]
  | .ring layer _ => layer.label :: layer.color :: layer.components
  | .connector _ options => Connector.strings options
  | .label pathId content offset attributes => pathId :: offset :: attributes :: content.strings
  | .define lines => lines
  | .paint lines => lines
  | .center => []
  | .render style => style.toList

/-- **A single-line step:** it draws by itself, and no line feed is in its strings. -/
structure Step.SingleLine (step : Step) : Prop where
  drawn : step.isVerbatim = false
  strings : ∀ text ∈ step.strings, Avoids text ['\n']

theorem avoids_inner {content : Content} (h : ∀ text ∈ content.strings, Avoids text ['\n']) :
    Avoids content.inner ['\n'] := by
  cases content with
  | plain text => exact avoids_escape (h text List.mem_cons_self)
  | markup pieces =>
    intro c hc
    rw [Content.inner, String.toList_join] at hc
    obtain ⟨piece, hpiece, hmem⟩ := List.mem_flatMap.mp hc
    exact h piece hpiece c hmem

/-- **A single-line step adds drawing lines.** -/
theorem Moment.drawingLines [DigitLimit] {m : Moment} (h : m.step.SingleLine) :
    DrawingLines m.drawing.defs ∧ DrawingLines m.drawing.body := by
  obtain ⟨canvas, step⟩ := m
  have htexts := h.strings
  cases step with
  | arrowHead id color =>
    simp only [Step.strings, List.forall_mem_cons] at htexts
    exact ⟨Marker.drawingLines_headLines htexts.1 htexts.2.1, drawingLines_nil⟩
  | arrowPattern id color =>
    simp only [Step.strings, List.forall_mem_cons] at htexts
    exact ⟨Marker.drawingLines_patternLines htexts.1 htexts.2.1, drawingLines_nil⟩
  | ring layer spacing =>
    simp only [Step.strings, List.forall_mem_cons] at htexts
    obtain ⟨hlabel, hcolor, hcomponents⟩ := htexts
    have hdrawn := Ring.drawn canvas.toSurface layer spacing
    simp only [Moment.drawing, Step.drawing_ring]
    generalize Ring.draw canvas.toSurface layer spacing = drawing at hdrawn ⊢
    have hgroup := Ring.drawingLine_groupTag layer.index
    cases hdrawn with
    | refused e cause => exact ⟨drawingLines_nil, drawingLines_nil⟩
    | opened e hradius hcenter hindex cause => exact ⟨drawingLines_nil, hgroup.cons drawingLines_nil⟩
    | circled e hradius hcenter hindex hr cause =>
      exact ⟨drawingLines_nil, hgroup.cons ((Ring.drawingLine_circleLine hcolor _ _).cons drawingLines_nil)⟩
    | whole hradius hcenter hindex hr hhalf =>
      exact ⟨Ring.drawingLines_definitions layer _ _, Ring.drawingLines_lines hlabel hcolor hcomponents _ _⟩
  | connector span options =>
    rcases Moment.connector_cases canvas span options with
      ⟨-, -, hdefs, hbody⟩ | ⟨-, -, hdefs, hbody⟩ | ⟨segment, clip, -, -, hdefs, hbody⟩
    · rw [hdefs, hbody]
      exact ⟨drawingLines_nil, drawingLines_nil⟩
    · have hgroup : DrawingLine (Connector.groupTag (Connector.id canvas.body.length) false) :=
        drawingLine_openTag (by decide) (Connector.single_groupAttributes _ false)
      rw [hdefs, hbody]
      exact ⟨Connector.drawingLines_missingMarkerLines (Connector.single_attached htexts) _,
        hgroup.cons drawingLines_nil⟩
    · rw [hdefs, hbody]
      exact ⟨Connector.drawingLines_definitions htexts _ _ _ _, Connector.drawingLines_lines htexts _ _ _⟩
  | label pathId content offset attributes =>
    simp only [Step.strings, List.forall_mem_cons] at htexts
    obtain ⟨hid, hoffset, hattributes, hcontent⟩ := htexts
    have hline : DrawingLine (pathLabel pathId content offset attributes) :=
      drawingLine_pathLabel hid (avoids_inner hcontent) hoffset hattributes
    exact ⟨drawingLines_nil, hline.cons drawingLines_nil⟩
  | define lines => exact absurd h.drawn Bool.false_ne_true.symm
  | paint lines => exact absurd h.drawn Bool.false_ne_true.symm
  | center =>
    rw [Moment.drawing, Step.drawing_center]
    exact ⟨drawingLines_nil, drawingLines_nil⟩
  | render style =>
    rw [Moment.drawing, Step.drawing_render]
    exact ⟨drawingLines_nil, drawingLines_nil⟩

/-- **A run of single-line steps leaves lists of drawing lines.** -/
theorem Canvas.drawingLines_afterAll [DigitLimit] {canvas : Canvas} {steps : List Step}
    (hsteps : ∀ step ∈ steps, step.SingleLine) (hdefs : DrawingLines canvas.defs)
    (hbody : DrawingLines canvas.body) :
    DrawingLines (canvas.afterAll steps).defs ∧ DrawingLines (canvas.afterAll steps).body := by
  have hmoment : ∀ m ∈ canvas.history steps, DrawingLines m.drawing.defs ∧ DrawingLines m.drawing.body :=
    fun m hm => Moment.drawingLines (hsteps m.step (step_mem_of_mem_history hm))
  rw [defs_afterAll, body_afterAll]
  constructor
  · refine hdefs.append fun line hline => ?_
    obtain ⟨m, hm, hmem⟩ := List.mem_flatMap.mp hline
    exact (hmoment m hm).1 line hmem
  · refine hbody.append fun line hline => ?_
    obtain ⟨m, hm, hmem⟩ := List.mem_flatMap.mp hline
    exact (hmoment m hm).2 line hmem

end Concentric
