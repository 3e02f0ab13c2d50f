import Concentric.Canvas
import Concentric.Geometry.Clip
import Concentric.Marker

/-!
# Connectors

A connector is a straight line between two points with an optional head, an optional label that floats
above it, and optional clipping: a clipped line is drawn longer at both ends and shown only in a band
around its own span. A connector reads two things off the canvas it is drawn on: the number of
painted lines, which names it, and whether its head is already defined.
-/

namespace Concentric

open Markup Drawing

/-- **How a connector is drawn.** -/
structure ConnectorOptions where
  /-- The colour of the line, or a reference to the pattern that paints it. -/
  paint : String := Style.arrowColor
  /-- The width of the line, and how far the clip region reaches above and below it. -/
  width : Number := Style.arrowWidth
  /-- The marker at the end of the line. -/
  head : Option String := some Style.arrowHeadId
  /-- The label along the line. -/
  label : Option String := none
  labelColor : String := Style.arrowTextColor
  /-- Whether the marker is attached. -/
  drawHead : Bool := true
  /-- The class of the line. -/
  pathClass : Option String := none
  /-- The class of the label. -/
  labelClass : Option String := none
  /-- Whether the line is extended and clipped back to its span. -/
  clipping : Bool := false
deriving DecidableEq

/-- **A connector that has been drawn:** the text of its line, its clip region and its marker. -/
structure Connector where
  path : String
  clip : Option (List (Point Binary64))
  marker : Option String
deriving DecidableEq

namespace Connector

/-- The identifier of the connector with a number. The number counts painted lines, which are never so
many that it would be too long to be written. -/
def id (number : Nat) : String := "connector-" ++ (Number.whole number).plainText

/-- The identifier of a connector's clip region. -/
def clipId (id : String) : String := id ++ "-clip"

/-- The identifier of the path that a connector's label follows. -/
def labelPathId (id : String) : String := id ++ "-text"

/-- An optional text, unless it is empty. -/
def nonempty? : Option String → Option String
  | some text => if text = "" then none else some text
  | none => none

/-- The segment that is drawn: longer than the span if it is clipped. -/
def drawnSegment (span : Segment) (options : ConnectorOptions) : Except ArithmeticError Segment :=
  if options.clipping then span.extend Style.clipMargin else .ok span

/-- The clip region, if there is one. -/
def clipRegion? (span : Segment) (options : ConnectorOptions) :
    Except ArithmeticError (Option (List (Point Binary64))) :=
  if options.clipping then (span.clipRegion options.width).map some else .ok none

/-- The definition of a clip region. -/
def clipLines (id : String) : Option (List (Point Binary64)) → List String
  | some region =>
    [openTag "clipPath" [⟨"id", clipId id⟩],
     emptyElement "polygon" [⟨"points", pointsText region⟩],
     closeTag "clipPath"]
  | none => []

/-- The definition of a marker that is named and not yet defined. -/
def missingMarkerLines (marker : Option String) (defs : List String) : List String :=
  match nonempty? marker with
  | some name => if Marker.defined name defs then [] else Marker.headLines name Style.arrowColor
  | none => []

/-- The group of a connector, clipped if there is a clip region. -/
def groupTag (id : String) (clipped : Bool) : String :=
  openTag "g"
    (⟨"id", id⟩ :: if clipped then [⟨"clip-path", reference (clipId id)⟩] else [])

/-- The reference to a marker that is named. -/
def markerAttributes (marker : Option String) : List Attribute :=
  match nonempty? marker with
  | some name => [⟨"marker-end", reference name⟩]
  | none => []

/-- The line of a connector, its path and its width given by their texts. -/
def lineElement (path width : String) (options : ConnectorOptions) (marker : Option String) : String :=
  emptyElement "path"
    (⟨"d", path⟩ :: classAttributes options.pathClass ++
      [⟨"fill", "none"⟩, ⟨"stroke", options.paint⟩, ⟨"stroke-width", width⟩] ++
      markerAttributes marker)

/-- The attributes of a connector's label. -/
def labelAttributes (options : ConnectorOptions) : List Attribute :=
  ⟨"text-anchor", "middle"⟩ :: classAttributes options.labelClass ++
    fontAttributes Style.fontFamily Style.fontSize.plainText options.labelColor

/-- The label raised above its path. -/
def raisedLabel (text : String) : String :=
  openTag "tspan" [⟨"dy", Style.arrowTextRise.plainText⟩] ++ escape text ++ closeTag "tspan"

/-- The label along a copy of the line, outside the clipped group; nothing without a label. -/
def drawLabel (id path : String) (options : ConnectorOptions) : Drawing Unit :=
  match nonempty? options.label with
  | some text => do
    define [emptyElement "path" [⟨"id", labelPathId id⟩, ⟨"d", path⟩]]
    paint [pathLabel (labelPathId id) (.markup [raisedLabel text]) "50%"
      (attributesText (labelAttributes options))]
  | none => pure ()

/-- **A connector along a span.** The segment that is drawn, the text of its path and the clip region come
before the first line; only the text of the width comes behind it, when the group is already open. -/
def draw [DigitLimit] (canvas : Canvas) (span : Segment) (options : ConnectorOptions) :
    Drawing Connector := do
  let id := Connector.id canvas.body.length
  let segment ← attempt (drawnSegment span options)
  let path ← attempt segment.pathText
  let clip ← attempt (clipRegion? span options)
  define (clipLines id clip)
  let marker := if options.drawHead then options.head else none
  define (missingMarkerLines marker (canvas.defs ++ clipLines id clip))
  paint [groupTag id clip.isSome]
  let width ← attempt options.width.text
  paint [lineElement path width options marker, closeTag "g"]
  drawLabel id path options
  return ⟨path, clip, marker⟩

end Connector

end Concentric
