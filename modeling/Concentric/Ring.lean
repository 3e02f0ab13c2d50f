import Concentric.Canvas
import Concentric.Geometry.Offsets
import Concentric.Style

/-!
# Rings

A ring is a circle around the centre of the surface. The name of its layer runs over the top of its
band and the names of the layer's components along the bottom, each in the middle of an equal part of
the half circle. A ring depends on the surface alone, not on what is already drawn.
-/

namespace Concentric

open Markup Drawing

/-- A layer of the diagram. -/
structure Layer where
  index : Number
  label : String
  color : String
  components : List String := []
deriving DecidableEq

namespace Ring

/-- The identifier of the ring of an index, which is given by its text. -/
def id (index : String) : String := "layer-" ++ index

/-- The identifier of the path over the top. -/
def upperId (index : String) : String := id index ++ "-upper"

/-- The identifier of the path under the bottom. -/
def lowerId (index : String) : String := id index ++ "-lower"

/-- The attributes of a label of the given colour. -/
def labelAttributes (fill : String) : List Attribute :=
  [⟨"text-anchor", "middle"⟩, ⟨"letter-spacing", Style.letterSpacing.plainText⟩] ++
    fontAttributes Style.fontFamily Style.fontSize.plainText fill

/-- The circle, its position and radius given by their texts. -/
def circleElement (x y radius color : String) : String :=
  emptyElement "circle"
    [⟨"cx", x⟩, ⟨"cy", y⟩, ⟨"r", radius⟩, ⟨"fill", color⟩, ⟨"fill-opacity", "1"⟩,
     ⟨"stroke", Style.ringStroke⟩, ⟨"stroke-width", Style.ringStrokeWidth.plainText⟩]

/-- A path that a label can follow. -/
def pathElement (id path : String) : String := emptyElement "path" [⟨"id", id⟩, ⟨"d", path⟩]

/-- The label of the layer, in the middle of the upper path. -/
def nameLabel (index label : String) : String :=
  pathLabel (upperId index) (.plain label) "50%"
    (attributesText (labelAttributes Style.textColor))

/-- The label of one component, centred at a percentage of the lower path. -/
def componentLabel (index component : String) (center : Binary64) : String :=
  pathLabel (lowerId index) (.plain component) (String.ofList center.generalChars ++ "%")
    (attributesText (labelAttributes Style.componentColor))

/-- The labels of all components in their order. -/
def componentLabels (index : String) (components : List String) : List String :=
  (components.zip (segmentCenters components.length)).map fun labelled =>
    componentLabel index labelled.1 labelled.2

variable [DigitLimit]

/-- The components along the lower half circle of the given radius; nothing without components. -/
def drawComponents (index : String) (components : List String) (center : Point Number)
    (radius : Number) : Drawing Unit := do
  unless components.isEmpty do
    let lower ← attempt (halfCircle radius center 0)
    let path ← attempt (pathText lower)
    define [pathElement (lowerId index) path]
    paint (componentLabels index components)

/-- **A ring.** The steps that can fail stand between the lines in a fixed order: the radius, the centre
and the text of the index come before the group is opened, the text of the radius before the circle, and
the middle of the band after it. -/
def draw (surface : Surface) (layer : Layer) (spacing : Number) : Drawing Circle := do
  let radius ← attempt (ringRadius layer.index spacing)
  let middle ← attempt surface.center
  let center := middle.ofReal
  let index ← attempt layer.index.text
  paint [openTag "g" [⟨"id", id index⟩]]
  let radiusText ← attempt radius.coordinateText
  paint [circleElement (String.ofList middle.x.tenthsChars) (String.ofList middle.y.tenthsChars)
    radiusText layer.color]
  let halfSpacing ← attempt spacing.half
  let band ← attempt (radius.sub (.real halfSpacing))
  let upperRadius ← attempt (band.sub (.real Style.baselineShift))
  let upper ← attempt (halfCircle upperRadius center 1)
  let path ← attempt (pathText upper)
  define [pathElement (upperId index) path]
  paint [nameLabel index layer.label]
  let lowerRadius ← attempt (band.add (.real Style.baselineShift))
  drawComponents index layer.components center lowerRadius
  paint [closeTag "g"]
  return ⟨center, radius⟩

end Ring

end Concentric
