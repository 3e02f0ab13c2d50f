import Concentric.Palette

/-!
# The style of the diagram

All lengths are in the units of the drawing surface.
-/

namespace Concentric.Style

open Palette (shade)

/-! ## Surface -/

/-- The width of the surface. -/
def canvasWidth : Number := 410

/-- The height of the surface. -/
def canvasHeight : Number := 410

/-- The content of the style element: a stylesheet beside the document. -/
def styleImport : String := "@import 'styles.css';"

/-! ## Rings -/

/-- The step in radius between adjacent rings. -/
def spacing : Number := 50

/-- The colour of the line around a ring. -/
def ringStroke : String := shade .grey .plain

/-- The width of the line around a ring. -/
def ringStrokeWidth : Number := 2

/-- The depth of the colours that fill the layers. -/
def layerDepth : Palette.Depth := .pale

/-! ## Text -/

/-- The font of all labels. -/
def fontFamily : String := "sans-serif"

/-- The size of all labels. -/
def fontSize : Number := 15

/-- The colour of a layer's name. -/
def textColor : String := shade .grey .dark

/-- The colour of a component's name. -/
def componentColor : String := shade .grey .plain

/-- The extra space between the letters of a label along a ring. -/
def letterSpacing : Number := 1

/-- A third of the font size: the distance of a label's baseline from the centre of its band, which
puts the middle of the capitals on that centre. -/
def baselineShift : Binary64 := .ofNat 5

/-! ## Connectors -/

/-- The colour of connectors, heads and patterns. -/
def arrowColor : String := shade .green .dark

/-- The width of a connector's line. -/
def arrowWidth : Number := 2

/-- The colour of a connector's label. -/
def arrowTextColor : String := shade .grey .strong

/-- How far the label of a connector floats above its line. -/
def arrowTextRise : Number := .whole (-10)

/-- The identifier of the arrow head. -/
def arrowHeadId : String := "arrow-head"

/-- The width and height at which the arrow head is shown. -/
def arrowHeadSize : Number := 8

/-- The identifier of the arrow pattern. -/
def arrowPatternId : String := "arrow-pattern"

/-- How far a clipped connector reaches beyond both ends of its span. -/
def clipMargin : Number := 100

end Concentric.Style
