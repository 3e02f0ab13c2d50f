import Concentric.Connector
import Concentric.Ring

/-!
# The diagram of the layers

Four concentric layers, painted from the outermost to the innermost one so that each ring stays visible
inside the one before, and one clipped connector from the left edge of the outermost ring to the centre
of the innermost one. The diagram has no input: its text is always the same.
-/

namespace Concentric.Diagram

open Palette (shade)

/-! ## The layers -/

/-- The outermost layer, the only one that names its components. -/
def infrastructure : Layer where
  index := 4
  label := "infrastructure"
  color := shade .yellow Style.layerDepth
  components := ["GUI", "API", "Persistence", "Server"]

/-- The layer inside the infrastructure. -/
def management : Layer where
  index := 3
  label := "management"
  color := shade .lightGreen Style.layerDepth

/-- The layer inside the management. -/
def processing : Layer where
  index := 2
  label := "processing"
  color := shade .lightBlue Style.layerDepth

/-- The innermost layer. -/
def base : Layer where
  index := 1
  label := "base"
  color := shade .blueGrey Style.layerDepth

/-- The layers in the order in which they are painted: the outermost first. -/
def layers : List Layer := [infrastructure, management, processing, base]

/-! ## Painting -/

/-- A computation that adds to a canvas; a failure keeps what was added. -/
abbrev Painting := ExceptT ArithmeticError (StateM Canvas)

variable [DigitLimit]

/-- Performs a drawing on the canvas. -/
def perform {α : Type} (drawing : Canvas → Drawing α) : Painting α := do
  let made := drawing (← get)
  modify fun canvas => canvas.add made
  made.outcome

/-- The rings of all layers, and their circles in the same order. -/
def paintRings : List Layer → Painting (List Circle)
  | [] => return []
  | layer :: inner => do
    let circle ← perform fun canvas => Ring.draw canvas.toSurface layer Style.spacing
    return circle :: (← paintRings inner)

/-- The options of the connector that is painted with a pattern. -/
def connectorOptions (pattern : String) : ConnectorOptions where
  paint := pattern
  width := 10
  label := some "may use code in"
  drawHead := false
  pathClass := some "go-right"
  labelClass := some "arrow-label"
  clipping := true

/-- The connector from the left edge of one circle, level with its centre, to the centre of another. -/
def paintConnector (pattern : String) (outer inner : Circle) : Painting Unit := do
  let left ← outer.leftEdge
  let span : Segment := ⟨⟨left, outer.center.y⟩, inner.center⟩
  let _ ← perform fun canvas => Connector.draw canvas span (connectorOptions pattern)

/-- **The whole diagram:** the definitions of head and pattern, the rings, the connector. -/
def paint : Painting Unit := do
  perform fun _ => Drawing.define (Marker.headLines Style.arrowHeadId Style.arrowColor)
  perform fun _ => Drawing.define (Marker.patternLines Style.arrowPatternId Style.arrowColor)
  let circles ← paintRings layers
  match circles.head?, circles.getLast? with
  | some outer, some inner =>
    paintConnector (Markup.reference Style.arrowPatternId) outer inner
  | _, _ => pure ()

/-- The canvas with the diagram on it. -/
def canvas : Except ArithmeticError Canvas :=
  let painted := paint.run (Canvas.blank Style.canvasWidth Style.canvasHeight)
  painted.1.map fun _ => painted.2

/-- The text of the diagram. -/
def document (style : Option String) : Except ArithmeticError String := do
  (← canvas).document style

end Concentric.Diagram
