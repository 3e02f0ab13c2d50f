import Concentric.Connector
import Concentric.Ring

/-!
# Runs of steps

A step is one request to a canvas: define a head or a pattern, draw a ring, a connector or a label, add
lines as they are, ask for the centre, or write the document. `Step.drawing` says what a step adds and
answers; `Canvas.run` performs steps one after the other. A step that fails leaves what it added, and
the next step runs on that canvas.
-/

namespace Concentric

/-- **A request to a canvas.** -/
inductive Step where
  | arrowHead (id color : String)
  | arrowPattern (id color : String)
  | ring (layer : Layer) (spacing : Number)
  | connector (span : Segment) (options : ConnectorOptions)
  | label (pathId : String) (content : Markup.Content) (offset attributes : String)
  | define (lines : List String)
  | paint (lines : List String)
  | center
  | render (style : Option String)
deriving DecidableEq

/-- **What a step answers.** -/
inductive Answer where
  | done
  | text (value : String)
  | circle (circle : Circle)
  | connector (connector : Connector)
  | point (point : Point Binary64)
deriving DecidableEq

namespace Step

/-- What a step adds to the canvas, and its answer. -/
def drawing [DigitLimit] (canvas : Canvas) : Step → Drawing Answer
  | .arrowHead id color => do
    Drawing.define (Marker.headLines id color)
    return .text id
  | .arrowPattern id color => do
    Drawing.define (Marker.patternLines id color)
    return .text (Markup.reference id)
  | .ring layer spacing => .circle <$> Ring.draw canvas.toSurface layer spacing
  | .connector span options => .connector <$> Connector.draw canvas span options
  | .label pathId content offset attributes => do
    Drawing.paint [Markup.pathLabel pathId content offset attributes]
    return .done
  | .define lines => do
    Drawing.define lines
    return .done
  | .paint lines => do
    Drawing.paint lines
    return .done
  | .center => .point <$> Drawing.attempt canvas.center
  | .render style => .text <$> Drawing.attempt (canvas.document style)

end Step

namespace Canvas

variable [DigitLimit]

/-- The canvas after a step. -/
def after (canvas : Canvas) (step : Step) : Canvas := canvas.add (step.drawing canvas)

/-- **The drawings of a run,** each made on the canvas that the steps before it leave. -/
def run (canvas : Canvas) : List Step → List (Drawing Answer)
  | [] => []
  | step :: rest => step.drawing canvas :: (canvas.after step).run rest

/-- The canvas at the end of a run. -/
def afterAll (canvas : Canvas) (steps : List Step) : Canvas := steps.foldl after canvas

end Canvas

end Concentric
