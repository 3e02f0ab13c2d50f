import Concentric.Drawing
import Concentric.Geometry.Basic
import Concentric.Markup.Element

/-!
# Canvases and documents

A canvas is a surface of fixed size with two lists of lines, the definitions and the painted body, both
in the order in which they were added. `Canvas.document` writes it as one text: a header, the style if
there is one, the definitions if there are any, and the body.
-/

namespace Concentric

/-- The size of a drawing surface. -/
structure Surface where
  width : Number
  height : Number
deriving DecidableEq

/-- The centre of a surface; its horizontal position is computed first. -/
def Surface.center (s : Surface) : Except ArithmeticError (Point Binary64) := do
  let x ← s.width.half
  let y ← s.height.half
  return ⟨x, y⟩

/-- **A canvas.** -/
structure Canvas extends Surface where
  defs : List String
  body : List String
deriving DecidableEq

namespace Canvas

/-- The canvas of a size with nothing on it. -/
def blank (width height : Number) : Canvas := ⟨⟨width, height⟩, [], []⟩

/-- The canvas with the lines of a drawing added behind its own. -/
def add {α : Type} (canvas : Canvas) (drawing : Drawing α) : Canvas :=
  ⟨canvas.toSurface, canvas.defs ++ drawing.defs, canvas.body ++ drawing.body⟩

/-! ## The document -/

/-- The namespace of the document's elements. -/
def documentNamespace : String := "http://www.w3.org/2000/svg"

/-- The opening tag of the document: its size, given by its texts, and the same size as its view. -/
def header (width height : String) : String :=
  Markup.openTag "svg"
    [⟨"xmlns", documentNamespace⟩, ⟨"version", "1.1"⟩, ⟨"width", width⟩, ⟨"height", height⟩,
     ⟨"viewBox", "0 0 " ++ width ++ " " ++ height⟩]

/-- The style element; its content is taken as it is. -/
def styleLines : Option String → List String
  | some style => [Markup.openTag "style" [] ++ style ++ Markup.closeTag "style"]
  | none => []

/-- The definitions inside their element, which is left out if there are none. -/
def defsLines (defs : List String) : List String :=
  if defs.isEmpty then [] else Markup.openTag "defs" [] :: defs ++ [Markup.closeTag "defs"]

/-- The lines of the document behind its opening tag. -/
def contentLines (canvas : Canvas) (style : Option String) : List String :=
  styleLines style ++ defsLines canvas.defs ++ canvas.body ++ [Markup.closeTag "svg"]

/-- **The document:** its lines, each one ended by a line feed. Only its size may have no text. -/
def document [DigitLimit] (canvas : Canvas) (style : Option String) :
    Except ArithmeticError String := do
  let width ← canvas.width.text
  let height ← canvas.height.text
  return "\n".intercalate (header width height :: canvas.contentLines style) ++ "\n"

end Canvas

end Concentric
