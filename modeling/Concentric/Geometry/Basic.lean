import Concentric.Number

/-!
# Points, circles and paths of the plane

The horizontal axis runs to the right and the vertical one downwards, as on a drawing surface. A ring
of index `i` has the radius `i * spacing`. A path is a list of commands, each a letter and its arguments;
its text separates letters and arguments by single blanks. Labels are set along half circles and straight
lines.
-/

namespace Concentric

/-- A point of the plane. -/
structure Point (α : Type) where
  x : α
  y : α
deriving DecidableEq

/-- A straight line from one point to another. -/
structure Segment where
  start : Point Number
  stop : Point Number
deriving DecidableEq

/-- A circle. -/
structure Circle where
  center : Point Number
  radius : Number
deriving DecidableEq

/-- The point as a pair of doubles. -/
def Point.toReal (p : Point Number) : Except ArithmeticError (Point Binary64) := do
  return ⟨← p.x.toReal, ← p.y.toReal⟩

/-- A point of doubles as a point of numbers. -/
def Point.ofReal (p : Point Binary64) : Point Number := ⟨.real p.x, .real p.y⟩

/-- The horizontal position of the leftmost point. -/
def Circle.leftEdge (c : Circle) : Except ArithmeticError Number := c.center.x.sub c.radius

/-- **The radius of a ring.** -/
def ringRadius (index spacing : Number) : Except ArithmeticError Number := index.mul spacing

/-! ## Paths -/

/-- A command of a path. -/
structure PathCommand where
  letter : String
  arguments : List Number
deriving DecidableEq

/-- **The half circle** from the leftmost point to the rightmost one: over the top with the sweep 1,
under the bottom with the sweep 0. A radius that is not positive is not refused. -/
def halfCircle (radius : Number) (center : Point Number) (sweep : Number) :
    Except ArithmeticError (List PathCommand) := do
  let left ← center.x.sub radius
  let right ← center.x.add radius
  return [⟨"M", [left, center.y]⟩, ⟨"A", [radius, radius, 0, 0, sweep, right, center.y]⟩]

/-- A straight line as a path: labels follow paths, not lines. -/
def Segment.path (s : Segment) : List PathCommand :=
  [⟨"M", [s.start.x, s.start.y]⟩, ⟨"L", [s.stop.x, s.stop.y]⟩]

variable [DigitLimit]

/-- The letter and the arguments, separated by blanks. -/
def PathCommand.text (command : PathCommand) : Except ArithmeticError String := do
  return " ".intercalate (command.letter :: (← command.arguments.mapM Number.argumentText))

/-- **The text of a path.** -/
def pathText (commands : List PathCommand) : Except ArithmeticError String := do
  return " ".intercalate (← commands.mapM PathCommand.text)

/-- The text of a straight line. -/
def Segment.pathText (s : Segment) : Except ArithmeticError String := Concentric.pathText s.path

end Concentric
