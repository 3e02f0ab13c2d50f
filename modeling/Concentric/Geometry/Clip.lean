import Concentric.Geometry.Basic

/-!
# Extending a segment and clipping it back

A clipped connector is drawn longer than it is and shown only inside a band around its span. The band
is a quadrilateral in doubles, whatever kind of numbers the segment has.
-/

namespace Concentric

/-- **Extension:** the start moves left and the stop moves right by the margin. Only horizontal
positions change. -/
def Segment.extend (s : Segment) (margin : Number) : Except ArithmeticError Segment := do
  let left ← s.start.x.sub margin
  let right ← s.stop.x.add margin
  return ⟨⟨left, s.start.y⟩, ⟨right, s.stop.y⟩⟩

/-- The point moved up by a width. A horizontal distance of zero is taken off as well, which turns no
position into another one. -/
def Point.raise (p : Point Binary64) (width : Binary64) : Point Binary64 :=
  ⟨p.x - .zero false, p.y - width⟩

/-- The point moved down by a width, and right by zero: a horizontal negative zero becomes positive. -/
def Point.lower (p : Point Binary64) (width : Binary64) : Point Binary64 :=
  ⟨p.x + .zero false, p.y + width⟩

/-- The corners around two points: above them from first to second, then below them back. -/
def corners (first second : Point Binary64) (width : Binary64) : List (Point Binary64) :=
  [first.raise width, second.raise width, second.lower width, first.lower width]

/-- **The clip region** of a segment reaches a width above and below both of its ends. -/
def Segment.clipRegion (s : Segment) (width : Number) :
    Except ArithmeticError (List (Point Binary64)) := do
  let first ← s.start.toReal
  let second ← s.stop.toReal
  return corners first second (← width.toReal)

/-- The text of a point: both coordinates with one decimal place. -/
def Point.text (p : Point Binary64) : String :=
  String.ofList p.x.tenthsChars ++ "," ++ String.ofList p.y.tenthsChars

/-- The text of a list of points. -/
def pointsText (points : List (Point Binary64)) : String :=
  " ".intercalate (points.map Point.text)

/-- The text of a list of points of any numbers. -/
def numberPointsText (points : List (Point Number)) : Except ArithmeticError String :=
  return pointsText (← points.mapM Point.toReal)

end Concentric
