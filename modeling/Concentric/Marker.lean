import Concentric.Markup.Element
import Concentric.Style

/-!
# Markers and patterns

Two definitions serve connectors: a triangular head at the end of a line, and a pattern of ticks and
triangles that a line is painted with. Whether a marker is already defined is found out by searching the
text of the definitions: a text occurs in another one when it stands at some position of it.
-/

namespace Concentric

namespace Text

/-- Whether the pattern occurs in the text. -/
def occursIn (pattern : List Char) : List Char → Bool
  | [] => pattern.isEmpty
  | c :: rest => pattern.isPrefixOf (c :: rest) || occursIn pattern rest

/-- A pattern occurs exactly when the text splits around it. -/
theorem occursIn_iff {pattern text : List Char} :
    occursIn pattern text = true ↔ ∃ before after, text = before ++ pattern ++ after := by
  induction text with
  | nil =>
    constructor
    · intro hempty
      obtain rfl : pattern = [] := List.isEmpty_iff.mp hempty
      exact ⟨[], [], rfl⟩
    · rintro ⟨before, after, hsplit⟩
      have houter := List.append_eq_nil_iff.mp hsplit.symm
      obtain rfl : pattern = [] := (List.append_eq_nil_iff.mp houter.1).2
      rfl
  | cons c rest ih =>
    rw [occursIn, Bool.or_eq_true, List.isPrefixOf_iff_prefix, ih]
    constructor
    · rintro (⟨after, hhere⟩ | ⟨before, after, hlater⟩)
      · exact ⟨[], after, hhere.symm⟩
      · exact ⟨c :: before, after, by rw [hlater]; rfl⟩
    · rintro ⟨before, after, hsplit⟩
      cases before with
      | nil => exact Or.inl ⟨after, hsplit.symm⟩
      | cons b before =>
        refine Or.inr ⟨before, after, ?_⟩
        exact (List.cons.inj hsplit).2

end Text

namespace Marker

open Markup

/-- **The arrow head:** a triangle of 10 by 7, shown at the size of the style. -/
def headLines (id color : String) : List String :=
  [openTag "marker"
    [⟨"id", id⟩, ⟨"markerWidth", Style.arrowHeadSize.plainText⟩,
     ⟨"markerHeight", Style.arrowHeadSize.plainText⟩, ⟨"refX", "5"⟩, ⟨"refY", "3.5"⟩,
     ⟨"viewBox", "0 0 10 7"⟩, ⟨"orient", "auto"⟩],
   emptyElement "polygon" [⟨"points", "0,0 10,3.5 0,7"⟩, ⟨"fill", color⟩],
   closeTag "marker"]

/-- **The arrow pattern:** a tick that leads into a triangle, repeated along the line. -/
def patternLines (id color : String) : List String :=
  [openTag "pattern"
    [⟨"id", id⟩, ⟨"x", "0"⟩, ⟨"y", "0"⟩, ⟨"width", "30"⟩, ⟨"height", "20"⟩,
     ⟨"patternUnits", "userSpaceOnUse"⟩],
   openTag "g" [],
   emptyElement "line"
    [⟨"x1", "0"⟩, ⟨"y1", "3.5"⟩, ⟨"x2", "10"⟩, ⟨"y2", "3.5"⟩, ⟨"stroke", color⟩,
     ⟨"stroke-width", "1"⟩],
   emptyElement "polygon" [⟨"points", "10,0 20,3.5 10,7"⟩, ⟨"fill", color⟩],
   closeTag "g",
   closeTag "pattern"]

/-- The beginning of the definition of a marker. -/
def opening (id : String) : String := "<marker id=\"" ++ id ++ "\""

/-- Whether definitions define a marker: whether its beginning occurs in their text. -/
def defined (id : String) (defs : List String) : Bool :=
  Text.occursIn (opening id).toList ("\n".intercalate defs).toList

end Marker

end Concentric
