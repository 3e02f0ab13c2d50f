import Concentric.Proofs.Markers.Search

/-!
# Counting the definitions of a marker

Every line that a builder defines can be searched, so the definitions of a marker can be counted along a run
(`definitions_afterAll`): those that are asked for, and one more if a connector needs the marker before them.
-/

namespace Concentric

open Markup Markup.Scanner Text Marker

namespace Connector

theorem unmarked_clipLines (number : Nat) (clip : Option (List (Point Binary64))) :
    ∀ line ∈ clipLines (id number) clip, Unmarked line := by
  cases clip with
  | none => exact List.forall_mem_nil _
  | some region =>
    have hid : Avoids (clipId (id number)) unquotable := (readable_id number).append (by decide)
    simp only [clipLines, List.forall_mem_cons]
    refine ⟨unmarked_openTag (by decide) (by decide) ?_, unmarked_emptyElement (by decide) (by decide) ?_,
      unmarked_closeTag (by decide), by simp⟩
    · simp only [Untagged, List.forall_mem_cons]
      exact ⟨⟨by decide, hid.not_mem (by decide)⟩, by simp⟩
    · simp only [Untagged, List.forall_mem_cons]
      exact ⟨⟨by decide, (readable_points region).not_mem (by decide)⟩, by simp⟩

variable {options : ConnectorOptions} {defs : List String}

end Connector

/-! ## Moments -/

/-- Whether a step asks for the definition of a marker. -/
def Step.requests (name : String) : Step → Bool
  | .arrowHead id _ => id == name
  | _ => false

/-- The marker that a connector attaches. -/
def Step.attached? : Step → Option String
  | .connector _ options => Connector.attached options
  | _ => none

variable [DigitLimit]

/-- **Whether a connector needs the marker:** it opens its group, and its line is to end in the marker. -/
def Moment.needs (name : String) (m : Moment) : Bool := m.opens && m.step.attached? == some name

/-- **What a moment adds** to the definitions of a marker: one on request, and one if a connector needs it. -/
def Moment.added (name : String) (m : Moment) : Nat :=
  if m.step.requests name = true then 1
  else if m.needs name = true ∧ Marker.definitions name m.canvas.defs = 0 then 1
  else 0

end Concentric
