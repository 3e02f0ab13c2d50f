import Concentric.Proofs.Fragments

/-!
# Documents of runs

A run of builders in which no ring fails leaves a canvas whose document is well-formed
(`document_wellFormed`), whatever its labels are, and the document shows exactly these labels, each at the
path that belongs to it, and one circle for each ring (`document_shows`). Connectors may fail. Where digits are
limited, a connector whose width cannot be written leaves its group open, and that is the one thing that
spoils a document.
-/

namespace Concentric

open Markup Markup.Scanner Text

/-! ## Well-formed documents -/

/-- The tokens of a root element with a line feed behind it. -/
def rootTokens (attributes : List Attribute) (inner : List Token) : List Token :=
  .opening "svg" attributes :: inner ++ [.closing "svg"] ++ [.data '\n']

/-- **A clean run** of builders on a fresh canvas, and a style for its document. Nothing is asked of the
labels. -/
structure Clean [DigitLimit] (width height : Number) (steps : List Step) (style : Option String) : Prop where
  builders : ∀ step ∈ steps, step.isBuilder = true
  rings : ∀ m ∈ (Canvas.blank width height).history steps, m.step.isRing = true → m.succeeds = true
  texts : ∀ step ∈ steps, ∀ text ∈ step.attributeTexts, Avoids text unquotable
  style : ∀ text, style = some text → Avoids text ['<', '&']

theorem readable_header (width height : Number) :
    ReadableTag "svg"
      [⟨"xmlns", Canvas.documentNamespace⟩, ⟨"version", "1.1"⟩, ⟨"width", width.plainText⟩,
       ⟨"height", height.plainText⟩,
       ⟨"viewBox", "0 0 " ++ width.plainText ++ " " ++ height.plainText⟩] := by
  have hwidth := readable_number width
  have hheight := readable_number height
  refine readableTag_of_values ["xmlns", "version", "width", "height", "viewBox"] (.refl _)
    (by decide) ?_
  simp only [List.forall_mem_cons]
  refine ⟨by decide, by decide, hwidth, hheight, ?_, by simp⟩
  exact ((Avoids.append (by decide) hwidth).append (by decide)).append hheight

theorem fragment_styleLines {style : Option String}
    (h : ∀ text, style = some text → Avoids text ['<', '&']) :
    Fragment (Canvas.styleLines style) [] 0 := by
  cases style with
  | none => exact fragment_nil
  | some text =>
    have htag : ReadableTag "style" [] := readableTag_of_values [] (.refl _) (by decide) (by simp)
    have hreads := ((reads_openTag htag.named htag.readable).append (reads_plain (h text rfl))).append
      (reads_closeTag htag.named)
    refine openFragment_line hreads ((nested_data text.toList).element htag (by decide)) ?_
    exact (labelsOf_data text.toList).element (by decide) []

theorem fragment_defsLines {defs : List String} (h : Fragment defs [] 0) :
    Fragment (Canvas.defsLines defs) [] 0 := by
  have htag : ReadableTag "defs" [] := readableTag_of_values [] (.refl _) (by decide) (by simp)
  unfold Canvas.defsLines
  split
  · exact fragment_nil
  · exact h.element htag (by decide) (by decide)

section Documents

variable [DigitLimit] {width height : Number} {steps : List Step} {style : Option String}

namespace Clean

theorem fragments (h : Clean width height steps style) :
    ∀ m ∈ (Canvas.blank width height).history steps,
      Fragment m.drawing.defs [] 0 ∧
        OpenFragment m.drawing.body (List.replicate m.step.isInterrupted.toNat "g") m.labels
          m.step.isRing.toNat := by
  intro m hm
  have hstep := Canvas.step_mem_of_mem_history hm
  exact Moment.fragments (h.builders m.step hstep) (h.rings m hm) (h.texts m.step hstep)

/-- The lines between the tags of the root. -/
def inner (width height : Number) (steps : List Step) (style : Option String) : List String :=
  let canvas := (Canvas.blank width height).afterAll steps
  Canvas.styleLines style ++ Canvas.defsLines canvas.defs ++ canvas.body

/-- **The lines between the tags of the root are a fragment** with the labels of all moments. Each
interrupted connector leaves its group open. -/
theorem fragment_inner (h : Clean width height steps style) :
    OpenFragment (inner width height steps style) (List.replicate (steps.countP Step.isInterrupted) "g")
      (((Canvas.blank width height).history steps).flatMap Moment.labels)
      (steps.countP Step.isRing) := by
  have hdefs : Fragment ((Canvas.blank width height).afterAll steps).defs [] 0 := by
    rw [Canvas.defs_afterAll]
    exact fragment_nil.append (fragment_flatMap_silent fun m hm => (h.fragments m hm).1)
  have hbody : OpenFragment ((Canvas.blank width height).afterAll steps).body
      (List.replicate (steps.countP Step.isInterrupted) "g")
      (((Canvas.blank width height).history steps).flatMap Moment.labels)
      (steps.countP Step.isRing) := by
    have hall := OpenFragment.flatMap fun m hm => (h.fragments m hm).2
    rw [Canvas.body_afterAll, ← Canvas.countP_history (Canvas.blank width height) steps Step.isRing,
      ← Canvas.countP_history (Canvas.blank width height) steps Step.isInterrupted]
    exact hall
  have hstyle := (fragment_styleLines h.style).append (fragment_defsLines hdefs)
  simpa [inner] using OpenFragment.append hstyle hbody

/-- The document is read as a root around nested tokens. -/
theorem reads_plainDocument (h : Clean width height steps style) :
    ∃ attributes inner, (attributes.map Attribute.name).Nodup ∧
      Reads (((Canvas.blank width height).afterAll steps).plainDocument style)
        (rootTokens attributes inner) ∧
      Nested inner (List.replicate (steps.countP Step.isInterrupted) "g") (steps.countP Step.isRing) ∧
      LabelsOf inner (((Canvas.blank width height).history steps).flatMap Moment.labels) := by
  obtain ⟨tokens, hreads, hnested, hlabels⟩ := h.fragment_inner
  have hsurface := Canvas.toSurface_afterAll (Canvas.blank width height) steps
  have htag := readable_header ((Canvas.blank width height).afterAll steps).width
    ((Canvas.blank width height).afterAll steps).height
  have hlines : ((Canvas.blank width height).afterAll steps).plainLines style =
      Canvas.header ((Canvas.blank width height).afterAll steps).width.plainText
          ((Canvas.blank width height).afterAll steps).height.plainText ::
        inner width height steps style ++ [closeTag "svg"] := by
    simp [Canvas.plainLines, Canvas.contentLines, inner]
  -- The line feed behind the opening tag belongs to what the root contains.
  refine ⟨_, .data '\n' :: tokens, htag.distinct, ?_, ?_, (labelsOf_data ['\n']).append hlabels⟩
  · rw [Canvas.plainDocument, intercalate_eq_unlines (by simp [hlines]), hlines]
    exact reads_element hreads htag
  · simpa using (nested_data ['\n']).append hnested

end Clean

/-- **The document of a clean run shows its labels,** those of each successful step in their order and
every one at its own path, **and one circle for each ring.** -/
theorem document_shows (h : Clean width height steps style) :
    ((∃ text, ((Canvas.blank width height).afterAll steps).document style = .ok text) ↔
      width.Writable ∧ height.Writable) ∧
    ∀ text, ((Canvas.blank width height).afterAll steps).document style = .ok text →
      (tokens? text).map (labels none) =
          some (((Canvas.blank width height).history steps).flatMap Moment.labels) ∧
        occurrences "<circle".toList text.toList = steps.countP Step.isRing := by
  obtain ⟨attributes, inner, -, hreads, hnested, hlabels⟩ := h.reads_plainDocument
  refine ⟨Canvas.exists_document_afterAll_iff _ steps style, ?_⟩
  intro text htext
  obtain rfl := Canvas.eq_plainDocument_of_document_eq_ok htext
  constructor
  · have hroot : LabelsOf (rootTokens attributes inner) _ :=
      (hlabels.element (by decide) attributes).append (labelsOf_data ['\n'])
    have hall := hroot []
    rw [hreads.tokens?_eq, Option.map_some]
    simpa [labels] using hall
  · have hcount := hreads.occurrences (by decide : isName circleStem = true)
    -- The root is no circle, so all circles are inside it.
    have hroot : (rootTokens attributes inner).countP (Token.begins circleStem) =
        inner.countP (Token.begins circleStem) := by
      simp [rootTokens, Token.begins, circleStem, List.isPrefixOf]
    rw [← hnested.circles, ← hroot]
    exact hcount

end Documents

/-! ## Hostile runs -/

section Hostile

attribute [local instance] DigitLimit.standard

/-- A run whose labels are full of markup and whose first connector fails, its end being beyond the
doubles. -/
def hostileRun : List Step :=
  [.arrowHead "arrow-head" "#286",
   .ring ⟨1, "</textPath></svg>&amp;", "#eee", ["<circle/>", "a\n\"b\""]⟩ 50,
   .connector ⟨⟨0, 0⟩, ⟨.whole Binary64.ceiling, 5⟩⟩ { clipping := true },
   .connector ⟨⟨0, 0⟩, ⟨10, 5⟩⟩ { label := some "<tspan>", clipping := true }]

theorem clean_hostileRun : Clean 410 410 hostileRun (some Style.styleImport) where
  builders := by decide
  rings := by decide +kernel
  texts := by decide
  style := by
    intro text htext
    rw [← Option.some.inj htext]
    decide

theorem hostileRun_shows :
    Clean 410 410 hostileRun (some Style.styleImport) ∧
      ∃ text, ((Canvas.blank 410 410).afterAll hostileRun).document (some Style.styleImport) = .ok text ∧
        (tokens? text).map (labels none) =
          some [⟨"#layer-1-upper", "</textPath></svg>&amp;"⟩, ⟨"#layer-1-lower", "<circle/>"⟩,
            ⟨"#layer-1-lower", "a\n\"b\""⟩, ⟨"#connector-6-text", "<tspan>"⟩] ∧
        occurrences "<circle".toList text.toList = 1 := by
  obtain ⟨hexists, hshows⟩ := document_shows clean_hostileRun
  obtain ⟨text, htext⟩ := hexists.mpr (by decide +kernel)
  obtain ⟨hlabels, hcircles⟩ := hshows text htext
  refine ⟨clean_hostileRun, text, htext, ?_, hcircles⟩
  rw [hlabels]
  decide +kernel

end Hostile

end Concentric
