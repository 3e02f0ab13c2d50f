import Concentric.Proofs.Lines
import Concentric.Proofs.Numeral

/-!
# A document says what was drawn

From the text of a document one function reads back the size of the canvas, the style, and both lists of lines
(`read?`). It needs no knowledge of the steps that drew them: line feeds separate the lines, and the frame around
the lists is told by its tags. So documents of different canvases or styles differ (`document_recovered`).
-/

namespace Concentric

open Markup Text

namespace Document

/-! ## Reading a document -/

/-- The number that a text is. -/
def number? (text : String) : Option Number := (Numeral.parse? text.toList).map Numeral.number

/-- What stands in front of the width. -/
def widthStem : String := "<svg xmlns=\"" ++ Canvas.documentNamespace ++ "\" version=\"1.1\" width=\""

/-- What stands between the width and the height. -/
def heightStem : String := "\" height=\""

/-- **The size on the first line.** -/
def surface? (line : String) : Option Surface :=
  (behind? widthStem.toList line.toList).bind fun fromWidth =>
    (behind? heightStem.toList (fromWidth.dropWhile (· ≠ '"'))).bind fun fromHeight =>
      (number? (upTo '"' fromWidth)).bind fun width =>
        (number? (upTo '"' fromHeight)).map fun height => ⟨width, height⟩

/-- What stands between two texts of the given lengths. -/
def within (before after : Nat) (text : String) : String :=
  String.ofList ((text.toList.drop before).take (text.length - before - after))

/-- **The style at the beginning of lines,** and the lines behind it. -/
def splitStyle : List String → Option String × List String
  | line :: rest =>
    if tagName line = "style" then
      (some (within (openTag "style" []).length (closeTag "style").length line), rest)
    else
      (none, line :: rest)
  | [] => (none, [])

/-- **The definitions at the beginning of lines,** and the lines behind their closing tag. -/
def splitDefs : List String → List String × List String
  | line :: rest =>
    if tagName line = "defs" then
      (rest.takeWhile (tagName · ≠ "defs"), (rest.dropWhile (tagName · ≠ "defs")).tail)
    else
      ([], line :: rest)
  | [] => ([], [])

/-- **Reading a document:** the canvas and the style it was written from. -/
def read? (text : String) : Option (Canvas × Option String) :=
  match split '\n' (String.ofList text.toList.dropLast) with
  | [] => none
  | header :: rest =>
    let (style, behindStyle) := splitStyle rest
    let (defs, behindDefs) := splitDefs behindStyle
    (surface? header).map fun surface => (⟨surface, defs, behindDefs.dropLast⟩, style)

/-! ## The size -/

theorem number?_plainText (n : Number) : number? n.plainText = some n := by
  obtain ⟨numeral, hparse, hnumber⟩ := Numeral.exists_parse?_plainText n
  rw [number?, hparse, Option.map_some, hnumber]

theorem not_mem_number (n : Number) : '"' ∉ n.plainText.toList :=
  ((numeric_plainText n).avoids (by decide)).not_mem (List.mem_singleton_self '"')

theorem surface?_header (surface : Surface) :
    surface? (Canvas.header surface.width.plainText surface.height.plainText) = some surface := by
  obtain ⟨rest, hline⟩ : ∃ rest,
      (Canvas.header surface.width.plainText surface.height.plainText).toList = widthStem.toList ++
      (surface.width.plainText.toList ++ '"' :: (" height=\"".toList ++
        (surface.height.plainText.toList ++ '"' :: rest))) :=
    ⟨_, by simp [Canvas.header, openTag, spacedAttributes, Attribute.text, widthStem]; rfl⟩
  have hheight : '"' :: (" height=\"".toList ++ (surface.height.plainText.toList ++ '"' :: rest)) =
      heightStem.toList ++ (surface.height.plainText.toList ++ '"' :: rest) := rfl
  rw [surface?, hline, behind?_append, Option.bind_some, upTo_append (not_mem_number _),
    dropWhile_append_stop (not_mem_number _), hheight, behind?_append, Option.bind_some,
    upTo_append (not_mem_number _), number?_plainText, number?_plainText, Option.bind_some, Option.map_some]

/-! ## The frame -/

theorem within_append (before text after : String) :
    within before.length after.length (before ++ text ++ after) = text := by
  have hlength : (before ++ text ++ after).length - before.length - after.length = text.length := by
    rw [String.length_append, String.length_append]
    omega
  have hchars : (before ++ text ++ after).toList = before.toList ++ (text.toList ++ after.toList) := by simp
  rw [within, hlength, hchars, ← String.length_toList, ← String.length_toList, List.drop_left, List.take_left,
    String.ofList_toList]

theorem splitStyle_styleLines {style : Option String} {rest : List String}
    (hrest : ∀ line ∈ rest, tagName line ≠ "style") :
    splitStyle (Canvas.styleLines style ++ rest) = (style, rest) := by
  cases style with
  | some text =>
    have hname : tagName (openTag "style" [] ++ text ++ closeTag "style") = "style" := by
      have hline : (openTag "style" [] ++ text ++ closeTag "style").toList =
          ['<'] ++ ("style".toList ++ '>' :: (text ++ closeTag "style").toList) := by
        simp [openTag, spacedAttributes]
      exact tagName_eq ['<'] (by decide) (by simp) (by decide) hline
    show (if tagName (openTag "style" [] ++ text ++ closeTag "style") = "style" then _ else _) = (some text, rest)
    rw [if_pos hname, within_append]
    rfl
  | none =>
    cases rest with
    | nil => rfl
    | cons line rest => exact if_neg (hrest line List.mem_cons_self)

theorem tagName_openDefs : tagName (openTag "defs" []) = "defs" := (beginsWith_openTag (by decide) []).tagName_eq

theorem tagName_closeDefs : tagName (closeTag "defs") = "defs" := tagName_closeTag (by decide)

theorem defsLines_eq {defs : List String} (hne : defs ≠ []) :
    Canvas.defsLines defs = openTag "defs" [] :: (defs ++ [closeTag "defs"]) := by
  rw [Canvas.defsLines, if_neg (by simpa using hne)]
  rfl

theorem splitDefs_defsLines {defs rest : List String} (hdefs : DrawingLines defs)
    (hrest : ∀ line ∈ rest, tagName line ≠ "defs") :
    splitDefs (Canvas.defsLines defs ++ rest) = (defs, rest) := by
  cases defs with
  | nil =>
    cases rest with
    | nil => rfl
    | cons line rest => exact if_neg (hrest line List.mem_cons_self)
  | cons first more =>
    have hinner : ∀ line ∈ first :: more, decide (tagName line ≠ "defs") = true :=
      fun line hline => decide_eq_true ((hdefs line hline).tagName_ne (by decide))
    rw [defsLines_eq (List.cons_ne_nil first more), List.cons_append, List.append_assoc, splitDefs,
      if_pos tagName_openDefs, List.takeWhile_append_of_pos hinner, List.dropWhile_append_of_pos hinner,
      List.singleton_append, List.takeWhile_cons_of_neg (by simp [tagName_closeDefs]),
      List.dropWhile_cons_of_neg (by simp [tagName_closeDefs]), List.append_nil, List.tail_cons]

/-! ## The document -/

theorem single_header (width height : Number) :
    Avoids (Canvas.header width.plainText height.plainText) ['\n'] := by
  have hwidth := single_number width
  have hheight := single_number height
  have hview : Avoids ("0 0 " ++ width.plainText ++ " " ++ height.plainText) ['\n'] :=
    ((Avoids.append (by decide) hwidth).append (by decide)).append hheight
  refine (drawingLine_openTag (by decide) ?_).single
  simp only [List.forall_mem_cons]
  exact ⟨by decide, by decide, single_mk (by decide) hwidth, single_mk (by decide) hheight,
    single_mk (by decide) hview, List.forall_mem_nil _⟩

theorem single_styleLines {style : Option String} (hstyle : ∀ text, style = some text → Avoids text ['\n']) :
    ∀ line ∈ Canvas.styleLines style, Avoids line ['\n'] := by
  cases style with
  | none => exact List.forall_mem_nil _
  | some text =>
    exact List.forall_mem_singleton.mpr ((Avoids.append (by decide) (hstyle text rfl)).append (by decide))

theorem single_defsLines {defs : List String} (hdefs : DrawingLines defs) :
    ∀ line ∈ Canvas.defsLines defs, Avoids line ['\n'] := by
  by_cases hempty : defs = []
  · rw [hempty]
    exact List.forall_mem_nil _
  · rw [defsLines_eq hempty, List.forall_mem_cons, List.forall_mem_append]
    exact ⟨by decide, fun line hline => (hdefs line hline).single, List.forall_mem_singleton.mpr (by decide)⟩

/-- The definitions do not begin like a style. -/
theorem tagName_ne_style {defs : List String} (hdefs : DrawingLines defs) :
    ∀ line ∈ Canvas.defsLines defs, tagName line ≠ "style" := by
  by_cases hempty : defs = []
  · rw [hempty]
    exact List.forall_mem_nil _
  · rw [defsLines_eq hempty, List.forall_mem_cons, List.forall_mem_append, List.forall_mem_singleton,
      tagName_openDefs, tagName_closeDefs]
    exact ⟨by decide, fun line hline => (hdefs line hline).tagName_ne (by decide), by decide⟩

/-- **A document of drawing lines is read back.** -/
theorem read?_plainDocument {canvas : Canvas} {style : Option String} (hdefs : DrawingLines canvas.defs)
    (hbody : DrawingLines canvas.body) (hstyle : ∀ text, style = some text → Avoids text ['\n']) :
    read? (canvas.plainDocument style) = some (canvas, style) := by
  -- Behind the definitions stand the body and the closing tag, all of them drawing lines.
  let ending := canvas.body ++ [closeTag "svg"]
  have hending : DrawingLines ending :=
    hbody.append ((drawingLine_closeTag (by decide)).cons drawingLines_nil)
  have hlines : canvas.plainLines style = Canvas.header canvas.width.plainText canvas.height.plainText ::
      (Canvas.styleLines style ++ (Canvas.defsLines canvas.defs ++ ending)) := by
    simp [Canvas.plainLines, Canvas.contentLines, ending]
  have hsingle : ∀ line ∈ canvas.plainLines style, Avoids line ['\n'] := by
    rw [hlines, List.forall_mem_cons, List.forall_mem_append, List.forall_mem_append]
    exact ⟨single_header _ _, single_styleLines hstyle, single_defsLines hdefs,
      fun line hline => (hending line hline).single⟩
  have hsplit : split '\n' (String.ofList (canvas.plainDocument style).toList.dropLast) =
      canvas.plainLines style := by
    rw [Canvas.plainDocument, String.toList_append]
    show split '\n' (String.ofList (_ ++ ['\n']).dropLast) = _
    rw [List.dropLast_concat, String.ofList_toList]
    exact split_intercalate (by rw [hlines]; exact List.cons_ne_nil _ _)
      fun line hline => (hsingle line hline).not_mem (List.mem_singleton_self '\n')
  have hstyleSplit : splitStyle (Canvas.styleLines style ++ (Canvas.defsLines canvas.defs ++ ending)) =
      (style, Canvas.defsLines canvas.defs ++ ending) :=
    splitStyle_styleLines (List.forall_mem_append.mpr
      ⟨tagName_ne_style hdefs, fun line hline => (hending line hline).tagName_ne (by decide)⟩)
  have hdefsSplit : splitDefs (Canvas.defsLines canvas.defs ++ ending) = (canvas.defs, ending) :=
    splitDefs_defsLines hdefs fun line hline => (hending line hline).tagName_ne (by decide)
  have hbodyLines : ending.dropLast = canvas.body := List.dropLast_concat
  rw [read?, hsplit, hlines]
  simp only [hstyleSplit, hdefsSplit, surface?_header, Option.map_some, hbodyLines]

end Document

/-! ## Runs -/

/-- **A run without line feeds** in its strings, and a style without one. -/
structure SingleLined (steps : List Step) (style : Option String) : Prop where
  drawn : ∀ step ∈ steps, step.isVerbatim = false
  strings : ∀ step ∈ steps, ∀ text ∈ step.strings, Avoids text ['\n']
  style : ∀ text, style = some text → Avoids text ['\n']

section Documents

variable [DigitLimit]

theorem read?_afterAll {steps : List Step} {style : Option String} (h : SingleLined steps style)
    {width height : Number} {text : String}
    (htext : ((Canvas.blank width height).afterAll steps).document style = .ok text) :
    Document.read? text = some ((Canvas.blank width height).afterAll steps, style) := by
  have hsteps : ∀ step ∈ steps, step.SingleLine :=
    fun step hstep => ⟨h.drawn step hstep, h.strings step hstep⟩
  have hblank : DrawingLines (Canvas.blank width height).defs ∧ DrawingLines (Canvas.blank width height).body :=
    ⟨drawingLines_nil, drawingLines_nil⟩
  obtain ⟨hdefs, hbody⟩ := Canvas.drawingLines_afterAll hsteps hblank.1 hblank.2
  rw [← Canvas.eq_plainDocument_of_document_eq_ok htext]
  exact Document.read?_plainDocument hdefs hbody h.style

/-- **A document loses nothing.** The document of a run has a text as soon as its size has one, so always where
digits are not limited, failing steps included. One function reads the canvas and the style back from the text; so runs with the same text leave the same
canvas and have the same style. -/
theorem document_recovered {steps : List Step} {style : Option String} (h : SingleLined steps style)
    (width height : Number) :
    ((∃ text, ((Canvas.blank width height).afterAll steps).document style = .ok text) ↔
        width.Writable ∧ height.Writable) ∧
      (DigitLimit.most = none → ∃ text, ((Canvas.blank width height).afterAll steps).document style = .ok text) ∧
      ∀ text, ((Canvas.blank width height).afterAll steps).document style = .ok text →
        Document.read? text = some ((Canvas.blank width height).afterAll steps, style) ∧
        ∀ (width' height' : Number) (steps' : List Step) (style' : Option String), SingleLined steps' style' →
          ((Canvas.blank width' height').afterAll steps').document style' = .ok text →
          (Canvas.blank width' height').afterAll steps' = (Canvas.blank width height).afterAll steps ∧
            style' = style := by
  refine ⟨Canvas.exists_document_afterAll_iff _ steps style,
    Canvas.exists_document_afterAll_of_unlimited _ steps style, ?_⟩
  intro text htext
  refine ⟨read?_afterAll h htext, ?_⟩
  intro width' height' steps' style' h' htext'
  have hread := read?_afterAll h' htext'
  rw [read?_afterAll h htext, Option.some.injEq, Prod.mk.injEq] at hread
  exact ⟨hread.1.symm, hread.2.symm⟩

end Documents

section Framed

attribute [local instance] DigitLimit.standard

/-- A run that writes parts of the frame wherever it can. Its second ring and both connectors fail, one of them
behind the tag that opens its group. -/
def framedRun : List Step :=
  [.ring ⟨1, "</defs>", "\"><style>", ["<defs>", "</svg>"]⟩ 50,
   .ring ⟨.whole Binary64.ceiling, "</style>", "#eee", []⟩ (.real (.zero false)),
   .arrowHead "</marker></defs>" "\"/></defs>",
   .connector ⟨⟨0, 0⟩, ⟨.whole Binary64.ceiling, 5⟩⟩ { clipping := true },
   .connector ⟨⟨0, 0⟩, ⟨10, 5⟩⟩ { width := .whole (10 ^ 4300 : Nat) },
   .label "<style>" (.markup ["</style>", "<defs>"]) "" ""]

theorem singleLined_framedRun : SingleLined framedRun (some "</style><defs>") where
  drawn := by decide
  strings := by decide
  style := by
    intro text htext
    rw [← Option.some.inj htext]
    decide

/-- On a canvas whose height is the negative zero. -/
theorem framedRun_recovered :
    SingleLined framedRun (some "</style><defs>") ∧
      ∃ text, ((Canvas.blank 410 (.real (.zero true))).afterAll framedRun).document (some "</style><defs>") =
          .ok text ∧
        Document.read? text =
          some ((Canvas.blank 410 (.real (.zero true))).afterAll framedRun, some "</style><defs>") := by
  obtain ⟨hexists, -, hread⟩ := document_recovered singleLined_framedRun 410 (.real (.zero true))
  obtain ⟨text, htext⟩ := hexists.mpr (by decide +kernel)
  exact ⟨singleLined_framedRun, text, htext, (hread text htext).1⟩

end Framed

end Concentric
