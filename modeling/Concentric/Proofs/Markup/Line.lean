import Concentric.Proofs.Markup.Reading

/-!
# Lines of a drawing

The lists of a canvas hold one line each for an opening tag, a closing tag, an empty element or a label. As long
as no line feed stands in an attribute or a label, such a line is a single one, and its tag tells it from the
style of a document and from the element around the definitions.
-/

namespace Concentric.Markup

open Scanner Text

/-- The name behind the bracket, and the slash if there is one, with which a line begins. -/
def tagName (line : String) : String :=
  String.ofList ((line.toList.dropWhile fun c => c = '<' || c = '/').takeWhile isNameChar)

/-- The elements that are written around the lines of a canvas. -/
def frameNames : List String := ["style", "defs"]

/-- **A name of a drawing's elements:** none of the frame. -/
def IsDrawingName (name : String) : Prop := isName name.toList = true ∧ name ∉ frameNames

instance (name : String) : Decidable (IsDrawingName name) := inferInstanceAs (Decidable (_ ∧ _))

/-- **A line of a drawing:** a single one, and no part of the frame. -/
structure DrawingLine (line : String) : Prop where
  single : Avoids line ['\n']
  inner : tagName line ∉ frameNames

theorem DrawingLine.tagName_ne {line : String} (h : DrawingLine line) {name : String}
    (hname : name ∈ frameNames) : tagName line ≠ name := by
  intro hsame
  rw [← hsame] at hname
  exact h.inner hname

/-- An attribute without a line feed. -/
def Attribute.Single (a : Attribute) : Prop := Avoids a.name ['\n'] ∧ Avoids a.value ['\n']

instance (a : Attribute) : Decidable a.Single := inferInstanceAs (Decidable (_ ∧ _))

theorem single_mk {name value : String} (hname : Avoids name ['\n']) (hvalue : Avoids value ['\n']) :
    Attribute.Single ⟨name, value⟩ :=
  ⟨hname, hvalue⟩

/-! ## Names -/

theorem tagName_eq {line name : String} (bracket : List Char) {rest : List Char} {c : Char}
    (hname : isName name.toList = true) (hbracket : ∀ d ∈ bracket, d = '<' ∨ d = '/')
    (hc : isNameChar c = false) (hline : line.toList = bracket ++ (name.toList ++ c :: rest)) :
    tagName line = name := by
  obtain ⟨first, more, hsplit, hletter, -⟩ := isName_iff_exists.mp hname
  have hfirst : (decide (first = '<') || decide (first = '/')) = false := by
    rw [Bool.or_eq_false_iff]
    constructor <;> (rw [decide_eq_false_iff_not]; rintro rfl; exact absurd hletter (by decide))
  have hdrop : line.toList.dropWhile (fun c => c = '<' || c = '/') = name.toList ++ c :: rest := by
    rw [hline, List.dropWhile_append_of_pos (by simpa using hbracket), hsplit]
    simp only [List.cons_append, List.dropWhile_cons, hfirst, Bool.false_eq_true, if_false]
  rw [tagName, hdrop, List.takeWhile_append_of_pos (isNameChar_of_mem hname),
    List.takeWhile_cons_of_neg (by simp [hc]), List.append_nil, String.ofList_toList]

theorem BeginsWith.tagName_eq {line name : String} (h : BeginsWith line name) : tagName line = name := by
  obtain ⟨c, rest, hc, hline⟩ := h.ended
  exact Markup.tagName_eq ['<'] h.named (by simp) hc hline

theorem tagName_closeTag {name : String} (hname : isName name.toList = true) :
    tagName (closeTag name) = name := by
  have hline : (closeTag name).toList = ['<', '/'] ++ (name.toList ++ '>' :: []) := by simp [closeTag]
  exact tagName_eq ['<', '/'] hname (by simp) (by decide) hline

/-! ## Line feeds -/

theorem avoids_attribute {a : Attribute} (h : a.Single) : Avoids a.text ['\n'] :=
  ((h.1.append (by decide)).append h.2).append (by decide)

theorem avoids_spacedAttributes {attributes : List Attribute} (h : ∀ a ∈ attributes, a.Single) :
    Avoids (spacedAttributes attributes) ['\n'] := by
  induction attributes with
  | nil => exact (by decide : Avoids "" ['\n'])
  | cons a rest ih =>
    rw [List.forall_mem_cons] at h
    have hcons : spacedAttributes (a :: rest) = " " ++ a.text ++ spacedAttributes rest := by
      simp [spacedAttributes]
    rw [hcons]
    exact (Avoids.append (by decide) (avoids_attribute h.1)).append (ih h.2)

theorem avoids_attributesText {attributes : List Attribute} (h : ∀ a ∈ attributes, a.Single) :
    Avoids (attributesText attributes) ['\n'] := by
  refine Avoids.intercalate (by decide) fun text htext => ?_
  obtain ⟨a, ha, rfl⟩ := List.mem_map.mp htext
  exact avoids_attribute (h a ha)

/-- Escaping writes no line feed. -/
theorem avoids_escape {text : String} (h : Avoids text ['\n']) : Avoids (escape text) ['\n'] := by
  intro c hc
  rw [toList_escape] at hc
  obtain ⟨d, hd, hform⟩ := List.mem_flatMap.mp hc
  unfold escapeChar at hform
  split at hform
  · exact (by decide : Avoids "&amp;" ['\n']) c hform
  · exact (by decide : Avoids "&lt;" ['\n']) c hform
  · exact (by decide : Avoids "&gt;" ['\n']) c hform
  · rw [List.mem_singleton.mp hform]
    exact h d hd

theorem avoids_of_isName {name : String} (hname : isName name.toList = true) : Avoids name ['\n'] := by
  intro c hc hfeed
  have hchar := isNameChar_of_mem hname c hc
  rw [List.mem_singleton.mp hfeed] at hchar
  exact absurd hchar (by decide)

/-! ## The shapes of a line -/

section Shapes

variable {name : String} {attributes : List Attribute}

theorem drawingLine_openTag (hname : IsDrawingName name) (h : ∀ a ∈ attributes, a.Single) :
    DrawingLine (openTag name attributes) where
  single := by
    have hopen : Avoids ("<" ++ name) ['\n'] := Avoids.append (by decide) (avoids_of_isName hname.1)
    exact (hopen.append (avoids_spacedAttributes h)).append (by decide)
  inner := by
    rw [(beginsWith_openTag hname.1 attributes).tagName_eq]
    exact hname.2

theorem drawingLine_emptyElement (hname : IsDrawingName name) (h : ∀ a ∈ attributes, a.Single) :
    DrawingLine (emptyElement name attributes) where
  single := by
    have hopen : Avoids ("<" ++ name) ['\n'] := Avoids.append (by decide) (avoids_of_isName hname.1)
    exact (hopen.append (avoids_spacedAttributes h)).append (by decide)
  inner := by
    rw [(beginsWith_emptyElement hname.1 attributes).tagName_eq]
    exact hname.2

theorem drawingLine_closeTag (hname : IsDrawingName name) : DrawingLine (closeTag name) where
  single := (Avoids.append (by decide) (avoids_of_isName hname.1)).append (by decide)
  inner := by
    rw [tagName_closeTag hname.1]
    exact hname.2

theorem drawingLine_pathLabel {pathId offset attributes : String} {content : Content}
    (hid : Avoids pathId ['\n']) (hcontent : Avoids content.inner ['\n']) (hoffset : Avoids offset ['\n'])
    (hattributes : Avoids attributes ['\n']) :
    DrawingLine (pathLabel pathId content offset attributes) where
  single := by
    have hpath : ∀ a ∈ [Attribute.mk "href" ("#" ++ pathId), ⟨"startOffset", offset⟩], a.Single := by
      simp only [List.forall_mem_cons]
      exact ⟨single_mk (by decide) (Avoids.append (by decide) hid), single_mk (by decide) hoffset, nofun⟩
    have htag : Avoids (openTag "textPath" [⟨"href", "#" ++ pathId⟩, ⟨"startOffset", offset⟩]) ['\n'] :=
      (drawingLine_openTag (by decide) hpath).single
    have htext : Avoids ("<text " ++ attributes ++ ">") ['\n'] :=
      (Avoids.append (by decide) hattributes).append (by decide)
    exact (((htext.append htag).append hcontent).append (by decide)).append (by decide)
  inner := by
    rw [(beginsWith_pathLabel pathId content offset attributes).tagName_eq]
    decide

end Shapes

/-! ## Lists of lines -/

/-- **Lists of drawing lines.** -/
def DrawingLines (lines : List String) : Prop := ∀ line ∈ lines, DrawingLine line

theorem drawingLines_nil : DrawingLines [] := nofun

theorem DrawingLine.cons {line : String} {lines : List String} (h : DrawingLine line)
    (hrest : DrawingLines lines) : DrawingLines (line :: lines) :=
  List.forall_mem_cons.mpr ⟨h, hrest⟩

theorem DrawingLines.append {first second : List String} (h : DrawingLines first) (h' : DrawingLines second) :
    DrawingLines (first ++ second) := by
  intro line hline
  rcases List.mem_append.mp hline with hfirst | hsecond
  · exact h line hfirst
  · exact h' line hsecond

/-- An element around drawing lines. -/
theorem DrawingLines.element {name : String} {attributes : List Attribute} {lines : List String}
    (h : DrawingLines lines) (hname : IsDrawingName name) (hattributes : ∀ a ∈ attributes, a.Single) :
    DrawingLines (openTag name attributes :: lines ++ [closeTag name]) := by
  have hopen : DrawingLine (openTag name attributes) := drawingLine_openTag hname hattributes
  have hclose : DrawingLines [closeTag name] := (drawingLine_closeTag hname).cons drawingLines_nil
  exact (hopen.cons h).append hclose

end Concentric.Markup
