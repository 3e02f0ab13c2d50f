import Concentric.Proofs.Markup.Scanner

/-!
# Reading single lines

The identifier that a line defines and the identifiers that it refers to are read off its beginning, or, for
a label, off the last `textPath` in it. Nothing is asked of the other strings in the line: those may hold
quotes and whole tags.
-/

namespace Concentric.Markup

open Scanner Text

/-! ## Pieces of a text -/

/-- What stands behind a pattern with which a text begins. -/
def behind? (pattern text : List Char) : Option (List Char) :=
  if pattern.isPrefixOf text then some (text.drop pattern.length) else none

/-- What stands behind the last occurrence of a pattern. -/
def behindLast? (pattern : List Char) : List Char → Option (List Char)
  | [] => none
  | c :: rest => (behindLast? pattern rest).or (behind? pattern (c :: rest))

/-- The text up to a character. -/
def upTo (stop : Char) (text : List Char) : String := String.ofList (text.takeWhile (· ≠ stop))

/-- What stands behind `<tag` and the beginning of its attributes. -/
def inside? (tag beginning line : String) : Option (List Char) :=
  behind? ('<' :: (tag.toList ++ ' ' :: beginning.toList)) line.toList

/-- **The identifier on a line** that begins with a tag: `<tag id="…"`. -/
def idOf? (tag line : String) : Option String := (inside? tag "id=\"" line).map (upTo '"')

/-- **The clip region of a group,** on a line `<g id="…" clip-path="url(#…)">`. -/
def clipOf? (line : String) : Option String :=
  (inside? "g" "id=\"" line).bind fun rest =>
    (behind? "\" clip-path=\"url(#".toList (rest.dropWhile (· ≠ '"'))).map (upTo ')')

/-- What follows the angle bracket in front of the path of a label. -/
def hrefStem : List Char := "textPath href=\"#".toList

theorem hrefStem_eq : '<' :: hrefStem = "<textPath href=\"#".toList := by decide

/-- **The path of a label,** on a line that begins with `<text `. -/
def pathOf? (line : String) : Option String :=
  (inside? "text" "" line).bind fun rest => (behindLast? ('<' :: hrefStem) rest).map (upTo '"')

theorem behind?_append (pattern text : List Char) : behind? pattern (pattern ++ text) = some text := by
  have hprefix : pattern.isPrefixOf (pattern ++ text) = true :=
    List.isPrefixOf_iff_prefix.mpr (List.prefix_append pattern text)
  rw [behind?, if_pos hprefix, List.drop_left]

theorem takeWhile_append_stop {stop : Char} {s : List Char} (h : stop ∉ s) (t : List Char) :
    (s ++ stop :: t).takeWhile (· ≠ stop) = s := by
  rw [List.takeWhile_append_of_pos]
  · simp
  · intro c hc
    have hne : c ≠ stop := fun heq => h (heq ▸ hc)
    simpa using hne

theorem dropWhile_append_stop {stop : Char} {s : List Char} (h : stop ∉ s) (t : List Char) :
    (s ++ stop :: t).dropWhile (· ≠ stop) = stop :: t := by
  rw [List.dropWhile_append_of_pos]
  · simp
  · intro c hc
    have hne : c ≠ stop := fun heq => h (heq ▸ hc)
    simpa using hne

theorem takeWhile_concat_begins (stop : Char) (s : List Char) :
    s.takeWhile (· ≠ stop) ++ [stop] <+: s ++ [stop] := by
  induction s with
  | nil => exact List.prefix_refl _
  | cons c s ih =>
    by_cases hstop : c = stop
    · rw [List.takeWhile_cons_of_neg (by simp [hstop]), hstop]
      exact ⟨s ++ [stop], rfl⟩
    · rw [List.takeWhile_cons_of_pos (by simp [hstop])]
      exact List.cons_prefix_cons.mpr ⟨rfl, ih⟩

theorem upTo_append {stop : Char} {s : String} (h : stop ∉ s.toList) (t : List Char) :
    upTo stop (s.toList ++ stop :: t) = s := by
  rw [upTo, takeWhile_append_stop h, String.ofList_toList]

theorem not_mem_upTo (stop : Char) (text : List Char) : stop ∉ (upTo stop text).toList := by
  intro hmem
  rw [upTo, String.toList_ofList] at hmem
  have hpassed := List.all_eq_true.mp List.all_takeWhile stop hmem
  simp at hpassed

/-! ## Identifiers -/

theorem inside?_append {tag beginning line : String} {rest : List Char}
    (hline : line.toList = '<' :: (tag.toList ++ ' ' :: beginning.toList) ++ rest) :
    inside? tag beginning line = some rest := by
  rw [inside?, hline, behind?_append]

theorem idOf?_openTag {id : String} (h : '"' ∉ id.toList) (tag : String) (rest : List Attribute) :
    idOf? tag (openTag tag (⟨"id", id⟩ :: rest)) = some id := by
  have hinside : inside? tag "id=\"" (openTag tag (⟨"id", id⟩ :: rest)) =
      some (id.toList ++ '"' :: ((spacedAttributes rest).toList ++ ['>'])) :=
    inside?_append (by simp [openTag, spacedAttributes, Attribute.text])
  rw [idOf?, hinside, Option.map_some, upTo_append h]

theorem idOf?_emptyElement {id : String} (h : '"' ∉ id.toList) (tag : String) (rest : List Attribute) :
    idOf? tag (emptyElement tag (⟨"id", id⟩ :: rest)) = some id := by
  have hinside : inside? tag "id=\"" (emptyElement tag (⟨"id", id⟩ :: rest)) =
      some (id.toList ++ '"' :: ((spacedAttributes rest).toList ++ "/>".toList)) :=
    inside?_append (by simp [emptyElement, spacedAttributes, Attribute.text])
  rw [idOf?, hinside, Option.map_some, upTo_append h]

/-- A group without a second attribute is not clipped. -/
theorem clipOf?_of_single {id : String} (h : '"' ∉ id.toList) :
    clipOf? (openTag "g" [⟨"id", id⟩]) = none := by
  have hinside : inside? "g" "id=\"" (openTag "g" [⟨"id", id⟩]) = some (id.toList ++ '"' :: ['>']) :=
    inside?_append (by simp [openTag, spacedAttributes, Attribute.text])
  rw [clipOf?, hinside, Option.bind_some, dropWhile_append_stop h]
  rfl

theorem clipOf?_openTag {id region : String} (hid : '"' ∉ id.toList) (hregion : ')' ∉ region.toList) :
    clipOf? (openTag "g" [⟨"id", id⟩, ⟨"clip-path", reference region⟩]) = some region := by
  have hinside : inside? "g" "id=\"" (openTag "g" [⟨"id", id⟩, ⟨"clip-path", reference region⟩]) =
      some (id.toList ++ '"' :: (" clip-path=\"url(#".toList ++ (region.toList ++ ')' :: "\">".toList))) :=
    inside?_append (by simp [openTag, spacedAttributes, Attribute.text, reference])
  have hbehind : '"' :: (" clip-path=\"url(#".toList ++ (region.toList ++ ')' :: "\">".toList)) =
      "\" clip-path=\"url(#".toList ++ (region.toList ++ ')' :: "\">".toList) := rfl
  rw [clipOf?, hinside, Option.bind_some, dropWhile_append_stop hid, hbehind, behind?_append,
    Option.map_some, upTo_append hregion]

example : clipOf? "<g id=\"a\" clip-path=\"url(#b)\">" = some "b" := by
  decide +kernel

/-! ## Lines of other tags -/

/-- A tag with a blank behind its name does not begin like a tag of another name. -/
theorem not_prefix_of_name_ne {tag name : List Char} (htag : isName tag = true)
    (hname : isName name = true) (hne : tag ≠ name) {c : Char} (hc : isNameChar c = false)
    (following rest : List Char) : ¬ tag ++ ' ' :: following <+: name ++ c :: rest := by
  rintro ⟨more, hsame⟩
  -- The blank ends the tag and `c` ends the name, so both can be cut off.
  have hnames := congrArg (List.takeWhile isNameChar) hsame
  rw [List.append_assoc, List.cons_append, List.takeWhile_append_of_pos (isNameChar_of_mem htag),
    List.takeWhile_append_of_pos (isNameChar_of_mem hname), List.takeWhile_cons_of_neg (by decide),
    List.takeWhile_cons_of_neg (by simp [hc]), List.append_nil, List.append_nil] at hnames
  exact hne hnames

theorem behind?_eq_none {pattern text : List Char} (h : ¬ pattern <+: text) :
    behind? pattern text = none := by
  rw [behind?, if_neg]
  rwa [List.isPrefixOf_iff_prefix]

/-- **The name of a tag and what ends it,** as the beginning of a line. -/
structure BeginsWith (line name : String) : Prop where
  named : isName name.toList = true
  ended : ∃ c rest, isNameChar c = false ∧ line.toList = '<' :: (name.toList ++ c :: rest)

theorem beginsWith_openTag {name : String} (hname : isName name.toList = true)
    (attributes : List Attribute) : BeginsWith (openTag name attributes) name := by
  refine ⟨hname, ?_⟩
  cases attributes with
  | nil => exact ⟨'>', [], by decide, by simp [openTag, spacedAttributes]⟩
  | cons a rest =>
    exact ⟨' ', a.text.toList ++ (spacedAttributes rest).toList ++ ['>'], by decide, by
      simp [openTag, spacedAttributes]⟩

theorem beginsWith_emptyElement {name : String} (hname : isName name.toList = true)
    (attributes : List Attribute) : BeginsWith (emptyElement name attributes) name := by
  refine ⟨hname, ?_⟩
  cases attributes with
  | nil => exact ⟨'/', ['>'], by decide, by simp [emptyElement, spacedAttributes]⟩
  | cons a rest =>
    exact ⟨' ', a.text.toList ++ (spacedAttributes rest).toList ++ "/>".toList, by decide, by
      simp [emptyElement, spacedAttributes]⟩

theorem beginsWith_pathLabel (pathId : String) (content : Content) (offset attributes : String) :
    BeginsWith (pathLabel pathId content offset attributes) "text" :=
  ⟨by decide, ' ', (attributes ++ ">" ++
    openTag "textPath" [⟨"href", "#" ++ pathId⟩, ⟨"startOffset", offset⟩] ++ content.inner ++
    closeTag "textPath" ++ closeTag "text").toList, by decide, by simp [pathLabel]⟩

/-- A line of another tag does not begin like this tag, whatever follows it. -/
theorem BeginsWith.not_begins {line name tag : String} (h : BeginsWith line name)
    (htag : isName tag.toList = true) (hne : tag ≠ name) (beginning following : List Char) :
    ¬ '<' :: (tag.toList ++ ' ' :: beginning) <+: line.toList ++ following := by
  obtain ⟨c, rest, hc, hline⟩ := h.ended
  rw [hline, List.cons_append, List.cons_prefix_cons, List.append_assoc, List.cons_append]
  rintro ⟨-, hprefix⟩
  have hne' : tag.toList ≠ name.toList := fun hsame => hne (String.toList_injective hsame)
  exact not_prefix_of_name_ne htag h.named hne' hc beginning (rest ++ following) hprefix

theorem BeginsWith.inside?_eq_none {line name tag : String} (h : BeginsWith line name)
    (htag : isName tag.toList = true) (hne : tag ≠ name) (beginning : String) :
    inside? tag beginning line = none := by
  have hprefix := h.not_begins htag hne beginning.toList []
  rw [List.append_nil] at hprefix
  exact behind?_eq_none hprefix

/-- A closing tag is none of an opening one. -/
theorem closeTag_not_begins {tag : String} (htag : isName tag.toList = true) (name : String)
    (beginning following : List Char) :
    ¬ '<' :: (tag.toList ++ ' ' :: beginning) <+: (closeTag name).toList ++ following := by
  obtain ⟨c, rest, htext, hletter, -⟩ := isName_iff_exists.mp htag
  have hslash : c ≠ '/' := by
    intro hsame
    rw [hsame] at hletter
    exact absurd hletter (by decide)
  have hline : (closeTag name).toList = '<' :: '/' :: (name.toList ++ ['>']) := by simp [closeTag]
  rw [hline, htext]
  simp only [List.cons_append, List.cons_prefix_cons]
  rintro ⟨-, hsame, -⟩
  exact hslash hsame

theorem inside?_closeTag {tag : String} (htag : isName tag.toList = true) (beginning name : String) :
    inside? tag beginning (closeTag name) = none := by
  have hprefix := closeTag_not_begins htag name beginning.toList []
  rw [List.append_nil] at hprefix
  exact behind?_eq_none hprefix

/-! ## The last occurrence -/

variable {d : Char} {rest : List Char}

theorem behindLast?_append_of_not_mem {s : List Char} (h : d ∉ s) (t : List Char) :
    behindLast? (d :: rest) (s ++ t) = behindLast? (d :: rest) t := by
  induction s with
  | nil => rfl
  | cons c s ih =>
    simp only [List.mem_cons, not_or] at h
    have hnone : behind? (d :: rest) (c :: (s ++ t)) = none := by
      simp [behind?, List.isPrefixOf, h.1]
    rw [List.cons_append, behindLast?, ih h.2, hnone, Option.or_none]

/-- What is found later wins. -/
theorem behindLast?_append_of_some {pattern t found : List Char}
    (h : behindLast? pattern t = some found) (s : List Char) :
    behindLast? pattern (s ++ t) = some found := by
  induction s with
  | nil => exact h
  | cons c s ih => rw [List.cons_append, behindLast?, ih, Option.some_or]

/-- A pattern behind which it does not occur again. -/
theorem behindLast?_split {middle t : List Char} (hrest : d ∉ rest) (hmiddle : d ∉ middle)
    (ht : behindLast? (d :: rest) t = none) (s : List Char) :
    behindLast? (d :: rest) (s ++ (d :: rest ++ (middle ++ t))) = some (middle ++ t) := by
  apply behindLast?_append_of_some
  have hbehind := behind?_append (d :: rest) (middle ++ t)
  rw [List.cons_append] at hbehind
  rw [List.cons_append, behindLast?, behindLast?_append_of_not_mem hrest,
    behindLast?_append_of_not_mem hmiddle, ht, hbehind, Option.none_or]

/-- **The path of a label is read back** whatever its attributes are, as long as no second path begins in
its content. -/
theorem pathOf?_pathLabel {pathId offset : String} {content : Content} (attributes : String)
    (hid : Avoids pathId ['"', '<']) (hoffset : '<' ∉ offset.toList)
    (hcontent : behindLast? ('<' :: hrefStem)
      (content.inner.toList ++ "</textPath></text>".toList) = none) :
    pathOf? (pathLabel pathId content offset attributes) = some pathId := by
  have hline : (pathLabel pathId content offset attributes).toList =
      "<text ".toList ++ ((attributes.toList ++ ['>']) ++ ("<textPath href=\"#".toList ++
        ((pathId.toList ++ '"' :: (" startOffset=\"".toList ++ offset.toList ++ "\">".toList)) ++
          (content.inner.toList ++ "</textPath></text>".toList)))) := by
    simp [pathLabel, openTag, closeTag, spacedAttributes, Attribute.text]
  rw [← hrefStem_eq] at hline
  have hinside : inside? "text" "" (pathLabel pathId content offset attributes) = some _ :=
    inside?_append hline
  -- Between the last path and the content there is no other angle bracket.
  have hmiddle : '<' ∉
      pathId.toList ++ '"' :: (" startOffset=\"".toList ++ offset.toList ++ "\">".toList) := by
    simp [hid.not_mem (by simp : '<' ∈ ['"', '<']), hoffset]
  rw [pathOf?, hinside, Option.bind_some, behindLast?_split (by decide) hmiddle hcontent, Option.map_some,
    List.append_assoc, List.cons_append, upTo_append (hid.not_mem (by simp))]

example : pathOf? "<text fill=\"<textPath href=\"#x\"><textPath href=\"#a\" startOffset=\"0%\">b</textPath></text>" =
    some "a" := by
  decide +kernel

end Concentric.Markup
