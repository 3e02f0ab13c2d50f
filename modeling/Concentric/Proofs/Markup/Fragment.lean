import Concentric.Proofs.Markup.Census
import Concentric.Proofs.Markup.Nesting

/-!
# Fragments of a document

A fragment is a list of lines that can stand anywhere between the tags of a document: it is read as
balanced tokens in which no tag has an attribute twice. `Fragment lines found circles` also says which
labels and how many circles it holds. Fragments can be built as the builders build them, from empty
elements, labels and fragments between an opening and a closing tag. A builder that stops halfway leaves
elements open, so `OpenFragment` says which ones they are.
-/

namespace Concentric.Markup

open Scanner Text

/-! ## Nested tokens -/

/-- The name by which circles are searched. -/
def circleStem : List Char := "circle".toList

/-- **Nested tokens:** they close only what they open, what is left are the opened elements, no attribute is
repeated, and there is a number of circles. -/
structure Nested (tokens : List Token) (opened : List String) (circles : Nat) : Prop where
  opened : openElements? [] tokens = some opened
  distinct : ∀ token ∈ tokens, token.attributeNames.Nodup
  circles : tokens.countP (Token.begins circleStem) = circles

theorem nested_nil : Nested [] [] 0 := ⟨rfl, List.forall_mem_nil _, rfl⟩

theorem Nested.append {first second : List Token} {opened more : List String} {n k : Nat}
    (h : Nested first opened n) (h' : Nested second more k) :
    Nested (first ++ second) (more ++ opened) (n + k) := by
  refine ⟨openElements?_stack h.opened h'.opened, ?_, ?_⟩
  · intro token htoken
    rcases List.mem_append.mp htoken with hmem | hmem
    · exact h.distinct token hmem
    · exact h'.distinct token hmem
  · rw [List.countP_append, h.circles, h'.circles]

theorem nested_data (text : List Char) : Nested (text.map .data) [] 0 := by
  refine ⟨balanced_data text, ?_, ?_⟩
  · intro token htoken
    obtain ⟨c, -, rfl⟩ := List.mem_map.mp htoken
    exact List.nodup_nil
  · rw [List.countP_eq_zero]
    intro token htoken
    obtain ⟨c, -, rfl⟩ := List.mem_map.mp htoken
    exact Bool.false_ne_true

/-- **A tag that can be read back:** its name and its attributes can, and the attributes have different
names. -/
structure ReadableTag (name : String) (attributes : List Attribute) : Prop where
  named : isName name.toList = true
  readable : ∀ a ∈ attributes, a.Readable
  distinct : (attributes.map Attribute.name).Nodup

/-- Names are checked by evaluation, those of attributes that may be absent too; what is left are the
values. -/
theorem readableTag_of_values {name : String} {attributes : List Attribute} (names : List String)
    (hnames : (attributes.map Attribute.name).Sublist names)
    (hchecked : ((name :: names).all fun n => isName n.toList) = true ∧ names.Nodup)
    (hvalues : ∀ a ∈ attributes, Avoids a.value unquotable) : ReadableTag name attributes := by
  obtain ⟨hreadable, hdistinct⟩ := hchecked
  rw [List.all_eq_true] at hreadable
  refine ⟨hreadable name (by simp), ?_, hdistinct.sublist hnames⟩
  intro a ha
  have hmem : a.name ∈ names := hnames.subset (List.mem_map_of_mem ha)
  exact ⟨hreadable a.name (List.mem_cons_of_mem _ hmem), hvalues a ha⟩

theorem nested_empty {name : String} {attributes : List Attribute}
    (h : ReadableTag name attributes) :
    Nested [.empty name attributes] [] (circleStem.isPrefixOf name.toList).toNat := by
  refine ⟨balanced_empty name attributes, ?_, ?_⟩
  · intro token htoken
    rw [List.mem_singleton.mp htoken]
    exact h.distinct
  · cases hstem : circleStem.isPrefixOf name.toList <;> simp [Token.begins, hstem]

/-- A tag that is not closed. -/
theorem nested_opening {name : String} {attributes : List Attribute} (h : ReadableTag name attributes)
    (hstem : circleStem.isPrefixOf name.toList = false) : Nested [.opening name attributes] [name] 0 := by
  refine ⟨rfl, ?_, ?_⟩
  · intro token htoken
    rw [List.mem_singleton.mp htoken]
    exact h.distinct
  · simp [Token.begins, hstem]

theorem Nested.element {tokens : List Token} {circles : Nat} (h : Nested tokens [] circles)
    {name : String} {attributes : List Attribute} (htag : ReadableTag name attributes)
    (hstem : circleStem.isPrefixOf name.toList = false) :
    Nested (.opening name attributes :: tokens ++ [.closing name]) [] circles := by
  have hbalanced : Balanced tokens := h.opened
  refine ⟨hbalanced.element name attributes, ?_, ?_⟩
  · intro token htoken
    simp only [List.cons_append, List.mem_cons, List.mem_append, List.not_mem_nil, or_false] at htoken
    rcases htoken with rfl | hinner | rfl
    · exact htag.distinct
    · exact h.distinct token hinner
    · exact List.nodup_nil
  · simp [Token.begins, hstem, h.circles]

/-! ## Fragments -/

/-- **An open fragment:** lines that are read as nested tokens with the given labels, and the elements that
they leave open. -/
def OpenFragment (lines : List String) (opened : List String) (found : List Label) (circles : Nat) : Prop :=
  ∃ tokens, Reads (unlines lines) tokens ∧ Nested tokens opened circles ∧ LabelsOf tokens found

/-- **A fragment** leaves nothing open. -/
def Fragment (lines : List String) (found : List Label) (circles : Nat) : Prop :=
  OpenFragment lines [] found circles

theorem fragment_nil : Fragment [] [] 0 :=
  ⟨[], rfl, nested_nil, labelsOf_nil⟩

theorem OpenFragment.append {first second opened after : List String} {found more : List Label} {n k : Nat}
    (h : OpenFragment first opened found n) (h' : OpenFragment second after more k) :
    OpenFragment (first ++ second) (after ++ opened) (found ++ more) (n + k) := by
  obtain ⟨tokens, hreads, hnested, hlabels⟩ := h
  obtain ⟨tokens', hreads', hnested', hlabels'⟩ := h'
  refine ⟨tokens ++ tokens', ?_, hnested.append hnested', hlabels.append hlabels'⟩
  rw [unlines_append]
  exact hreads.append hreads'

theorem Fragment.append {first second : List String} {found more : List Label} {n k : Nat}
    (h : Fragment first found n) (h' : Fragment second more k) :
    Fragment (first ++ second) (found ++ more) (n + k) :=
  OpenFragment.append h h'

/-- Counting the first item of a list. -/
theorem countP_cons_toNat {α : Type} (p : α → Bool) (item : α) (rest : List α) :
    (item :: rest).countP p = (p item).toNat + rest.countP p := by
  rw [List.countP_cons]
  cases p item with
  | false => simp
  | true => simp [Nat.add_comm]

/-- One fragment behind the other, some of them with a circle and some that leave an element open. -/
theorem OpenFragment.flatMap {α : Type} {items : List α} {lines : α → List String} {name : String}
    {found : α → List Label} {isOpen hasCircle : α → Bool}
    (h : ∀ item ∈ items, OpenFragment (lines item) (List.replicate (isOpen item).toNat name) (found item)
      (hasCircle item).toNat) :
    OpenFragment (items.flatMap lines) (List.replicate (items.countP isOpen) name) (items.flatMap found)
      (items.countP hasCircle) := by
  induction items with
  | nil => exact fragment_nil
  | cons item rest ih =>
    have hitem := h item List.mem_cons_self
    have hrest := ih fun other hother => h other (List.mem_cons_of_mem _ hother)
    rw [List.flatMap_cons, List.flatMap_cons, countP_cons_toNat, countP_cons_toNat, Nat.add_comm,
      ← List.replicate_append_replicate]
    exact hitem.append hrest

/-- Fragments that leave nothing open. -/
theorem Fragment.flatMap {α : Type} {items : List α} {lines : α → List String}
    {found : α → List Label} {hasCircle : α → Bool}
    (h : ∀ item ∈ items, Fragment (lines item) (found item) (hasCircle item).toNat) :
    Fragment (items.flatMap lines) (items.flatMap found) (items.countP hasCircle) := by
  have hclosed : ∀ item ∈ items,
      OpenFragment (lines item) (List.replicate false.toNat "") (found item) (hasCircle item).toNat := h
  have hall := OpenFragment.flatMap hclosed
  rw [List.countP_false] at hall
  exact hall

/-- Fragments without labels and circles. -/
theorem fragment_flatMap_silent {α : Type} {items : List α} {lines : α → List String}
    (h : ∀ item ∈ items, Fragment (lines item) [] 0) : Fragment (items.flatMap lines) [] 0 := by
  induction items with
  | nil => exact fragment_nil
  | cons item rest ih =>
    have hitem := h item (by simp)
    have hrest := ih fun other hother => h other (List.mem_cons_of_mem _ hother)
    exact hitem.append hrest

theorem reads_newline : Reads "\n" [.data '\n'] := reads_plain (by decide)

theorem reads_line {line : String} {tokens : List Token} (h : Reads line tokens) :
    Reads (unlines [line]) (tokens ++ [.data '\n']) := by
  have hline : unlines [line] = line ++ "\n" := by simp [unlines]
  rw [hline]
  exact h.append reads_newline

/-- One line. -/
theorem openFragment_line {line : String} {tokens : List Token} {opened : List String} {found : List Label}
    {circles : Nat} (hreads : Reads line tokens) (hnested : Nested tokens opened circles)
    (hlabels : LabelsOf tokens found) : OpenFragment [line] opened found circles := by
  have hlabels' := hlabels.append (labelsOf_data ['\n'])
  rw [List.append_nil] at hlabels'
  exact ⟨tokens ++ [.data '\n'], reads_line hreads, hnested.append (nested_data ['\n']), hlabels'⟩

theorem fragment_empty {name : String} {attributes : List Attribute}
    (h : ReadableTag name attributes) :
    Fragment [emptyElement name attributes] [] (circleStem.isPrefixOf name.toList).toNat := by
  refine openFragment_line (reads_emptyElement h.named h.readable) (nested_empty h) ?_
  intro rest
  rfl

/-- The tag of an element that is not closed. -/
theorem openFragment_openTag {name : String} {attributes : List Attribute} (h : ReadableTag name attributes)
    (hstem : circleStem.isPrefixOf name.toList = false) (hname : name ≠ "textPath") :
    OpenFragment [openTag name attributes] [name] [] 0 := by
  refine openFragment_line (reads_openTag h.named h.readable) (nested_opening h hstem) fun rest => ?_
  simp [labels, hname]

/-- Lines between the tags of an element, which stand on lines of their own. -/
theorem reads_element {lines : List String} {tokens : List Token} (hreads : Reads (unlines lines) tokens)
    {name : String} {attributes : List Attribute} (htag : ReadableTag name attributes) :
    Reads (unlines (openTag name attributes :: lines ++ [closeTag name]))
      (.opening name attributes :: (.data '\n' :: tokens) ++ [.closing name] ++ [.data '\n']) := by
  have hlines : unlines (openTag name attributes :: lines ++ [closeTag name]) =
      openTag name attributes ++ ("\n" ++ unlines lines) ++ closeTag name ++ "\n" := by
    simp [unlines, String.append_assoc]
  rw [hlines]
  exact (((reads_openTag htag.named htag.readable).append (reads_newline.append hreads)).append
    (reads_closeTag htag.named)).append reads_newline

/-- **An element around a fragment.** -/
theorem Fragment.element {lines : List String} {found : List Label} {circles : Nat}
    (h : Fragment lines found circles) {name : String} {attributes : List Attribute}
    (htag : ReadableTag name attributes) (hstem : circleStem.isPrefixOf name.toList = false)
    (hname : name ≠ "textPath") :
    Fragment (openTag name attributes :: lines ++ [closeTag name]) found circles := by
  obtain ⟨tokens, hreads, hnested, hlabels⟩ := h
  have hinner : Nested (.data '\n' :: tokens) [] circles := by
    simpa using (nested_data ['\n']).append hnested
  have hinnerLabels : LabelsOf (.data '\n' :: tokens) found :=
    (labelsOf_data ['\n']).append hlabels
  have helement := (hinner.element htag hstem).append (nested_data ['\n'])
  have helementLabels := (hinnerLabels.element hname attributes).append (labelsOf_data ['\n'])
  rw [List.append_nil] at helementLabels
  exact ⟨_, reads_element hreads htag, helement, helementLabels⟩

/-! ## Labels along paths -/

/-- **The text that the content of a label shows:** its character data, tags left out. -/
def Content.Shows (content : Content) (text : String) : Prop :=
  ∃ tokens, Reads content.inner tokens ∧ Nested tokens [] 0 ∧ TextOf tokens text

/-- A plain content shows itself, whatever it is. -/
theorem shows_plain (text : String) : (Content.plain text).Shows text :=
  ⟨text.toList.map .data, reads_escape text, nested_data text.toList, textOf_data text⟩

theorem blank_attributesText {attributes : List Attribute} (hne : attributes ≠ []) :
    " " ++ attributesText attributes = spacedAttributes attributes := by
  induction attributes with
  | nil => exact absurd rfl hne
  | cons a rest ih =>
    cases rest with
    | nil => simp [attributesText, spacedAttributes]
    | cons b rest =>
      have hjoined : attributesText (a :: b :: rest) =
          a.text ++ (" " ++ attributesText (b :: rest)) := by
        simp [attributesText, String.intercalate_cons_of_ne_nil, String.append_assoc]
      have hspaced : spacedAttributes (a :: b :: rest) =
          " " ++ a.text ++ spacedAttributes (b :: rest) := by
        simp [spacedAttributes]
      rw [hjoined, ih (by simp), hspaced, String.append_assoc]

/-- The tag around a label is an ordinary one. -/
theorem textTag_eq {attributes : List Attribute} (hne : attributes ≠ []) :
    "<text " ++ attributesText attributes ++ ">" = openTag "text" attributes := by
  calc "<text " ++ attributesText attributes ++ ">"
      = "<text" ++ (" " ++ attributesText attributes) ++ ">" := by
        rw [← String.append_assoc]
        rfl
    _ = openTag "text" attributes := by
        rw [blank_attributesText hne]
        rfl

/-- **The tokens of a label:** its two elements around those of its content. -/
theorem reads_pathLabel {pathId offset : String} {content : Content} {attributes : List Attribute}
    {tokens : List Token} (hreads : Reads content.inner tokens) (htag : ReadableTag "text" attributes)
    (hne : attributes ≠ [])
    (hpath : ReadableTag "textPath" [⟨"href", "#" ++ pathId⟩, ⟨"startOffset", offset⟩]) :
    Reads (pathLabel pathId content offset (attributesText attributes))
      (.opening "text" attributes :: .opening "textPath" [⟨"href", "#" ++ pathId⟩, ⟨"startOffset", offset⟩] ::
        (tokens ++ [.closing "textPath", .closing "text"])) := by
  have hopen := (reads_openTag htag.named htag.readable).append
    (reads_openTag hpath.named hpath.readable)
  have hclose := (reads_closeTag hpath.named).append (reads_closeTag htag.named)
  have hline := (hopen.append hreads).append hclose
  rw [pathLabel, textTag_eq hne]
  simpa [String.append_assoc] using hline

/-- The tag that refers to the path of a label. -/
theorem readableTag_textPath {pathId offset : String} (hid : Avoids pathId unquotable)
    (hoffset : Avoids offset unquotable) :
    ReadableTag "textPath" [⟨"href", "#" ++ pathId⟩, ⟨"startOffset", offset⟩] := by
  refine readableTag_of_values ["href", "startOffset"] (.refl _) (by decide) ?_
  simp only [List.forall_mem_cons]
  exact ⟨Avoids.append (by decide) hid, hoffset, by simp⟩

/-- **A label is a fragment** that holds its text under the reference to its path. -/
theorem fragment_pathLabel {pathId offset text : String} {content : Content}
    {attributes : List Attribute} (hcontent : content.Shows text)
    (htag : ReadableTag "text" attributes) (hne : attributes ≠ []) (hid : Avoids pathId unquotable)
    (hoffset : Avoids offset unquotable) :
    Fragment [pathLabel pathId content offset (attributesText attributes)]
      [⟨"#" ++ pathId, text⟩] 0 := by
  obtain ⟨tokens, hreads, hnested, htext⟩ := hcontent
  have hpath := readableTag_textPath hid hoffset
  -- The content stands in two elements, and the inner one is what makes it a label.
  have hinner := hnested.element hpath (by decide)
  have hlabels : LabelsOf _ [⟨"#" ++ pathId, text⟩] :=
    htext.labelsOf [⟨"href", "#" ++ pathId⟩, ⟨"startOffset", offset⟩]
  refine openFragment_line ?_ (hinner.element htag (by decide))
    (hlabels.element (by decide) attributes)
  simpa using reads_pathLabel hreads htag hne hpath

end Concentric.Markup
