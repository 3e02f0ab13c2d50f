import Concentric.Proofs.Markup.Reading

/-!
# Reading the values of an element

The values of the first attributes of an element are read off its line one after the other, each up to its closing
quote. What stands behind them is not looked at, so that they can be read whatever the later attributes hold
(`values?_emptyElement`).
-/

namespace Concentric.Markup

open Scanner Text

/-- The values of attributes in their order, behind the name of a tag. -/
def valuesAt? : List String → List Char → Option (List String)
  | [], _ => some []
  | name :: names, text =>
    (behind? (' ' :: (name.toList ++ "=\"".toList)) text).bind fun rest =>
      (valuesAt? names ((rest.dropWhile (· ≠ '"')).drop 1)).map (upTo '"' rest :: ·)

/-- **The values of the first attributes** on a line that begins with a tag. -/
def values? (tag : String) (names : List String) (line : String) : Option (List String) :=
  (behind? ('<' :: tag.toList) line.toList).bind (valuesAt? names)

theorem valuesAt?_spacedAttributes {attributes : List Attribute} (h : ∀ a ∈ attributes, '"' ∉ a.value.toList)
    (rest : List Char) :
    valuesAt? (attributes.map Attribute.name) ((spacedAttributes attributes).toList ++ rest) =
      some (attributes.map Attribute.value) := by
  induction attributes with
  | nil => rfl
  | cons a attributes ih =>
    obtain ⟨hvalue, hrest⟩ := List.forall_mem_cons.mp h
    have htext : (spacedAttributes (a :: attributes)).toList ++ rest =
        ' ' :: (a.name.toList ++ "=\"".toList) ++
          (a.value.toList ++ '"' :: ((spacedAttributes attributes).toList ++ rest)) := by
      simp [spacedAttributes, Attribute.text]
    rw [List.map_cons, valuesAt?, htext, behind?_append, Option.bind_some, dropWhile_append_stop hvalue,
      List.drop_one, List.tail_cons, ih hrest, Option.map_some, upTo_append hvalue, List.map_cons]

/-- **The first attributes of an empty element are read back.** -/
theorem values?_emptyElement (tag : String) {attributes : List Attribute}
    (h : ∀ a ∈ attributes, '"' ∉ a.value.toList) (others : List Attribute) :
    values? tag (attributes.map Attribute.name) (emptyElement tag (attributes ++ others)) =
      some (attributes.map Attribute.value) := by
  have hline : (emptyElement tag (attributes ++ others)).toList = '<' :: tag.toList ++
      ((spacedAttributes attributes).toList ++ ((spacedAttributes others).toList ++ "/>".toList)) := by
    simp [emptyElement, spacedAttributes]
  rw [values?, hline, behind?_append, Option.bind_some, valuesAt?_spacedAttributes h]

theorem eq_append_of_behind? {pattern text rest : List Char} (h : behind? pattern text = some rest) :
    text = pattern ++ rest := by
  unfold behind? at h
  split at h
  · next hprefix =>
    obtain ⟨tail, rfl⟩ := List.isPrefixOf_iff_prefix.mp hprefix
    rw [← Option.some.inj h, List.drop_left]
  · exact nomatch h

/-- A line with values begins with the tag and a blank. -/
theorem begins_of_values? {tag name line : String} {names found : List String}
    (h : values? tag (name :: names) line = some found) : '<' :: (tag.toList ++ ' ' :: []) <+: line.toList ++ [] := by
  obtain ⟨behind, hbehind, hvalues⟩ := Option.bind_eq_some_iff.mp h
  obtain ⟨rest, hrest, -⟩ := Option.bind_eq_some_iff.mp hvalues
  rw [eq_append_of_behind? hbehind, eq_append_of_behind? hrest]
  exact ⟨name.toList ++ "=\"".toList ++ rest, by simp⟩

theorem BeginsWith.values?_eq_none {line name tag : String} (h : BeginsWith line name)
    (htag : isName tag.toList = true) (hne : tag ≠ name) (first : String) (names : List String) :
    values? tag (first :: names) line = none := by
  rw [Option.eq_none_iff_forall_ne_some]
  intro found hfound
  exact h.not_begins htag hne [] [] (begins_of_values? hfound)

theorem values?_closeTag {tag : String} (htag : isName tag.toList = true) (name first : String)
    (names : List String) : values? tag (first :: names) (closeTag name) = none := by
  rw [Option.eq_none_iff_forall_ne_some]
  intro found hfound
  exact closeTag_not_begins htag name [] [] (begins_of_values? hfound)

example : values? "path" ["id", "d"] "<path id=\"a\" d=\"M 0 0\" class=\"\"\"/>" = some ["a", "M 0 0"] := by
  decide +kernel

end Concentric.Markup
