import Concentric.Proofs.Fragments
import Concentric.Proofs.Markup.Reading

/-!
# Searching for a marker

A connector defines its marker if a search for the beginning of the definition fails, and the search runs over
the text of all definitions. `Marker.defined_iff` says that it finds what it looks for and nothing else: each
line is a single tag (`Searchable`), so a match can only begin where a line begins, and a quote ends the
identifier.
-/

namespace Concentric

open Markup Markup.Scanner Text

/-! ## The search -/

namespace Marker

/-- Whether a line begins the definition of a marker: `<marker id="…" `. -/
def isDefinition (name line : String) : Bool := (opening name ++ " ").toList.isPrefixOf line.toList

/-- **How many lines begin the definition** of a marker. -/
def definitions (name : String) (defs : List String) : Nat := defs.countP (isDefinition name)

theorem toList_opening (name : String) :
    (opening name).toList = '<' :: ("marker".toList ++ ' ' :: ("id=\"".toList ++ (name.toList ++ ['"']))) := by
  simp [opening]

theorem isDefinition_iff {name line : String} :
    isDefinition name line = true ↔
      '<' :: ("marker".toList ++ ' ' :: ("id=\"".toList ++ (name.toList ++ ['"', ' ']))) <+:
        line.toList := by
  have htext : (opening name ++ " ").toList =
      '<' :: ("marker".toList ++ ' ' :: ("id=\"".toList ++ (name.toList ++ ['"', ' ']))) := by
    simp [opening]
  rw [isDefinition, List.isPrefixOf_iff_prefix, htext]

/-- **A line that no search misreads:** it is a single tag, and whether it begins the definition of a marker
is seen on the line, whatever follows. -/
structure Searchable (line : String) : Prop where
  single : ∃ rest, line.toList = '<' :: rest ∧ '<' ∉ rest
  decided : ∀ name following, '"' ∉ name.toList →
    ((opening name).toList <+: line.toList ++ following ↔ isDefinition name line = true)

/-- The search decides on a line and passes over the rest of it. -/
theorem Searchable.occursIn_append {line name : String} (h : Searchable line) (hname : '"' ∉ name.toList)
    (following : List Char) :
    occursIn (opening name).toList (line.toList ++ following) =
      (isDefinition name line || occursIn (opening name).toList following) := by
  -- The pattern begins with an angle bracket, and the line has no second one.
  obtain ⟨rest, hline, hrest⟩ := h.single
  have hhere : (opening name).toList.isPrefixOf (line.toList ++ following) = isDefinition name line := by
    rw [Bool.eq_iff_iff, List.isPrefixOf_iff_prefix]
    exact h.decided name following hname
  have hlater : occursIn (opening name).toList (rest ++ following) =
      occursIn (opening name).toList following := by
    rw [toList_opening]
    exact occursIn_append_of_not_mem hrest _ _
  rw [hline, List.cons_append] at hhere ⊢
  rw [occursIn, hhere, hlater]

/-- A line feed does not help a marker. -/
theorem occursIn_newline (name : String) (following : List Char) :
    occursIn (opening name).toList ('\n' :: following) = occursIn (opening name).toList following := by
  rw [toList_opening]
  exact occursIn_append_of_not_mem (by decide : '<' ∉ ['\n']) _ following

theorem defined_cons {line name : String} (h : Searchable line) (hname : '"' ∉ name.toList)
    (rest : List String) : defined name (line :: rest) = (isDefinition name line || defined name rest) := by
  unfold defined
  cases rest with
  | nil =>
    have hline := h.occursIn_append hname []
    rw [List.append_nil] at hline
    simpa using hline
  | cons next rest =>
    rw [String.intercalate_cons_of_ne_nil (by simp), String.toList_append, String.toList_append,
      List.append_assoc, h.occursIn_append hname]
    congr 1
    exact occursIn_newline name _

/-- **The search finds the definitions of the marker and nothing else.** -/
theorem defined_iff {name : String} (hname : '"' ∉ name.toList) {defs : List String}
    (h : ∀ line ∈ defs, Searchable line) : defined name defs = true ↔ 0 < definitions name defs := by
  induction defs with
  | nil => simp [defined, definitions, opening, occursIn]
  | cons line rest ih =>
    have hrest := ih fun other hother => h other (List.mem_cons_of_mem _ hother)
    rw [defined_cons (h line (by simp)) hname, Bool.or_eq_true, hrest, definitions, definitions,
      List.countP_cons]
    by_cases hline : isDefinition name line = true
    · simp [hline]
    · simp [hline]

/-! ## Single tags -/

/-- **Attributes that open no tag.** -/
def Untagged (attributes : List Attribute) : Prop :=
  ∀ a ∈ attributes, '<' ∉ a.name.toList ∧ '<' ∉ a.value.toList

theorem Untagged.not_mem {attributes : List Attribute} (h : Untagged attributes) :
    '<' ∉ (spacedAttributes attributes).toList := by
  simpa [spacedAttributes, Attribute.text, Untagged] using h

theorem not_mem_of_isName {name : List Char} (h : isName name = true) : '<' ∉ name :=
  fun hmem => absurd (isNameChar_of_mem h '<' hmem) (by decide)

theorem single_openTag {name : String} (hname : isName name.toList = true) {attributes : List Attribute}
    (h : Untagged attributes) :
    ∃ rest, (openTag name attributes).toList = '<' :: rest ∧ '<' ∉ rest :=
  ⟨name.toList ++ (spacedAttributes attributes).toList ++ ['>'], by simp [openTag], by
    simp [not_mem_of_isName hname, h.not_mem]⟩

theorem single_emptyElement {name : String} (hname : isName name.toList = true)
    {attributes : List Attribute} (h : Untagged attributes) :
    ∃ rest, (emptyElement name attributes).toList = '<' :: rest ∧ '<' ∉ rest :=
  ⟨name.toList ++ (spacedAttributes attributes).toList ++ "/>".toList, by simp [emptyElement], by
    simp [not_mem_of_isName hname, h.not_mem]⟩

/-- **A line without the definition of a marker** that no search misreads. -/
structure Unmarked (line : String) : Prop extends Searchable line where
  silent : ∀ name, isDefinition name line = false

/-- A line that never begins like a marker. -/
theorem unmarked_of_not_begins {line : String} (hsingle : ∃ rest, line.toList = '<' :: rest ∧ '<' ∉ rest)
    (h : ∀ beginning following, ¬ '<' :: ("marker".toList ++ ' ' :: beginning) <+: line.toList ++ following) :
    Unmarked line := by
  have hsilent (name : String) : isDefinition name line = false := by
    rw [Bool.eq_false_iff, ne_eq, isDefinition_iff]
    have hprefix := h ("id=\"".toList ++ (name.toList ++ ['"', ' '])) []
    rwa [List.append_nil] at hprefix
  refine ⟨⟨hsingle, ?_⟩, hsilent⟩
  intro name following hname
  rw [toList_opening, hsilent]
  exact iff_of_false (h _ following) Bool.false_ne_true

theorem unmarked_openTag {name : String} (hname : isName name.toList = true) (hne : "marker" ≠ name)
    {attributes : List Attribute} (h : Untagged attributes) : Unmarked (openTag name attributes) :=
  unmarked_of_not_begins (single_openTag hname h) fun _ _ =>
    (beginsWith_openTag hname attributes).not_begins (by decide) hne _ _

theorem unmarked_emptyElement {name : String} (hname : isName name.toList = true)
    (hne : "marker" ≠ name) {attributes : List Attribute} (h : Untagged attributes) :
    Unmarked (emptyElement name attributes) :=
  unmarked_of_not_begins (single_emptyElement hname h) fun _ _ =>
    (beginsWith_emptyElement hname attributes).not_begins (by decide) hne _ _

theorem unmarked_closeTag {name : String} (hname : isName name.toList = true) :
    Unmarked (closeTag name) :=
  unmarked_of_not_begins
    ⟨'/' :: (name.toList ++ ['>']), by simp [closeTag], by simp [not_mem_of_isName hname]⟩
    fun _ _ => closeTag_not_begins (by decide) name _ _

theorem definitions_eq_zero {lines : List String} (h : ∀ line ∈ lines, Unmarked line) (name : String) :
    definitions name lines = 0 := by
  rw [definitions, List.countP_eq_zero]
  intro line hline
  rw [(h line hline).silent]
  exact Bool.false_ne_true

end Marker

end Concentric
