import Concentric.Proofs.Markup.Reading
import Concentric.Proofs.Run

/-!
# Identifiers of builders

Rings and connectors introduce identifiers in both lists of lines and refer to them from the body. A ring
names itself after its index and a connector after a number; the parts of both have suffixes of their own.
`eq_of_name_eq` says that a name tells its owner and its part, and there is one equation for each builder
with the identifiers that stand on its lines.
-/

namespace Concentric

open Markup Markup.Scanner Text

/-! ## Names -/

/-- **Who introduces identifiers.** -/
inductive Owner where
  | layer (index : Number)
  | connector (number : Nat)

/-- The identifier of the owner itself. -/
def Owner.text : Owner → String
  | .layer index => Ring.id index.plainText
  | .connector number => Connector.id number

/-- **What an identifier stands for.** -/
inductive Role where
  | group
  | upper
  | lower
  | region
  | label
deriving DecidableEq

/-- What follows the owner in an identifier. -/
def Role.suffix : Role → String
  | .group => ""
  | .upper => "-upper"
  | .lower => "-lower"
  | .region => "-clip"
  | .label => "-text"

/-- **The identifier of a part** of what the owner draws. -/
def Owner.name (owner : Owner) (role : Role) : String := owner.text ++ role.suffix

/-- The owner names its group after itself. -/
theorem Owner.name_group (owner : Owner) : owner.name .group = owner.text := String.append_empty

/-- No number reaches into what follows it. -/
theorem eq_of_append_suffix {s t : List Char} (hs : Numeric s) (ht : Numeric t) {role role' : Role}
    (h : s ++ role.suffix.toList = t ++ role'.suffix.toList) : s = t ∧ role = role' := by
  -- Behind its hyphen a suffix begins with a letter that no number has, so the word is left.
  have hdrop := congrArg (List.dropWhile isNumberChar) h
  rw [List.dropWhile_append_of_pos hs, List.dropWhile_append_of_pos ht] at hdrop
  have hrole : role = role' := by
    cases role <;> cases role' <;> first | rfl | exact absurd hdrop (by decide)
  subst hrole
  exact ⟨List.append_cancel_right h, rfl⟩

/-- **Different owners or roles make different identifiers.** -/
theorem eq_of_name_eq {owner owner' : Owner} {role role' : Role}
    (h : owner.name role = owner'.name role') : owner.text = owner'.text ∧ role = role' := by
  have hchars := congrArg String.toList h
  cases owner with
  | layer index =>
    cases owner' with
    | layer index' =>
      simp only [Owner.name, Owner.text, Ring.id, String.toList_append, List.append_assoc] at hchars
      obtain ⟨hindex, hrole⟩ := eq_of_append_suffix (numeric_plainText index) (numeric_plainText index')
        (List.append_cancel_left hchars)
      exact ⟨by rw [Owner.text, Owner.text, Ring.id, Ring.id, String.toList_injective hindex], hrole⟩
    | connector number =>
      simp [Owner.name, Owner.text, Ring.id, Connector.id] at hchars
  | connector number =>
    cases owner' with
    | layer index => simp [Owner.name, Owner.text, Ring.id, Connector.id] at hchars
    | connector number' =>
      simp only [Owner.name, Owner.text, Connector.id, String.toList_append, List.append_assoc] at hchars
      obtain ⟨hnumber, hrole⟩ := eq_of_append_suffix (numeric_plainText _) (numeric_plainText _)
        (List.append_cancel_left hchars)
      exact ⟨by rw [Owner.text, Owner.text, Connector.id, Connector.id,
        String.toList_injective hnumber], hrole⟩

/-- The number of a connector. -/
def Owner.number? : Owner → Option Nat
  | .layer _ => none
  | .connector number => some number

/-- **The number in an identifier** that begins like those of connectors. -/
def numberOf? (id : String) : Option Nat :=
  (behind? "connector-".toList id.toList).map fun rest =>
    Nat.ofDigitChars 10 (rest.takeWhile Char.isDigit) 0

/-- The number of a connector stands in all its identifiers. -/
theorem numberOf?_name (owner : Owner) (role : Role) : numberOf? (owner.name role) = owner.number? := by
  cases owner with
  | layer index =>
    have hother : ¬ "connector-".toList <+: ((Owner.layer index).name role).toList := by
      simp [Owner.name, Owner.text, Ring.id]
    rw [numberOf?, behind?_eq_none hother, Option.map_none, Owner.number?]
  | connector number =>
    have htext : ((Owner.connector number).name role).toList =
        "connector-".toList ++ (Nat.toDigits 10 number ++ role.suffix.toList) := by
      simp [Owner.name, Owner.text, Connector.id, Number.plainText, Number.integerChars, Decimal.signChars,
        Decimal.digitChars, Int.not_ofNat_neg]
    have hdigits : ∀ c ∈ Nat.toDigits 10 number, c.isDigit = true :=
      fun c hc => Nat.isDigit_of_mem_toDigits (by decide) (by decide) hc
    have hsuffix : role.suffix.toList.takeWhile Char.isDigit = [] := by cases role <;> decide
    rw [numberOf?, htext, behind?_append, Option.map_some, List.takeWhile_append_of_pos hdigits, hsuffix,
      List.append_nil, Nat.ofDigitChars_toDigits (by decide) (by decide), Owner.number?]

/-- Nothing in an identifier ends the place where it stands. -/
theorem avoids_owner (owner : Owner) : Avoids owner.text ['"', '<', ')'] := by
  cases owner with
  | layer index => exact Avoids.append (by decide) ((numeric_plainText index).avoids (by decide))
  | connector number => exact Avoids.append (by decide) ((numeric_plainText _).avoids (by decide))

theorem avoids_name (owner : Owner) (role : Role) : Avoids (owner.name role) ['"', '<', ')'] :=
  (avoids_owner owner).append (by cases role <;> decide)

/-! ## Identifiers of lines -/

/-- **What lines define and refer to:** the groups of a body, the paths and the clip regions of
definitions, and the paths and regions that the body refers to. -/
structure Identifiers where
  groups : List String
  paths : List String
  regions : List String
  followed : List String
  clips : List String
deriving DecidableEq

namespace Identifiers

/-- No identifiers. -/
def none : Identifiers := ⟨[], [], [], [], []⟩

/-- First the ones, then the others. -/
def append (first second : Identifiers) : Identifiers where
  groups := first.groups ++ second.groups
  paths := first.paths ++ second.paths
  regions := first.regions ++ second.regions
  followed := first.followed ++ second.followed
  clips := first.clips ++ second.clips

/-- **All identifiers that are introduced.** -/
def introduced (found : Identifiers) : List String := found.groups ++ found.paths ++ found.regions

end Identifiers

/-- **The identifiers on lines** of definitions and of a body. -/
def identifiers (defs body : List String) : Identifiers where
  groups := body.filterMap (idOf? "g")
  paths := defs.filterMap (idOf? "path")
  regions := defs.filterMap (idOf? "clipPath")
  followed := body.filterMap pathOf?
  clips := body.filterMap clipOf?

theorem identifiers_append (defs defs' body body' : List String) :
    identifiers (defs ++ defs') (body ++ body') =
      (identifiers defs body).append (identifiers defs' body') := by
  simp only [identifiers, Identifiers.append, List.filterMap_append]

/-- The two lists of lines are read apart. -/
theorem identifiers_split (defs body : List String) :
    identifiers defs body = (identifiers defs []).append (identifiers [] body) := by
  rw [← identifiers_append, List.append_nil, List.nil_append]

theorem identifiers_body_append (body body' : List String) :
    identifiers [] (body ++ body') = (identifiers [] body).append (identifiers [] body') :=
  identifiers_append [] [] body body'

theorem identifiers_defs_append (defs defs' : List String) :
    identifiers (defs ++ defs') [] = (identifiers defs []).append (identifiers defs' []) :=
  identifiers_append defs defs' [] []

/-- A painted line that is neither a group nor a label. -/
theorem identifiers_body_eq_none {line : String} (hgroup : inside? "g" "id=\"" line = none)
    (hlabel : inside? "text" "" line = none) : identifiers [] [line] = .none := by
  have hid : idOf? "g" line = none := by rw [idOf?, hgroup, Option.map_none]
  have hclip : clipOf? line = none := by rw [clipOf?, hgroup, Option.bind_none]
  have hpath : pathOf? line = none := by rw [pathOf?, hlabel, Option.bind_none]
  simp only [identifiers, Identifiers.none, List.filterMap_cons, List.filterMap_nil, hid, hclip, hpath]

/-- A line of definitions that is neither a path nor a clip region. -/
theorem identifiers_defs_eq_none {line : String} (hpath : inside? "path" "id=\"" line = none)
    (hregion : inside? "clipPath" "id=\"" line = none) : identifiers [line] [] = .none := by
  have hid : idOf? "path" line = none := by rw [idOf?, hpath, Option.map_none]
  have hid' : idOf? "clipPath" line = none := by rw [idOf?, hregion, Option.map_none]
  simp only [identifiers, Identifiers.none, List.filterMap_cons, List.filterMap_nil, hid, hid']

theorem identifiers_body_of_ne {line name : String} (h : BeginsWith line name) (hgroup : "g" ≠ name)
    (hlabel : "text" ≠ name) : identifiers [] [line] = .none :=
  identifiers_body_eq_none (h.inside?_eq_none (by decide) hgroup _)
    (h.inside?_eq_none (by decide) hlabel _)

theorem identifiers_defs_of_ne {line name : String} (h : BeginsWith line name) (hpath : "path" ≠ name)
    (hregion : "clipPath" ≠ name) : identifiers [line] [] = .none :=
  identifiers_defs_eq_none (h.inside?_eq_none (by decide) hpath _)
    (h.inside?_eq_none (by decide) hregion _)

theorem identifiers_body_closeTag (name : String) : identifiers [] [closeTag name] = .none :=
  identifiers_body_eq_none (inside?_closeTag (by decide) _ _) (inside?_closeTag (by decide) _ _)

theorem identifiers_defs_closeTag (name : String) : identifiers [closeTag name] [] = .none :=
  identifiers_defs_eq_none (inside?_closeTag (by decide) _ _) (inside?_closeTag (by decide) _ _)

/-- A label introduces nothing. -/
theorem identifiers_pathLabel (pathId : String) (content : Content) (offset attributes : String) :
    identifiers [] [pathLabel pathId content offset attributes] =
      ⟨[], [], [], (pathOf? (pathLabel pathId content offset attributes)).toList, []⟩ := by
  have hgroup := (beginsWith_pathLabel pathId content offset attributes).inside?_eq_none
    (by decide : isName "g".toList = true) (by decide) "id=\""
  have hid : idOf? "g" (pathLabel pathId content offset attributes) = none := by
    rw [idOf?, hgroup, Option.map_none]
  have hclip : clipOf? (pathLabel pathId content offset attributes) = none := by
    rw [clipOf?, hgroup, Option.bind_none]
  cases hpath : pathOf? (pathLabel pathId content offset attributes) <;>
    simp only [identifiers, List.filterMap_cons, List.filterMap_nil, hid, hclip, hpath,
      Option.toList_none, Option.toList_some]

/-- The definition of a path. -/
theorem identifiers_path {id : String} (h : '"' ∉ id.toList) (path : String) :
    identifiers [emptyElement "path" [⟨"id", id⟩, ⟨"d", path⟩]] [] = ⟨[], [id], [], [], []⟩ := by
  have hid := idOf?_emptyElement h "path" [⟨"d", path⟩]
  have hregion : inside? "clipPath" "id=\"" (emptyElement "path" [⟨"id", id⟩, ⟨"d", path⟩]) = none :=
    (beginsWith_emptyElement (by decide) _).inside?_eq_none (by decide) (by decide) _
  have hid' : idOf? "clipPath" (emptyElement "path" [⟨"id", id⟩, ⟨"d", path⟩]) = none := by
    rw [idOf?, hregion, Option.map_none]
  simp only [identifiers, List.filterMap_cons, List.filterMap_nil, hid, hid']

/-- A group, clipped or not. -/
theorem identifiers_group {id : String} (hid : '"' ∉ id.toList) (region : String)
    (hregion : ')' ∉ region.toList) (clipped : Bool) :
    identifiers []
        [openTag "g" (⟨"id", id⟩ :: if clipped then [⟨"clip-path", reference region⟩] else [])] =
      ⟨[id], [], [], [], if clipped then [region] else []⟩ := by
  have hlabel (rest : List Attribute) : pathOf? (openTag "g" (⟨"id", id⟩ :: rest)) = none := by
    have hbegins := beginsWith_openTag (by decide : isName "g".toList = true) (⟨"id", id⟩ :: rest)
    rw [pathOf?, hbegins.inside?_eq_none (by decide) (by decide), Option.bind_none]
  cases clipped with
  | false =>
    have hopen := idOf?_openTag hid "g" []
    have hclip := clipOf?_of_single hid
    simp only [identifiers, Bool.false_eq_true, if_false, List.filterMap_cons, List.filterMap_nil,
      hopen, hclip, hlabel]
  | true =>
    have hopen := idOf?_openTag hid "g" [⟨"clip-path", reference region⟩]
    have hclip := clipOf?_openTag hid hregion
    simp only [identifiers, if_true, List.filterMap_cons, List.filterMap_nil, hopen, hclip, hlabel]

/-! ## Labels and their paths -/

/-- Escaped text holds no opening angle bracket. -/
theorem not_mem_escape (text : String) : '<' ∉ (escape text).toList := by
  rw [toList_escape, List.mem_flatMap]
  rintro ⟨c, -, hc⟩
  unfold escapeChar at hc
  split at hc
  · exact absurd hc (by decide)
  · exact absurd hc (by decide)
  · exact absurd hc (by decide)
  · next hlt _ => exact hlt (List.mem_singleton.mp hc).symm

/-- No path begins in a plain content, whatever it is. -/
theorem behindLast?_plain (text : String) :
    behindLast? ('<' :: hrefStem) ((Content.plain text).inner.toList ++ "</textPath></text>".toList) =
      none := by
  have hinner : (Content.plain text).inner = escape text := rfl
  rw [hinner, behindLast?_append_of_not_mem (not_mem_escape text)]
  decide

/-- No path begins in a raised label. -/
theorem behindLast?_raised (text : String) :
    behindLast? ('<' :: hrefStem)
      ((Content.markup [Connector.raisedLabel text]).inner.toList ++ "</textPath></text>".toList) =
        none := by
  have hrise : Style.arrowTextRise.plainText = "-10" := by decide
  have hinner : (Content.markup [Connector.raisedLabel text]).inner.toList ++
      "</textPath></text>".toList =
      '<' :: (("tspan".toList ++ ' ' :: "dy=\"-10\">".toList ++ (escape text).toList) ++
        "</tspan></textPath></text>".toList) := by
    simp [Content.inner, Connector.raisedLabel, openTag, closeTag, spacedAttributes, Attribute.text, hrise]
  have hsilent : '<' ∉ "tspan".toList ++ ' ' :: "dy=\"-10\">".toList ++ (escape text).toList := by
    rw [List.mem_append, not_or]
    exact ⟨by decide, not_mem_escape text⟩
  -- The raised label is a tag of its own, but not the one with the path.
  have hfirst : behind? ('<' :: hrefStem)
      ('<' :: (("tspan".toList ++ ' ' :: "dy=\"-10\">".toList ++ (escape text).toList) ++
        "</tspan></textPath></text>".toList)) = none := by
    apply behind?_eq_none
    rw [List.cons_prefix_cons]
    rintro ⟨-, hprefix⟩
    rw [List.append_assoc, List.append_assoc, List.cons_append] at hprefix
    exact not_prefix_of_name_ne (by decide : isName "textPath".toList = true)
      (by decide : isName "tspan".toList = true) (by decide) (by decide) _ _ hprefix
  rw [hinner, behindLast?, behindLast?_append_of_not_mem hsilent, hfirst, Option.or_none]
  decide

/-- A label that a builder sets along one of its own paths. -/
theorem identifiers_label (owner : Owner) (role : Role) {offset : String}
    (hoffset : '<' ∉ offset.toList) {content : Content}
    (hcontent : behindLast? ('<' :: hrefStem)
      (content.inner.toList ++ "</textPath></text>".toList) = none) (attributes : String) :
    identifiers [] [pathLabel (owner.name role) content offset attributes] =
      ⟨[], [], [], [owner.name role], []⟩ := by
  have hpath := pathOf?_pathLabel attributes ((avoids_name owner role).mono (by simp)) hoffset hcontent
  rw [identifiers_pathLabel, hpath, Option.toList_some]

/-! ## Builders -/

theorem identifiers_defs_silent {lines : List String}
    (h : ∀ line ∈ lines, identifiers [line] [] = .none) : identifiers lines [] = .none := by
  induction lines with
  | nil => rfl
  | cons line rest ih =>
    have hline := h line (by simp)
    have hrest := ih fun other hother => h other (List.mem_cons_of_mem _ hother)
    rw [← List.singleton_append, identifiers_defs_append, hline, hrest]
    rfl

theorem identifiers_headLines (id color : String) :
    identifiers (Marker.headLines id color) [] = .none := by
  apply identifiers_defs_silent
  simp only [Marker.headLines, List.forall_mem_cons]
  refine ⟨?_, ?_, ?_, by simp⟩
  · exact identifiers_defs_of_ne (beginsWith_openTag (by decide) _) (by decide) (by decide)
  · exact identifiers_defs_of_ne (beginsWith_emptyElement (by decide) _) (by decide) (by decide)
  · exact identifiers_defs_closeTag "marker"

theorem identifiers_patternLines (id color : String) :
    identifiers (Marker.patternLines id color) [] = .none := by
  apply identifiers_defs_silent
  simp only [Marker.patternLines, List.forall_mem_cons]
  refine ⟨?_, ?_, ?_, ?_, ?_, ?_, by simp⟩
  · exact identifiers_defs_of_ne (beginsWith_openTag (by decide) _) (by decide) (by decide)
  · exact identifiers_defs_of_ne (beginsWith_openTag (by decide) _) (by decide) (by decide)
  · exact identifiers_defs_of_ne (beginsWith_emptyElement (by decide) _) (by decide) (by decide)
  · exact identifiers_defs_of_ne (beginsWith_emptyElement (by decide) _) (by decide) (by decide)
  · exact identifiers_defs_closeTag "g"
  · exact identifiers_defs_closeTag "pattern"

namespace Ring

theorem identifiers_pathElement (owner : Owner) (role : Role) (path : String) :
    identifiers [pathElement (owner.name role) path] [] =
      ⟨[], [owner.name role], [], [], []⟩ :=
  identifiers_path ((avoids_name owner role).not_mem (by simp)) path

theorem identifiers_componentLabels (layer : Layer) :
    identifiers [] (componentLabels layer.index.plainText layer.components) =
      ⟨[], [], [], layer.components.map fun _ => lowerId layer.index.plainText, []⟩ := by
  have hone (component : String) (center : Binary64) :
      identifiers [] [componentLabel layer.index.plainText component center] =
        ⟨[], [], [], [lowerId layer.index.plainText], []⟩ := by
    refine identifiers_label (.layer layer.index) .lower ?_ (behindLast?_plain component) _
    have hnumber : '<' ∉ center.generalChars := by
      intro hmem
      exact absurd (numeric_generalChars center '<' hmem) (by decide)
    simp [hnumber]
  have hall (labelled : List (String × Binary64)) :
      identifiers [] (labelled.map fun pair => componentLabel layer.index.plainText pair.1 pair.2) =
        ⟨[], [], [], labelled.map fun _ => lowerId layer.index.plainText, []⟩ := by
    induction labelled with
    | nil => rfl
    | cons pair rest ih =>
      rw [List.map_cons, ← List.singleton_append, identifiers_body_append, hone, ih]
      rfl
  rw [componentLabels, hall, map_labelled layer.components fun _ => lowerId layer.index.plainText]

theorem identifiers_definitions (layer : Layer) (center : Point Binary64) (middle : Binary64) :
    identifiers (definitions layer center middle) [] =
      ⟨[], upperId layer.index.plainText ::
          if layer.components.isEmpty then [] else [lowerId layer.index.plainText], [], [], []⟩ := by
  have hupper : identifiers [upperPath layer center middle] [] =
      ⟨[], [upperId layer.index.plainText], [], [], []⟩ :=
    identifiers_pathElement (.layer layer.index) .upper _
  have hlower : identifiers [lowerPath layer center middle] [] =
      ⟨[], [lowerId layer.index.plainText], [], [], []⟩ :=
    identifiers_pathElement (.layer layer.index) .lower _
  unfold definitions
  split
  · exact hupper
  · rw [← List.singleton_append, identifiers_defs_append, hupper, hlower]
    rfl

theorem identifiers_groupTag (index : Number) :
    identifiers [] [groupTag index] = ⟨[id index.plainText], [], [], [], []⟩ :=
  identifiers_group ((avoids_owner (.layer index)).not_mem (by simp)) "" (by decide) false

theorem identifiers_circleLine (layer : Layer) (center : Point Binary64) (radius : Binary64) :
    identifiers [] [circleLine layer center radius] = .none :=
  identifiers_body_of_ne (beginsWith_emptyElement (by decide) _) (by decide) (by decide)

theorem identifiers_lines (layer : Layer) (center : Point Binary64) (radius : Binary64) :
    identifiers [] (lines layer center radius) =
      ⟨[id layer.index.plainText], [], [],
        upperId layer.index.plainText :: layer.components.map fun _ => lowerId layer.index.plainText, []⟩ := by
  have hname : identifiers [] [nameLabel layer.index.plainText layer.label] =
      ⟨[], [], [], [upperId layer.index.plainText], []⟩ :=
    identifiers_label (.layer layer.index) .upper (by decide) (behindLast?_plain layer.label) _
  have hlines : lines layer center radius = [groupTag layer.index] ++ ([circleLine layer center radius] ++
      ([nameLabel layer.index.plainText layer.label] ++
        (componentLabels layer.index.plainText layer.components ++ [closeTag "g"]))) := by
    simp [lines]
  rw [hlines]
  simp only [identifiers_body_append, identifiers_groupTag, identifiers_circleLine, hname,
    identifiers_componentLabels, identifiers_body_closeTag]
  simp [Identifiers.append, Identifiers.none]

end Ring

namespace Connector

theorem identifiers_clipLines (number : Nat) (clip : Option (List (Point Binary64))) :
    identifiers (clipLines (id number) clip) [] =
      ⟨[], [], if clip.isSome then [clipId (id number)] else [], [], []⟩ := by
  cases clip with
  | none => rfl
  | some region =>
    have hid : '"' ∉ (clipId (id number)).toList :=
      (avoids_name (.connector number) .region).not_mem (by simp)
    have hbegins := beginsWith_openTag (by decide : isName "clipPath".toList = true)
      [⟨"id", clipId (id number)⟩]
    have hpath : idOf? "path" (openTag "clipPath" [⟨"id", clipId (id number)⟩]) = none := by
      rw [idOf?, hbegins.inside?_eq_none (by decide) (by decide), Option.map_none]
    have hopen : identifiers [openTag "clipPath" [⟨"id", clipId (id number)⟩]] [] =
        ⟨[], [], [clipId (id number)], [], []⟩ := by
      simp only [identifiers, List.filterMap_cons, List.filterMap_nil, hpath, idOf?_openTag hid]
    have hpolygon : identifiers [emptyElement "polygon" [⟨"points", pointsText region⟩]] [] = .none :=
      identifiers_defs_of_ne (beginsWith_emptyElement (by decide) _) (by decide) (by decide)
    have hlines : clipLines (id number) (some region) =
        [openTag "clipPath" [⟨"id", clipId (id number)⟩]] ++
          ([emptyElement "polygon" [⟨"points", pointsText region⟩]] ++ [closeTag "clipPath"]) := rfl
    rw [hlines, identifiers_defs_append, identifiers_defs_append, hopen, hpolygon,
      identifiers_defs_closeTag]
    rfl

theorem identifiers_missingMarkerLines (marker : Option String) (defs : List String) :
    identifiers (missingMarkerLines marker defs) [] = .none := by
  cases hmarker : nonempty? marker with
  | none =>
    rw [missingMarkerLines_of_none hmarker]
    rfl
  | some name =>
    rw [missingMarkerLines_of_some hmarker]
    split
    · rfl
    · exact identifiers_headLines name Style.arrowColor

/-- The path of the label of a connector, if it has one. -/
def labelPath (number : Nat) (options : ConnectorOptions) : List String :=
  (nonempty? options.label).toList.map fun _ => labelPathId (id number)

theorem identifiers_labelPaths (number : Nat) (path : String) (options : ConnectorOptions) :
    identifiers (labelPaths (id number) path options) [] = ⟨[], labelPath number options, [], [], []⟩ := by
  unfold labelPaths labelPath
  cases nonempty? options.label with
  | none => rfl
  | some text => exact Ring.identifiers_pathElement (.connector number) .label path

theorem identifiers_labelLines (number : Nat) (options : ConnectorOptions) :
    identifiers [] (labelLines (id number) options) = ⟨[], [], [], labelPath number options, []⟩ := by
  unfold labelLines labelPath
  cases nonempty? options.label with
  | none => rfl
  | some text =>
    exact identifiers_label (.connector number) .label (by decide) (behindLast?_raised text) _

theorem identifiers_definitions (number : Nat) (path : String)
    (clip : Option (List (Point Binary64))) (options : ConnectorOptions) (defs : List String) :
    identifiers (definitions (id number) path clip options defs) [] =
      ⟨[], labelPath number options, if clip.isSome then [clipId (id number)] else [], [], []⟩ := by
  rw [definitions, identifiers_defs_append, identifiers_defs_append, identifiers_clipLines,
    identifiers_missingMarkerLines, identifiers_labelPaths]
  simp [Identifiers.append, Identifiers.none]

theorem identifiers_groupTag (number : Nat) (clipped : Bool) :
    identifiers [] [groupTag (id number) clipped] =
      ⟨[id number], [], [], [], if clipped then [clipId (id number)] else []⟩ :=
  identifiers_group ((avoids_owner (.connector number)).not_mem (by simp)) (clipId (id number))
    ((avoids_name (.connector number) .region).not_mem (by simp)) clipped

theorem identifiers_lines (number : Nat) (path : String) (clipped : Bool) (options : ConnectorOptions) :
    identifiers [] (lines (id number) path clipped options) =
      ⟨[id number], [], [], labelPath number options,
        if clipped then [clipId (id number)] else []⟩ := by
  have hline :
      identifiers [] [lineElement path options.width.plainText options (attached options)] = .none :=
    identifiers_body_of_ne (beginsWith_emptyElement (by decide) _) (by decide) (by decide)
  have hlines : lines (id number) path clipped options =
      [groupTag (id number) clipped] ++
        ([lineElement path options.width.plainText options (attached options)] ++
          ([closeTag "g"] ++ labelLines (id number) options)) := rfl
  rw [hlines]
  simp only [identifiers_body_append, identifiers_groupTag, hline, identifiers_body_closeTag, identifiers_labelLines]
  simp [Identifiers.append, Identifiers.none]

end Connector

end Concentric
