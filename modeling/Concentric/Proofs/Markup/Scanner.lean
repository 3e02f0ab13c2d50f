import Concentric.Markup.Element
import Concentric.Proofs.Text.Avoids

/-!
# Reading a document back

`tokens?` reads a text as markup: tags with quoted attributes, and character data between them in which
the three entities stand for their characters. It is written without a look at how lines are put together
and refuses everything else: a tag that does not end, a value without quotes, an angle bracket or an
ampersand inside a value, an ampersand that begins no entity. What the builders write is read back:
`reads_openTag`, `reads_closeTag`, `reads_emptyElement` and `reads_escape`, and texts that are read one by
one are read one after the other (`Reads.append`).
-/

namespace Concentric.Markup

/-- **A token of a document:** a tag, or one character between the tags. -/
inductive Token where
  | opening (name : String) (attributes : List Attribute)
  | closing (name : String)
  | empty (name : String) (attributes : List Attribute)
  | data (c : Char)
deriving DecidableEq

namespace Scanner

/-- **Where the scanner stands,** with what it has read of an unfinished piece of markup. -/
inductive Mode where
  /-- Between tags. -/
  | content
  /-- Behind an ampersand. -/
  | entity (name : List Char)
  /-- Behind an angle bracket. -/
  | bracket
  /-- In the name of a closing tag. -/
  | closing (name : List Char)
  /-- In the name of an opening tag or an empty element. -/
  | opening (name : List Char)
  /-- Behind the name of a tag or one of its values. -/
  | behind (name : String) (done : List Attribute)
  /-- Behind a blank inside a tag. -/
  | blank (name : String) (done : List Attribute)
  /-- In the name of an attribute. -/
  | key (name : String) (done : List Attribute) (key : List Char)
  /-- Behind the equals sign of an attribute. -/
  | equals (name : String) (done : List Attribute) (key : List Char)
  /-- Between the quotes of an attribute. -/
  | value (name : String) (done : List Attribute) (key value : List Char)
  /-- Behind the slash of an empty element. -/
  | slash (name : String) (done : List Attribute)

/-- The characters of names. -/
def isNameChar (c : Char) : Bool := c.isAlphanum || "-_:.".toList.contains c

/-- A name is a letter and name characters after it. -/
def isName : List Char → Bool
  | [] => false
  | c :: rest => c.isAlpha && rest.all isNameChar

/-- The blanks inside a tag. -/
def isBlank (c : Char) : Bool := c ∈ [' ', '\t', '\n', '\r']

/-- The character of an entity. -/
def entityChar? (name : List Char) : Option Char :=
  if name = "amp".toList then some '&'
  else if name = "lt".toList then some '<'
  else if name = "gt".toList then some '>'
  else none

/-- The end of a tag. -/
def finish (name : String) (done : List Attribute) (c : Char) : Option (Mode × List Token) :=
  if c = '>' then some (.content, [.opening name done])
  else if c = '/' then some (.slash name done, [])
  else none

/-- **One character:** the next mode, and the tokens that it completes. -/
def advance : Mode → Char → Option (Mode × List Token)
  | .content, c =>
    if c = '<' then some (.bracket, [])
    else if c = '&' then some (.entity [], [])
    else some (.content, [.data c])
  | .entity name, c =>
    if c = ';' then (entityChar? name).map fun d => (.content, [.data d])
    else if c.isAlpha then some (.entity (name ++ [c]), [])
    else none
  | .bracket, c =>
    if c = '/' then some (.closing [], [])
    else if c.isAlpha then some (.opening [c], [])
    else none
  | .closing name, c =>
    if isNameChar c then some (.closing (name ++ [c]), [])
    else if c = '>' then some (.content, [.closing (String.ofList name)])
    else none
  | .opening name, c =>
    if isNameChar c then some (.opening (name ++ [c]), [])
    else if isBlank c then some (.blank (String.ofList name) [], [])
    else finish (String.ofList name) [] c
  | .behind name done, c =>
    if isBlank c then some (.blank name done, []) else finish name done c
  | .blank name done, c =>
    if isBlank c then some (.blank name done, [])
    else if c.isAlpha then some (.key name done [c], [])
    else finish name done c
  | .key name done key, c =>
    if isNameChar c then some (.key name done (key ++ [c]), [])
    else if c = '=' then some (.equals name done key, [])
    else none
  | .equals name done key, c => if c = '"' then some (.value name done key [], []) else none
  | .value name done key value, c =>
    if c = '"' then
      some (.behind name (done ++ [⟨String.ofList key, String.ofList value⟩]), [])
    else if c = '<' ∨ c = '&' then none
    else some (.value name done key (value ++ [c]), [])
  | .slash name done, c => if c = '>' then some (.content, [.empty name done]) else none

/-- Many characters: the last mode, and the tokens in their order. -/
def run : Mode → List Char → Option (Mode × List Token)
  | mode, [] => some (mode, [])
  | mode, c :: rest =>
    (advance mode c).bind fun (next, read) =>
      (run next rest).map fun (last, more) => (last, read ++ more)

end Scanner

open Scanner

/-- **The tokens of a text,** if the scanner gets through it and ends between tags. -/
def tokens? (text : String) : Option (List Token) :=
  match run .content text.toList with
  | some (.content, tokens) => some tokens
  | _ => none

/-- A text between tags whose end is between tags again, with the tokens read in between. -/
def Reads (text : String) (tokens : List Token) : Prop :=
  run .content text.toList = some (.content, tokens)

theorem Reads.tokens?_eq {text : String} {tokens : List Token} (h : Reads text tokens) :
    tokens? text = some tokens := by
  rw [tokens?, h]

namespace Scanner

/-! ## Runs over a text in parts -/

theorem run_append (mode : Mode) (s t : List Char) :
    run mode (s ++ t) = (run mode s).bind fun (next, read) =>
      (run next t).map fun (last, more) => (last, read ++ more) := by
  induction s generalizing mode with
  | nil => simp [run]
  | cons c rest ih =>
    simp only [List.cons_append, run]
    cases advance mode c with
    | none => rfl
    | some step =>
      simp only [Option.bind_some, ih]
      cases run step.1 rest with
      | none => rfl
      | some more => simp [Function.comp_def]

/-- Two parts of a text, the first of which leads to a known mode. -/
theorem run_append_of_run {mode next : Mode} {s : List Char} {read : List Token}
    (h : run mode s = some (next, read)) (t : List Char) :
    run mode (s ++ t) = (run next t).map fun (last, more) => (last, read ++ more) := by
  rw [run_append, h, Option.bind_some]

/-- A first part that completes no token. -/
theorem run_append_of_silent {mode next : Mode} {s : List Char}
    (h : run mode s = some (next, [])) (t : List Char) : run mode (s ++ t) = run next t := by
  rw [run_append_of_run h]
  simp

theorem run_cons_of_advance {mode : Mode} {c : Char} (next : Mode)
    (h : advance mode c = some (next, [])) (t : List Char) : run mode (c :: t) = run next t :=
  run_append_of_silent (s := [c]) (by simp [run, h]) t

/-! ## Names and values -/

/-- A mode that collects characters collects all of a text of such characters. -/
theorem run_collect {collecting : List Char → Mode} {allowed : Char → Prop}
    (hstep : ∀ {done c}, allowed c → advance (collecting done) c = some (collecting (done ++ [c]), []))
    {more : List Char} (hmore : ∀ c ∈ more, allowed c) (done : List Char) :
    run (collecting done) more = some (collecting (done ++ more), []) := by
  induction more generalizing done with
  | nil => simp [run]
  | cons c rest ih =>
    rw [run_cons_of_advance _ (hstep (hmore c (by simp))),
      ih (fun d hd => hmore d (List.mem_cons_of_mem _ hd)), List.append_assoc,
      List.singleton_append]

/-- The characters that may not stand in a value. -/
def unquotable : List Char := ['"', '<', '&']

theorem run_value {name : String} {done : List Attribute} {key value : List Char}
    (hvalue : ∀ c ∈ value, c ∉ unquotable) :
    run (.value name done key []) value = some (.value name done key value, []) := by
  refine run_collect (fun {_ c} hc => ?_) hvalue []
  simp only [unquotable, List.mem_cons, List.not_mem_nil, or_false, not_or] at hc
  simp [advance, hc]

theorem isName_iff_exists {text : List Char} :
    isName text = true ↔
      ∃ c rest, text = c :: rest ∧ c.isAlpha = true ∧ ∀ d ∈ rest, isNameChar d = true := by
  constructor
  · intro h
    cases text with
    | nil => simp [isName] at h
    | cons c rest =>
      simp only [isName, Bool.and_eq_true, List.all_eq_true] at h
      exact ⟨c, rest, rfl, h⟩
  · rintro ⟨c, rest, rfl, h⟩
    simpa [isName] using h

theorem isNameChar_of_mem {text : List Char} (h : isName text = true) :
    ∀ c ∈ text, isNameChar c = true := by
  obtain ⟨c, rest, rfl, hletter, hrest⟩ := isName_iff_exists.mp h
  intro d hd
  rcases List.mem_cons.mp hd with rfl | hd
  · simp [isNameChar, Char.isAlphanum, hletter]
  · exact hrest d hd

theorem run_key {tag : String} {done : List Attribute} {c : Char} {rest : List Char}
    (hrest : ∀ d ∈ rest, isNameChar d = true) :
    run (.key tag done [c]) rest = some (.key tag done (c :: rest), []) := by
  refine run_collect (fun {_ _} hc => ?_) hrest [c]
  simp [advance, hc]

theorem run_closing {name : List Char} (hname : ∀ d ∈ name, isNameChar d = true) :
    run (.closing []) name = some (.closing name, []) := by
  refine run_collect (fun {_ _} hc => ?_) hname []
  simp [advance, hc]

theorem run_opening {c : Char} {rest : List Char} (hrest : ∀ d ∈ rest, isNameChar d = true) :
    run (.opening [c]) rest = some (.opening (c :: rest), []) := by
  refine run_collect (fun {_ _} hc => ?_) hrest [c]
  simp [advance, hc]

/-- An angle bracket and a name begin a tag of that name. -/
theorem run_bracket {name : String} (hname : isName name.toList = true) :
    run .content ('<' :: name.toList) = some (.opening name.toList, []) := by
  obtain ⟨c, rest, htext, hletter, hrest⟩ := isName_iff_exists.mp hname
  have hslash : c ≠ '/' := by rintro rfl; revert hletter; decide
  rw [htext, run_cons_of_advance .bracket (by simp [advance]),
    run_cons_of_advance (.opening [c]) (by simp [advance, hslash, hletter]),
    run_opening hrest]

/-- Whatever cannot continue a name stands behind it. -/
theorem run_opening_eq_behind (name : String) {c : Char} (hc : isNameChar c = false)
    (t : List Char) : run (.opening name.toList) (c :: t) = run (.behind name []) (c :: t) := by
  have hstep : advance (.opening name.toList) c = advance (.behind name []) c := by
    simp [advance, hc]
  simp only [run, hstep]

end Scanner

/-! ## Attributes -/

/-- **An attribute that can be read back:** a name, and a value without quotes, opening angle brackets
and ampersands. -/
structure Attribute.Readable (a : Attribute) : Prop where
  name : isName a.name.toList = true
  value : Text.Avoids a.value unquotable

namespace Scanner

theorem isBlank_of_isAlpha {c : Char} (h : c.isAlpha = true) : isBlank c = false := by
  simp only [isBlank, List.mem_cons, List.not_mem_nil, or_false, decide_eq_false_iff_not]
  rintro (rfl | rfl | rfl | rfl) <;> exact absurd h (by decide)

/-- A blank and an attribute, behind the name of a tag or behind another attribute. -/
theorem run_attribute {a : Attribute} (ha : a.Readable) (tag : String) (done : List Attribute) :
    run (.behind tag done) (" " ++ a.text).toList = some (.behind tag (done ++ [a]), []) := by
  obtain ⟨c, rest, hname, hletter, hrest⟩ := isName_iff_exists.mp ha.name
  have hchars : (" " ++ a.text).toList = ' ' :: c :: (rest ++ '=' :: '"' :: (a.value.toList ++ ['"'])) := by
    simp [Attribute.text, hname]
  have hblank : isBlank c = false := isBlank_of_isAlpha hletter
  have hquote : advance (.value tag done (c :: rest) a.value.toList) '"' =
      some (.behind tag (done ++ [a]), []) := by
    rw [advance, if_pos rfl, ← hname, String.ofList_toList, String.ofList_toList]
  rw [hchars, run_cons_of_advance (.blank tag done) (by simp [advance, isBlank]),
    run_cons_of_advance (.key tag done [c]) (by simp [advance, hblank, hletter]),
    run_append_of_silent (run_key hrest),
    run_cons_of_advance (.equals tag done (c :: rest)) (by simp [advance, isNameChar]),
    run_cons_of_advance (.value tag done (c :: rest) []) (by simp [advance]),
    run_append_of_silent (run_value ha.value),
    run_cons_of_advance _ hquote]
  rfl

theorem run_attributes {attributes : List Attribute} (h : ∀ a ∈ attributes, a.Readable)
    (tag : String) (done : List Attribute) :
    run (.behind tag done) (spacedAttributes attributes).toList =
      some (.behind tag (done ++ attributes), []) := by
  induction attributes generalizing done with
  | nil => simp [spacedAttributes, run]
  | cons a rest ih =>
    have hchars : (spacedAttributes (a :: rest)).toList =
        (" " ++ a.text).toList ++ (spacedAttributes rest).toList := by
      simp [spacedAttributes]
    rw [hchars, run_append_of_silent (run_attribute (h a (by simp)) tag done),
      ih (fun b hb => h b (List.mem_cons_of_mem _ hb)), List.append_assoc, List.singleton_append]

theorem isNameChar_blank : isNameChar ' ' = false := by decide

/-- The name of a tag and its attributes, up to what ends the tag. -/
theorem run_tag {name : String} (hname : isName name.toList = true) {attributes : List Attribute}
    (h : ∀ a ∈ attributes, a.Readable) {c : Char} (hc : isNameChar c = false) (t : List Char) :
    run .content (("<" ++ name ++ spacedAttributes attributes).toList ++ c :: t) =
      run (.behind name attributes) (c :: t) := by
  have hchars : ("<" ++ name ++ spacedAttributes attributes).toList ++ c :: t =
      ('<' :: name.toList) ++ ((spacedAttributes attributes).toList ++ c :: t) := by
    simp
  have hbehind : run (.opening name.toList) ((spacedAttributes attributes).toList ++ c :: t) =
      run (.behind name []) ((spacedAttributes attributes).toList ++ c :: t) := by
    cases attributes with
    | nil => simpa [spacedAttributes] using run_opening_eq_behind name hc t
    | cons a rest =>
      simpa [spacedAttributes] using run_opening_eq_behind name isNameChar_blank
        (a.text.toList ++ ((rest.map fun b => " " ++ b.text).flatMap String.toList ++ c :: t))
  rw [hchars, run_append_of_silent (run_bracket hname), hbehind,
    run_append_of_silent (run_attributes h name []), List.nil_append]

end Scanner

/-! ## What is written is read back -/

theorem Reads.append {s t : String} {first second : List Token} (hs : Reads s first)
    (ht : Reads t second) : Reads (s ++ t) (first ++ second) := by
  have ht' : run .content t.toList = some (.content, second) := ht
  rw [Reads, String.toList_append, run_append_of_run hs, ht', Option.map_some]

theorem reads_openTag {name : String} (hname : isName name.toList = true)
    {attributes : List Attribute} (h : ∀ a ∈ attributes, a.Readable) :
    Reads (openTag name attributes) [.opening name attributes] := by
  rw [Reads, openTag, String.toList_append, show ">".toList = ['>'] from rfl,
    run_tag hname h (by decide)]
  simp [run, advance, finish, isBlank]

theorem reads_emptyElement {name : String} (hname : isName name.toList = true)
    {attributes : List Attribute} (h : ∀ a ∈ attributes, a.Readable) :
    Reads (emptyElement name attributes) [.empty name attributes] := by
  rw [Reads, emptyElement, String.toList_append, show "/>".toList = ['/', '>'] from rfl,
    run_tag hname h (by decide)]
  simp [run, advance, finish, isBlank]

theorem reads_closeTag {name : String} (hname : isName name.toList = true) :
    Reads (closeTag name) [.closing name] := by
  have hchars : (closeTag name).toList = '<' :: '/' :: (name.toList ++ ['>']) := by
    simp [closeTag]
  rw [Reads, hchars, run_cons_of_advance .bracket (by simp [advance]),
    run_cons_of_advance (.closing []) (by simp [advance]),
    run_append_of_silent (run_closing (isNameChar_of_mem hname))]
  simp [run, advance, isNameChar]

/-! ## Character data -/

namespace Scanner

/-- Characters that are written in forms of their own, each form being read as its character. -/
theorem run_flatMap (form : Char → List Char) {text : List Char}
    (h : ∀ c ∈ text, run .content (form c) = some (.content, [.data c])) :
    run .content (text.flatMap form) = some (.content, text.map .data) := by
  induction text with
  | nil => rfl
  | cons c rest ih =>
    rw [List.flatMap_cons, run_append_of_run (h c (by simp)),
      ih fun d hd => h d (List.mem_cons_of_mem _ hd)]
    rfl

theorem run_plain {c : Char} (hc : c ∉ ['<', '&']) : run .content [c] = some (.content, [.data c]) := by
  simp only [List.mem_cons, List.not_mem_nil, or_false, not_or] at hc
  simp [run, advance, hc]

theorem run_escapeChar (c : Char) : run .content (escapeChar c) = some (.content, [.data c]) := by
  unfold escapeChar
  split
  · rfl
  · rfl
  · rfl
  · next hamp hlt _ =>
    refine run_plain ?_
    simp only [List.mem_cons, List.not_mem_nil, or_false, not_or]
    exact ⟨hlt, hamp⟩

end Scanner

/-- An escaped text is read as the text itself. -/
theorem reads_escape (text : String) : Reads (escape text) (text.toList.map .data) := by
  rw [Reads, toList_escape]
  exact run_flatMap escapeChar fun c _ => run_escapeChar c

/-- A text with neither tags nor entities is read as it is. -/
theorem reads_plain {text : String} (h : Text.Avoids text ['<', '&']) :
    Reads text (text.toList.map .data) := by
  have hchars : text.toList = text.toList.flatMap fun c => [c] := by simp
  rw [Reads, hchars]
  simpa using run_flatMap (fun c => [c]) fun c hc => run_plain (h c hc)

/-! ## Ampersands -/

namespace Scanner

/-- Opening angle brackets and ampersands are read between tags only. -/
theorem eq_content_of_advance {mode : Mode} {c : Char} (hc : c = '<' ∨ c = '&')
    {result : Mode × List Token} (h : advance mode c = some result) : mode = .content := by
  cases mode with
  | content => rfl
  | entity name => rcases hc with rfl | rfl <;> simp [advance] at h
  | bracket => rcases hc with rfl | rfl <;> simp [advance] at h
  | closing name => rcases hc with rfl | rfl <;> simp [advance, isNameChar] at h
  | opening name => rcases hc with rfl | rfl <;> simp [advance, isNameChar, isBlank, finish] at h
  | behind name done => rcases hc with rfl | rfl <;> simp [advance, isBlank, finish] at h
  | blank name done => rcases hc with rfl | rfl <;> simp [advance, isBlank, finish] at h
  | key name done key => rcases hc with rfl | rfl <;> simp [advance, isNameChar] at h
  | equals name done key => rcases hc with rfl | rfl <;> simp [advance] at h
  | value name done key value => rcases hc with rfl | rfl <;> simp [advance] at h
  | slash name done => rcases hc with rfl | rfl <;> simp [advance] at h

end Scanner

end Concentric.Markup
