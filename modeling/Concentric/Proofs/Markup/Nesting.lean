import Concentric.Proofs.Markup.Scanner
import Concentric.Proofs.Text.Occurrences

/-!
# Nested elements and their labels

`openElements?` follows tokens with a stack of open elements, on which a closing tag must name the top.
`labels` collects what is set along paths: the reference of each `textPath` element, and the character
data up to its end. Both are walks over tokens with a state; tokens that leave the state as it was
(`Balanced`, `LabelsOf`) can stand one behind the other and inside an element.
-/

namespace Concentric.Markup

/-! ## Open elements -/

/-- The open elements behind a token, innermost first. A closing tag must name the innermost one. -/
def Token.openElements? : List String → Token → Option (List String)
  | stack, .opening name _ => some (name :: stack)
  | top :: stack, .closing name => if name = top then some stack else none
  | [], .closing _ => none
  | stack, .empty _ _ => some stack
  | stack, .data _ => some stack

/-- **The open elements behind tokens.** -/
def openElements? (stack : List String) (tokens : List Token) : Option (List String) :=
  tokens.foldlM Token.openElements? stack

theorem openElements?_append (stack : List String) (first second : List Token) :
    openElements? stack (first ++ second) =
      (openElements? stack first).bind fun between => openElements? between second :=
  List.foldlM_append

theorem openElements?_cons (stack : List String) (token : Token) (rest : List Token) :
    openElements? stack (token :: rest) =
      (token.openElements? stack).bind fun between => openElements? between rest :=
  List.foldlM_cons

/-- What is open below stays open: tokens that nest on their own nest on every stack. -/
theorem openElements?_below {stack after : List String} {tokens : List Token}
    (h : openElements? stack tokens = some after) (below : List String) :
    openElements? (stack ++ below) tokens = some (after ++ below) := by
  induction tokens generalizing stack with
  | nil =>
    obtain rfl : stack = after := by simpa [openElements?] using h
    rfl
  | cons token rest ih =>
    rw [openElements?_cons, Option.bind_eq_some_iff] at h
    obtain ⟨between, hstep, hrest⟩ := h
    -- Only a closing tag looks at the stack, and it finds its own element on top.
    have hbelow : token.openElements? (stack ++ below) = some (between ++ below) := by
      cases token with
      | opening name attributes =>
        obtain rfl : name :: stack = between := by simpa [Token.openElements?] using hstep
        rfl
      | closing name =>
        cases stack with
        | nil => simp [Token.openElements?] at hstep
        | cons top stack =>
          simp only [Token.openElements?, Option.ite_none_right_eq_some, Option.some.injEq] at hstep
          obtain ⟨rfl, rfl⟩ := hstep
          simp [Token.openElements?]
      | empty name attributes =>
        obtain rfl : stack = between := by simpa [Token.openElements?] using hstep
        cases stack <;> cases below <;> rfl
      | data c =>
        obtain rfl : stack = between := by simpa [Token.openElements?] using hstep
        cases stack <;> cases below <;> rfl
    rw [openElements?_cons, hbelow, Option.bind_some, ih hrest]

/-- **Balanced tokens** close what they open, and nothing else. -/
def Balanced (tokens : List Token) : Prop := openElements? [] tokens = some []

theorem Balanced.on {tokens : List Token} (h : Balanced tokens) (stack : List String) :
    openElements? stack tokens = some stack := by
  simpa using openElements?_below h stack

/-- What is opened later lies on top. -/
theorem openElements?_stack {first second : List Token} {opened more : List String}
    (h : openElements? [] first = some opened) (h' : openElements? [] second = some more) :
    openElements? [] (first ++ second) = some (more ++ opened) := by
  rw [openElements?_append, h, Option.bind_some]
  exact openElements?_below h' opened

theorem balanced_empty (name : String) (attributes : List Attribute) :
    Balanced [.empty name attributes] := rfl

theorem balanced_data (text : List Char) : Balanced (text.map .data) := by
  induction text with
  | nil => rfl
  | cons c rest ih =>
    have hc : Balanced [.data c] := rfl
    exact openElements?_stack hc ih

theorem Balanced.element {tokens : List Token} (h : Balanced tokens) (name : String)
    (attributes : List Attribute) :
    Balanced (.opening name attributes :: tokens ++ [.closing name]) := by
  rw [Balanced, List.cons_append, openElements?_cons, Token.openElements?, Option.bind_some,
    openElements?_append, h.on, Option.bind_some]
  simp [openElements?, Token.openElements?]

/-- Inside balanced tokens nothing is closed that was open before them. -/
theorem Balanced.front {tokens front : List Token} (h : Balanced tokens) (hfront : front <+: tokens)
    (stack : List String) : ∃ opened, openElements? stack front = some (opened ++ stack) := by
  obtain ⟨back, rfl⟩ := hfront
  have hboth : openElements? [] (front ++ back) = some [] := h
  rw [openElements?_append, Option.bind_eq_some_iff] at hboth
  obtain ⟨opened, hopened, -⟩ := hboth
  exact ⟨opened, openElements?_below hopened stack⟩

/-! ## Attributes -/

/-- The names of a token's attributes. -/
def Token.attributeNames : Token → List String
  | .opening _ attributes => attributes.map Attribute.name
  | .empty _ attributes => attributes.map Attribute.name
  | _ => []

/-! ## Labels -/

/-- **A label of a document:** the reference to its path, and its text. -/
structure Label where
  reference : String
  text : String
deriving DecidableEq

/-- The reference of a label's element. -/
def hrefOf (attributes : List Attribute) : String :=
  ((attributes.find? fun a => a.name = "href").map Attribute.value).getD ""

/-- **The labels of tokens** in their order, tags inside a label being left out. The state is the label
that is being read. -/
def labels : Option Label → List Token → List Label
  | _, [] => []
  | none, .opening name attributes :: rest =>
    labels (if name = "textPath" then some ⟨hrefOf attributes, ""⟩ else none) rest
  | none, _ :: rest => labels none rest
  | some label, .data c :: rest => labels (some ⟨label.reference, label.text.push c⟩) rest
  | some label, .closing name :: rest =>
    if name = "textPath" then label :: labels none rest else labels (some label) rest
  | some label, _ :: rest => labels (some label) rest

/-- Tokens that hold exactly the given labels, whatever follows. -/
def LabelsOf (tokens : List Token) (found : List Label) : Prop :=
  ∀ rest, labels none (tokens ++ rest) = found ++ labels none rest

/-- Tokens inside a label that add a text to it. -/
def TextOf (tokens : List Token) (text : String) : Prop :=
  ∀ label rest, labels (some label) (tokens ++ rest) =
    labels (some ⟨label.reference, label.text ++ text⟩) rest

theorem labelsOf_nil : LabelsOf [] [] := fun _ => rfl

theorem LabelsOf.append {first second : List Token} {found more : List Label}
    (h : LabelsOf first found) (h' : LabelsOf second more) :
    LabelsOf (first ++ second) (found ++ more) := by
  intro rest
  rw [List.append_assoc, h, h', List.append_assoc]

theorem labelsOf_data (text : List Char) : LabelsOf (text.map .data) [] := by
  induction text with
  | nil => exact labelsOf_nil
  | cons c rest ih => exact fun more => ih more

theorem LabelsOf.element {tokens : List Token} {found : List Label} (h : LabelsOf tokens found)
    {name : String} (hname : name ≠ "textPath") (attributes : List Attribute) :
    LabelsOf (.opening name attributes :: tokens ++ [.closing name]) found := by
  intro rest
  simp only [List.cons_append, List.append_assoc, labels, if_neg hname]
  rw [h]
  rfl

theorem textOf_data (text : String) : TextOf (text.toList.map .data) text := by
  suffices h : ∀ chars : List Char, TextOf (chars.map .data) (String.ofList chars) by
    simpa using h text.toList
  intro chars label rest
  induction chars generalizing label with
  | nil => simp
  | cons c more ih =>
    rw [List.map_cons, List.cons_append, labels, ih]
    congr 3
    apply String.toList_injective
    simp

theorem TextOf.element {tokens : List Token} {text : String} (h : TextOf tokens text) {name : String}
    (hname : name ≠ "textPath") (attributes : List Attribute) :
    TextOf (.opening name attributes :: tokens ++ [.closing name]) text := by
  intro label rest
  simp only [List.cons_append, List.append_assoc, labels]
  rw [h]
  simp [labels, hname]

/-- The element of a label. -/
theorem TextOf.labelsOf {tokens : List Token} {text : String} (h : TextOf tokens text)
    (attributes : List Attribute) :
    LabelsOf (.opening "textPath" attributes :: tokens ++ [.closing "textPath"])
      [⟨hrefOf attributes, text⟩] := by
  intro rest
  simp only [List.cons_append, List.append_assoc, labels, if_true]
  rw [h]
  simp [labels]

end Concentric.Markup
