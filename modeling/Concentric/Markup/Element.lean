import Concentric.Number

/-!
# Markup

Every line of a drawing is put together from the same few shapes: an opening tag, a closing tag, an
empty element, a label. Attribute values are written as they are, between double quotes. Character data is
escaped: the ampersand and the two angle brackets may not stand for themselves, and each of them is
written as an entity. A label is one line, a text element around a reference to the path that it follows;
its content is either plain text, which is escaped here, or markup, which is taken as it is.
-/

namespace Concentric.Markup

/-- An attribute of a tag. -/
structure Attribute where
  name : String
  value : String
deriving DecidableEq

/-- The name, and the value between double quotes. -/
def Attribute.text (a : Attribute) : String := a.name ++ "=\"" ++ a.value ++ "\""

/-- Attributes separated by blanks. -/
def attributesText (attributes : List Attribute) : String :=
  " ".intercalate (attributes.map Attribute.text)

/-- Attributes inside a tag: a blank before each of them. -/
def spacedAttributes (attributes : List Attribute) : String :=
  String.join (attributes.map fun a => " " ++ a.text)

/-- An opening tag. -/
def openTag (name : String) (attributes : List Attribute) : String :=
  "<" ++ name ++ spacedAttributes attributes ++ ">"

/-- A closing tag. -/
def closeTag (name : String) : String := "</" ++ name ++ ">"

/-- An element without content. -/
def emptyElement (name : String) (attributes : List Attribute) : String :=
  "<" ++ name ++ spacedAttributes attributes ++ "/>"

/-- The reference to the element with an identifier. -/
def reference (id : String) : String := "url(#" ++ id ++ ")"

/-! ## Attributes of several elements -/

/-- The class of an element: no attribute for an absent or empty one. -/
def classAttributes : Option String → List Attribute
  | some name => if name = "" then [] else [⟨"class", name⟩]
  | none => []

/-- Family, size and colour of a text; the size is given by its text. -/
def fontAttributes (family size fill : String) : List Attribute :=
  [⟨"font-family", family⟩, ⟨"font-size", size⟩, ⟨"fill", fill⟩]

/-- The attributes of a font of any size. -/
def fontText [DigitLimit] (family : String) (size : Number) (fill : String) :
    Except ArithmeticError String := do
  return attributesText (fontAttributes family (← size.text) fill)

/-! ## Character data -/

/-- The written form of one character. -/
def escapeChar : Char → List Char
  | '&' => "&amp;".toList
  | '<' => "&lt;".toList
  | '>' => "&gt;".toList
  | c => [c]

/-- **Escaping:** every character by its written form. -/
def escape (text : String) : String := String.ofList (text.toList.flatMap escapeChar)

theorem toList_escape (text : String) : (escape text).toList = text.toList.flatMap escapeChar := by
  simp [escape]

/-! ## Text along a path -/

/-- What stands inside a label. -/
inductive Content where
  | plain (text : String)
  | markup (pieces : List String)
deriving DecidableEq

/-- The markup of the content. -/
def Content.inner : Content → String
  | .plain text => escape text
  | .markup pieces => String.join pieces

/-- **A label along the path** with an identifier, from an offset on. The attributes of the text
element are given as their text. -/
def pathLabel (pathId : String) (content : Content) (offset attributes : String) : String :=
  "<text " ++ attributes ++ ">" ++
    openTag "textPath" [⟨"href", "#" ++ pathId⟩, ⟨"startOffset", offset⟩] ++ content.inner ++
    closeTag "textPath" ++ closeTag "text"

end Concentric.Markup
