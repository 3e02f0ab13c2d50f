import Concentric.Number
import Concentric.Text.Quoted

/-!
# The palette

A colour is a hue at a depth, written as six hexadecimal digits. Inside the library both are named by
constructors, so every combination has a colour. `Palette.find` looks a colour up by the name of the
hue and the number of the depth; of two unknown ones the hue is reported.
-/

namespace Concentric.Palette

/-- The hues. -/
inductive Hue where
  | grey
  | green
  | yellow
  | lightGreen
  | lightBlue
  | blueGrey
deriving DecidableEq, Repr

/-- The depths, from pale to dark. -/
inductive Depth where
  | pale
  | plain
  | strong
  | dark
deriving DecidableEq, Repr

/-- The name of a hue. -/
def Hue.name : Hue → String
  | .grey => "grey"
  | .green => "green"
  | .yellow => "yellow"
  | .lightGreen => "lightGreen"
  | .lightBlue => "lightBlue"
  | .blueGrey => "blueGrey"

/-- The number of a depth. -/
def Depth.number : Depth → Nat
  | .pale => 100
  | .plain => 500
  | .strong => 700
  | .dark => 900

/-- All hues. -/
def hues : List Hue := [.grey, .green, .yellow, .lightGreen, .lightBlue, .blueGrey]

/-- All depths. -/
def depths : List Depth := [.pale, .plain, .strong, .dark]

/-- **The colour** of a hue at a depth. -/
def shade : Hue → Depth → String
  | .grey, .pale => "#f5f5f5"
  | .grey, .plain => "#9e9e9e"
  | .grey, .strong => "#616161"
  | .grey, .dark => "#212121"
  | .green, .pale => "#c8e6c9"
  | .green, .plain => "#4caf50"
  | .green, .strong => "#388e3c"
  | .green, .dark => "#1b5e20"
  | .yellow, .pale => "#fff9c4"
  | .yellow, .plain => "#ffeb3b"
  | .yellow, .strong => "#fbc02d"
  | .yellow, .dark => "#f57f17"
  | .lightGreen, .pale => "#dcedc8"
  | .lightGreen, .plain => "#8bc34a"
  | .lightGreen, .strong => "#689f38"
  | .lightGreen, .dark => "#33691e"
  | .lightBlue, .pale => "#b3e5fc"
  | .lightBlue, .plain => "#03a9f4"
  | .lightBlue, .strong => "#0288d1"
  | .lightBlue, .dark => "#01579b"
  | .blueGrey, .pale => "#cfd8dc"
  | .blueGrey, .plain => "#607d8b"
  | .blueGrey, .strong => "#455a64"
  | .blueGrey, .dark => "#263238"

/-! ## Looking a colour up -/

/-- Why a colour cannot be found. -/
inductive LookupError where
  | unknownHue (name : String)
  | unknownDepth (number : Int)
deriving DecidableEq, Repr

/-- The error names the key that is missing. -/
def LookupError.message : LookupError → String
  | .unknownHue name => Text.quoted name
  | .unknownDepth number => (Number.whole number).plainText

/-- The hue of a name. -/
def hueNamed? (name : String) : Option Hue := hues.find? (·.name = name)

/-- The depth of a number. -/
def depthNumbered? (number : Int) : Option Depth := depths.find? (·.number = number)

/-- **The colour of a named hue at a numbered depth.** -/
def find (hue : String) (depth : Int) : Except LookupError String :=
  match hueNamed? hue with
  | none => .error (.unknownHue hue)
  | some h =>
    match depthNumbered? depth with
    | none => .error (.unknownDepth depth)
    | some d => .ok (shade h d)

end Concentric.Palette
