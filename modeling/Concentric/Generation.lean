import Concentric.Diagram
import Concentric.Workspace

/-!
# Generating the diagram

The generator makes the directories of its output, opens the file, which empties it, writes the document and
reports. A run is a value: what was printed, the directory afterwards, and the fault that stopped it.
-/

namespace Concentric

/-- **A run of a program** on a directory. -/
structure Run where
  printed : String
  listing : Listing
  fault : Option Fault

namespace Run

/-- The run that does nothing. -/
def idle (listing : Listing) : Run := ⟨"", listing, none⟩

/-- A run that prints a text. -/
def print (text : String) (listing : Listing) : Run := ⟨text, listing, none⟩

/-- One run and then another one on the directory that it leaves, unless it was stopped. -/
def andThen (first : Run) (next : Listing → Run) : Run :=
  match first.fault with
  | some _ => first
  | none =>
    let second := next first.listing
    ⟨first.printed ++ second.printed, second.listing, second.fault⟩

/-- A change of the directory as a run. -/
def change (result : Except Fault Listing) (listing : Listing) : Run :=
  match result with
  | .ok changed => ⟨"", changed, none⟩
  | .error fault => ⟨"", listing, some fault⟩

/-- A program run a number of times, until it is stopped. -/
def repeated (program : Listing → Run) : Nat → Listing → Run
  | 0, listing => idle listing
  | times + 1, listing => (program listing).andThen (repeated program times)

end Run

namespace Generation

/-- The directory of the output, below the root. -/
def outputDirectory : List String := ["doc", "images"]

/-- The name of the output. -/
def outputName : String := "onion-layers.svg"

/-- The path of the output, below the root. -/
def outputPath : List String := outputDirectory ++ [outputName]

/-- The report of a run in the root directory of the given name. -/
def report (root : String) : String :=
  "Onion layers diagram written to " ++ "/".intercalate (root :: outputPath) ++ "\n  " ++
    (Number.whole Diagram.layers.length).plainText ++ " rings, 1 connector\n"

/-- Writes a content in the place of the output. -/
def write (content : String) (listing : Listing) : Run :=
  Run.change (listing.writeFile content outputName outputDirectory) listing

/-- Draws the diagram and writes it with the imported style; nothing is written if it cannot be drawn. -/
def writeDiagram [DigitLimit] (listing : Listing) : Run :=
  match Diagram.document (some Style.styleImport) with
  | .ok text => write text listing
  | .error cause => ⟨"", listing, some (.undrawable cause)⟩

/-- **The generator.** The file is opened, and thereby emptied, before its content is drawn. -/
def run [DigitLimit] (root : String) (listing : Listing) : Run :=
  (Run.change (listing.makeDirectories outputDirectory) listing)
    |>.andThen (write "")
    |>.andThen writeDiagram
    |>.andThen (Run.print (report root))

end Generation

end Concentric
