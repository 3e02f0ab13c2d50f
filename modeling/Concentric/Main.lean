import Concentric.Batch

/-!
# The command line

Without an argument the diagram is written below the current directory; with the argument `all` every
generator is run and announced. The effects are those of `Generation.run` and `Batch.run`, carried out
on the disk.
-/

namespace Concentric.CommandLine

variable [DigitLimit]

/-- Writes the output below a root directory and reports it. -/
def generate (root : String) : IO Unit := do
  let path := "/".intercalate (root :: Generation.outputPath)
  IO.FS.createDirAll ("/".intercalate (root :: Generation.outputDirectory))
  IO.FS.writeFile path ""
  match Diagram.document (some Style.styleImport) with
  | .ok text => IO.FS.writeFile path text
  | .error cause => throw (IO.userError cause.message)
  IO.print (Generation.report root)

/-- Announces and runs every generator. -/
def generateAll (root : String) : IO Unit := do
  for generator in Batch.generators do
    IO.print (Batch.announcement generator)
    generate root
  IO.print Batch.ending

end Concentric.CommandLine

def main (arguments : List String) : IO Unit := do
  let _ := Concentric.DigitLimit.standard
  let root := (← IO.currentDir).toString
  if arguments = ["all"] then
    Concentric.CommandLine.generateAll root
  else
    Concentric.CommandLine.generate root
