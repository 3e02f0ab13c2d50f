import Concentric.Generation

/-!
# Running all generators

The batch starts each generator as a command of its own, announces it, and stops at the first one that
ends with a status other than zero. A command that ends well has the effect of its generator.
-/

namespace Concentric.Batch

/-- **A generator:** the name by which it is started, and its effect. -/
structure Generator where
  name : String
  run : String → Listing → Run

/-- All generators. -/
def generators [DigitLimit] : List Generator := [⟨"onion.gen_onion", Generation.run⟩]

/-- The command that starts a generator. -/
def command (interpreter : String) (generator : Generator) : List String :=
  [interpreter, "-m", generator.name]

/-- The announcement of a generator. -/
def announcement (generator : Generator) : String := "  running " ++ generator.name ++ " ...\n"

/-- What a batch prints after its last command. -/
def ending : String := "done.\n"

/-- The command of a generator that ends with a status: without an effect unless it is zero. -/
def launch (root : String) (status : Int) (generator : Generator) (listing : Listing) : Run :=
  if status = 0 then generator.run root listing else ⟨"", listing, some (.commandFailed status)⟩

/-- A batch: the commands that were started, and the run of them all. -/
structure Outcome where
  commands : List (List String)
  run : Run

/-- One batch and then another one, unless the first was stopped. -/
def Outcome.andThen (first : Outcome) (next : Listing → Outcome) : Outcome :=
  match first.run.fault with
  | some _ => first
  | none =>
    let second := next first.run.listing
    ⟨first.commands ++ second.commands, first.run.andThen fun _ => second.run⟩

/-- The commands of generators, one after the other. -/
def runCommands (interpreter root : String) (status : Int) :
    List Generator → Listing → Outcome
  | [], listing => ⟨[], Run.print ending listing⟩
  | generator :: rest, listing =>
    Outcome.andThen
      ⟨[command interpreter generator],
        (Run.print (announcement generator) listing).andThen (launch root status generator)⟩
      (runCommands interpreter root status rest)

/-- **The batch of all generators,** whose commands end with the given status. -/
def run [DigitLimit] (interpreter root : String) (status : Int) (listing : Listing) : Outcome :=
  runCommands interpreter root status generators listing

/-- The batch a number of times, until it is stopped. -/
def repeated (program : Listing → Outcome) : Nat → Listing → Outcome
  | 0, listing => ⟨[], Run.idle listing⟩
  | times + 1, listing => (program listing).andThen (repeated program times)

end Concentric.Batch
