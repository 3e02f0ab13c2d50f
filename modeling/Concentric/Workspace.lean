import Concentric.Number

/-!
# Directories

The part of a file system that the generators touch: a directory is a list of named entries, an entry a
file with its content or a directory again. Making directories goes along a path and creates what is
missing; writing a file replaces its content. Each of them either succeeds or says what is in the way.
-/

namespace Concentric

/-- **An entry of a directory.** -/
inductive Entry where
  | file (content : String)
  | directory (entries : List (String × Entry))

/-- The named entries of a directory. -/
abbrev Listing := List (String × Entry)

/-- Why a step on files or commands fails, or what is to be written cannot be drawn. -/
inductive Fault where
  /-- A file stands where a directory is needed. -/
  | notADirectory
  /-- A directory stands where a file is needed. -/
  | isADirectory
  /-- A file stands where a directory is to be made. -/
  | entryExists
  /-- There is no such directory. -/
  | notFound
  /-- A command ended with this exit status. -/
  | commandFailed (status : Int)
  /-- The content of a file has no text. -/
  | undrawable (cause : ArithmeticError)
deriving DecidableEq, Repr

namespace Listing

/-- The entry of a name. -/
def lookup? (name : String) : Listing → Option Entry
  | [] => none
  | (first, entry) :: rest => if first = name then some entry else lookup? name rest

/-- Puts an entry under a name, in the place of the present one if there is one. -/
def put (name : String) (entry : Entry) : Listing → Listing
  | [] => [(name, entry)]
  | (first, old) :: rest =>
    if first = name then (first, entry) :: rest else (first, old) :: put name entry rest

/-- **Makes the directories of a path,** as far as they are missing. -/
def makeDirectories : List String → Listing → Except Fault Listing
  | [], listing => .ok listing
  | name :: path, listing =>
    match lookup? name listing with
    | none => (makeDirectories path []).map fun inner => put name (.directory inner) listing
    | some (.directory inner) =>
      (makeDirectories path inner).map fun changed => put name (.directory changed) listing
    | some (.file _) => .error (if path.isEmpty then .entryExists else .notADirectory)

/-- **Writes a file** in the directory of a path; an old content is lost. -/
def writeFile (content name : String) : List String → Listing → Except Fault Listing
  | [], listing =>
    match lookup? name listing with
    | some (.directory _) => .error .isADirectory
    | _ => .ok (put name (.file content) listing)
  | first :: path, listing =>
    match lookup? first listing with
    | none => .error .notFound
    | some (.directory inner) =>
      (writeFile content name path inner).map fun changed => put first (.directory changed) listing
    | some (.file _) => .error .notADirectory

/-- The content of a file in the directory of a path. -/
def contentOf? (name : String) : List String → Listing → Option String
  | [], listing =>
    match lookup? name listing with
    | some (.file content) => some content
    | _ => none
  | first :: path, listing =>
    match lookup? first listing with
    | some (.directory inner) => contentOf? name path inner
    | _ => none

end Listing

end Concentric
