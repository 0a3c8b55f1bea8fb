import Cadastre.Path
import Cadastre.Snapshot.Order
import Cadastre.World.Storage

/-!
# Trees

A tree of files and directories that is given as a list: texts of files, and names in directories,
or the messages of the errors that reading and listing end with. What is above a given file or
directory is there too. Two paths are the same if their components are, and a component `..` is like
any other.
-/

namespace Cadastre

/-- Given files and directories. -/
structure Tree where
  /-- The texts of files, or why they cannot be read. -/
  files : List (String × Except String String) := []
  /-- The names in directories, or why they cannot be listed. -/
  directories : List (String × Except String (List String)) := []
  /-- Why nothing can be written, if so. -/
  readOnly : Option String := none

namespace Tree

/-- The steps to a path: its components, after the root if it is absolute. -/
def steps (path : String) : List String :=
  if Path.isAbsolute path then "/" :: Path.components path else Path.components path

/-- What is given for a path; of two entries for the same path, the last one. -/
def lookup? {α : Type} (path : String) (entries : List (String × α)) : Option α :=
  (entries.reverse.find? fun e => steps e.1 == steps path).map Prod.snd

/-- The steps to all that is given. -/
def given (t : Tree) : List (List String) :=
  t.files.map (fun e => steps e.1) ++ t.directories.map (fun e => steps e.1)

/-- Whether something given is at a path or below it. -/
def probe (t : Tree) (path : String) : Bool := t.given.any (steps path).isPrefixOf

/-- The text of a file. -/
def read (t : Tree) (path : String) : Except String String :=
  (lookup? path t.files).getD (.error "no such file")

/-- The first steps from a path to what is given below it, each once, in ascending order. -/
def below (t : Tree) (path : String) : List String :=
  sortByKey id <| List.eraseDups <| t.given.filterMap fun other =>
    ((steps path).isPrefixOf? other).bind List.head?

/-- The names in a directory: those given for it, in their order, or else all that is known to be
below it. -/
def list (t : Tree) (path : String) : Except String (List String) :=
  match lookup? path t.directories with
  | some names => names
  | none => if (t.below path).isEmpty then .error "no such directory" else .ok (t.below path)

/-- A tree as a storage. -/
def storage (t : Tree) : Storage where
  probe := t.probe
  isFile path := (lookup? path t.files).isSome
  read := t.read
  list := t.list
  write _ _ := t.readOnly.elim (.ok ()) .error

end Tree

end Cadastre
