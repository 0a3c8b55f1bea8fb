import Cadastre.Text.Search

/-!
# Paths

Paths are texts with components between slashes. Repeated slashes and components that are a single
point do not matter, except that a path may begin with the point. A path that begins with a slash is
absolute; any other stands for itself below a working directory.
-/

namespace Cadastre.Path

/-- The pieces of a path that are not empty. -/
def pieces (path : String) : List String :=
  ((Text.splitAt (· == '/') path.toList).filter fun p => !p.isEmpty).map String.ofList

/-- Whether a path is absolute. -/
def isAbsolute (path : String) : Bool := path.toList.head? == some '/'

/-- The components of a path: its pieces without single points, except for one at the start of a
path that is not absolute. -/
def components (path : String) : List String :=
  match isAbsolute path, pieces path with
  | false, "." :: rest => "." :: rest.filter (· != ".")
  | _, ps => ps.filter (· != ".")

/-- A path with another one put below it; an absolute path replaces what is before it. -/
def join (base path : String) : String :=
  if isAbsolute path || base.isEmpty then path
  else if base.toList.getLast? == some '/' then base ++ path
  else base ++ "/" ++ path

/-- The last component, if it is a name. -/
def fileName? (path : String) : Option String :=
  (components path).getLast?.filter fun name => name != "." && name != ".."

/-- The text after the last point of the last component, unless that point is its first
character. -/
def extension? (path : String) : Option String :=
  (fileName? path).bind fun name =>
    let cs := name.toList
    let after := Text.lastPiece (· == '.') cs
    let stem := cs.take (cs.length - after.length - 1)
    if cs.contains '.' && !stem.isEmpty then some (String.ofList after) else none

/-- The path without its last component, unless it has none. -/
def parent? (path : String) : Option String :=
  match (components path).reverse with
  | [] => none
  | _ :: above =>
    some ((if isAbsolute path then "/" else "") ++ "/".intercalate above.reverse)

/-- Components with every `..` and the component before it left out, onto those already passed, the
last one first. -/
def fold : List String → List String → List String
  | passed, [] => passed.reverse
  | passed, c :: cs =>
    if c == "." then fold passed cs
    else if c == ".." then fold passed.tail cs
    else fold (c :: passed) cs

/-- The absolute path of components. -/
def ofComponents (cs : List String) : String := "/" ++ "/".intercalate cs

/-- A path made absolute below a working directory, without single points and `..`; the empty path
stays empty. -/
def absolute (workingDirectory path : String) : String :=
  if path.isEmpty then ""
  else if isAbsolute path then ofComponents (fold [] (components path))
  else ofComponents (fold [] (components workingDirectory ++ components path))

/-- Lists with ever more of their last items left out, down to the empty one. -/
def shorter : List String → List (List String)
  | [] => [[]]
  | c :: cs => (shorter cs).map (c :: ·) ++ [[]]

/-- An absolute path and the directories around it, the nearest first. -/
def ancestors (path : String) : List String := (shorter (components path)).map ofComponents

end Cadastre.Path
