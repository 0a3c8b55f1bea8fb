import Cadastre.Decode.Failure
import Cadastre.Path
import Cadastre.Plan
import Cadastre.Router.Routes
import Cadastre.Scan.Options
import Cadastre.Schema.Tables

/-!
# The stages of a scan

Four plans: finding the repository, reading its routers, reading its schema, and loading the
registry of admin modules. Each gives what it found or why it failed, and none depends on another
but for the root of the repository.
-/

namespace Cadastre

/-- Why a stage of a scan fails. -/
inductive StageFailure where
  /-- A directory cannot be listed. -/
  | listing (path message : String)
  /-- A file cannot be read. -/
  | reading (path message : String)
  /-- A file holds no registry. -/
  | registry (path : String) (failure : Failure)

/-- The failure in words. -/
def StageFailure.text : StageFailure → String
  | listing path message => s!"failed to list {path}: {message}"
  | reading path message => s!"failed to read {path}: {message}"
  | registry path failure => s!"invalid module registry {path}: {failure.text}"

namespace Scan

/-- What a stage gives, or why it failed. -/
abbrev Outcome (α : Type) := Except StageFailure α

/-! ## The repository -/

/-- The largest number that a machine counts to. -/
def largestCount : Nat := Nat.pow 2 64 - 1

/-- How many directories a depth stands for: the start and as many as it says around it, or as many
as a machine counts. -/
def reach (depth : Nat) : Nat := min (depth + 1) largestCount

/-- The directories that are searched, each once: the start, made absolute, and as many directories
around it as asked for; none for an empty start. -/
def candidates (workingDirectory start : String) (depth : Nat) : List String :=
  match Path.absolute workingDirectory start with
  | "" => []
  | path => ((Path.ancestors path).take (reach depth)).eraseDups

/-- Whether a directory holds both routers and schema. -/
def holdsBoth (layout : Layout) (candidate : String) : Plan Bool := do
  if ← Plan.probe (Path.join candidate layout.routersDir) then
    Plan.probe (Path.join candidate layout.schemaFile)
  else pure false

/-- The first of some directories that holds both routers and schema. -/
def firstRoot? (layout : Layout) : List String → Plan (Option String)
  | [] => pure none
  | candidate :: rest => do
    let found ← holdsBoth layout candidate
    Plan.log
      { level := .debug
        target := "docsnap::docs::root"
        message := "probed repository root"
        fields := [("candidate", candidate), ("found", toString found)] }
    if found then pure (some candidate) else firstRoot? layout rest

/-- The root of the repository around a start. -/
def root? (workingDirectory start : String) (depth : Nat) (layout : Layout) :
    Plan (Option String) :=
  firstRoot? layout (candidates workingDirectory start depth)

/-! ## Routers -/

/-- Whether a file name has an extension, in any case of ASCII letters. -/
def hasExtension (extension name : String) : Bool :=
  (Path.extension? name).any fun e => Text.sameAsciiWord e extension

/-- The file names that are router sources, in ascending order. -/
def routerNames (extension : String) (names : List String) : List String :=
  sortByKey id (names.filter (hasExtension extension))

/-- The directory of the routers as it stands in front of their names: with slashes for backslashes,
and none at the end. -/
def sourceFolder (routersDir : String) : String :=
  let slashed := routersDir.toList.map fun c => if c == '\\' then '/' else c
  String.ofList (slashed.reverse.dropWhile (· == '/')).reverse

/-- The routes of some router sources, file by file. -/
def readRouters (dir folder : String) : List String → Plan (Outcome (List Route))
  | [] => pure (.ok [])
  | name :: names => do
    let path := Path.join dir name
    match ← Plan.read path with
    | .error message => pure (.error (.reading path message))
    | .ok content =>
      let sourceFile := folder ++ "/" ++ name
      let found := Router.routes sourceFile content
      Plan.log
        { level := .debug
          target := "docsnap::docs::routes"
          message := "scanned router file"
          fields := [("file", sourceFile), ("routes", toString found.length)] }
      match ← readRouters dir folder names with
      | .error e => pure (.error e)
      | .ok routes => pure (.ok (found ++ routes))

/-- The routes of a repository, in documented order. -/
def routes (root routersDir extension : String) : Plan (Outcome (List Route)) := do
  let dir := Path.join root routersDir
  match ← Plan.list dir with
  | .error message => pure (.error (.listing dir message))
  | .ok names =>
    match ← readRouters dir (sourceFolder routersDir) (routerNames extension names) with
    | .error e => pure (.error e)
    | .ok routes => pure (.ok (Route.sort routes))

/-! ## Schema -/

/-- The tables of a repository, by name. -/
def tables (root schemaFile : String) : Plan (Outcome (List Table)) := do
  let path := Path.join root schemaFile
  match ← Plan.read path with
  | .error message => pure (.error (.reading path message))
  | .ok content =>
    let tables := Schema.tables content
    Plan.log
      { level := .debug
        target := "docsnap::docs::schema"
        message := "scanned schema file"
        fields := [("file", path), ("tables", toString tables.length)] }
    pure (.ok tables)

/-! ## Registry -/

/-- The registry that a source gives. -/
def registry : ModuleSource → Plan (Outcome Registry)
  | .builtin => pure (.ok Registry.builtin)
  | .inline registry => pure (.ok registry)
  | .file path => do
    match ← Plan.read path with
    | .error message => pure (.error (.reading path message))
    | .ok text =>
      match Registry.decodeText text with
      | .error failure => pure (.error (.registry path failure))
      | .ok registry => pure (.ok registry)

end Scan

end Cadastre
