import Cadastre.Decode.YamlSource
import Cadastre.Path
import Cadastre.Plan
import Cadastre.Scan.Options
import Cadastre.Text.Blank
import Cadastre.Text.Word

/-!
# Configuration

What a user can set about a scan. Settings come in layers: the defaults, a YAML file over them, and
variables of the environment over both. A layer says something about some of the settings, and
each setting is taken from the topmost layer that says something about it.
-/

namespace Cadastre

/-- All settings. -/
structure Config where
  /-- The directory of the router sources inside a repository. -/
  routersDir : String
  /-- The file with the schema inside a repository. -/
  schemaFile : String
  /-- The extension of router sources. -/
  routerExtension : String
  /-- How many directories around the start are searched for the repository. -/
  ancestorDepth : Nat
  /-- The file with the registry of admin modules, if it is not the registry of the dashboard. -/
  modulesFile : Option String
deriving DecidableEq, Repr

/-- The settings if nothing else is said. -/
def Config.default : Config :=
  let layout : Layout := {}
  ⟨layout.routersDir, layout.schemaFile, layout.routerExtension, defaultDepth, none⟩

/-- What is said about some settings. -/
structure ConfigLayer where
  /-- The directory of the router sources. -/
  routersDir : Option String := none
  /-- The file with the schema. -/
  schemaFile : Option String := none
  /-- The extension of router sources. -/
  routerExtension : Option String := none
  /-- The number of directories searched. -/
  ancestorDepth : Option Nat := none
  /-- The file with the registry of admin modules, or that there is none. -/
  modulesFile : Option (Option String) := none
deriving DecidableEq, Repr

/-- The settings with a layer over them. -/
def ConfigLayer.onto (l : ConfigLayer) (c : Config) : Config where
  routersDir := l.routersDir.getD c.routersDir
  schemaFile := l.schemaFile.getD c.schemaFile
  routerExtension := l.routerExtension.getD c.routerExtension
  ancestorDepth := l.ancestorDepth.getD c.ancestorDepth
  modulesFile := l.modulesFile.getD c.modulesFile

/-- Why there is no configuration. -/
inductive ConfigFailure where
  /-- The file cannot be read. -/
  | reading (path message : String)
  /-- The text of the file holds no settings. -/
  | parsing (path : String) (failure : Failure)
  /-- A variable has a value that its setting cannot have. -/
  | value (name value : String)

/-- The failure in words. -/
def ConfigFailure.text : ConfigFailure → String
  | reading path message => s!"failed to read config {path}: {message}"
  | parsing path failure => s!"failed to parse config {path}: {failure.text}"
  | value name given => s!"invalid value for {name}: {Text.quoted given}"

/-! ## The layer of a file -/

open Decode in
/-- How the settings of a file are read; a file sets only what it names. -/
def ConfigLayer.shape {σ : Type} [Source σ] : Shape σ ConfigLayer where
  name := "ScanConfig"
  fields :=
    [ optionalField "routers_dir" string fun v l => { l with routersDir := some v },
      optionalField "schema_file" string fun v l => { l with schemaFile := some v },
      optionalField "router_extension" string fun v l => { l with routerExtension := some v },
      optionalField "ancestor_depth" (Source.natural "usize" (Nat.pow 2 64))
        fun v l => { l with ancestorDepth := some v },
      optionalField "modules_file" (Decode.optional path)
        fun v l => { l with modulesFile := some v } ]
  strict := true
  blank := {}

/-- The layer in the text of a file. -/
def ConfigLayer.decodeText (text : String) : Decoded ConfigLayer :=
  Yaml.decodeString (Decode.record ConfigLayer.shape) text

/-- The layer of a file. -/
def ConfigLayer.ofFile (path : String) : Plan (Except ConfigFailure ConfigLayer) := do
  match ← Plan.read path with
  | .error message => pure (.error (.reading path message))
  | .ok text =>
    match ConfigLayer.decodeText text with
    | .error failure => pure (.error (.parsing path failure))
    | .ok l => pure (.ok l)

/-- The name of the file that is used, if it is there, where a scan starts. -/
def configFileName : String := "docsnap.yaml"

/-- The layer of the file that was asked for, or else of the file where the scan starts. -/
def ConfigLayer.ofFiles (asked : Option String) (start : String) :
    Plan (Except ConfigFailure ConfigLayer) := do
  match asked with
  | some path => ofFile path
  | none =>
    let path := Path.join start configFileName
    if ← Plan.isFile path then ofFile path else pure (.ok {})

/-! ## The layer of the environment -/

/-- A number of directories in a text, with blank characters around it or not. -/
def depthOf? (value : String) : Option Nat := Text.natural64? (Text.trim value.toList)

/-- The name of the variable for the number of directories searched. -/
def depthVariable : String := "DOCSNAP_ANCESTOR_DEPTH"

/-- A file in the value of a variable; a blank value stands for none. -/
def fileOrNone (value : String) : Option String :=
  if (Text.trim value.toList).isEmpty then none else some value

/-- The layer of the variables of the environment. -/
def ConfigLayer.ofVariables (value? : String → Option String) :
    Except ConfigFailure ConfigLayer := do
  let depth ←
    match value? depthVariable with
    | none => .ok none
    | some value =>
      match depthOf? value with
      | some n => .ok (some n)
      | none => .error (.value depthVariable value)
  .ok
    { routersDir := value? "DOCSNAP_ROUTERS_DIR"
      schemaFile := value? "DOCSNAP_SCHEMA_FILE"
      routerExtension := value? "DOCSNAP_ROUTER_EXTENSION"
      ancestorDepth := depth
      modulesFile := (value? "DOCSNAP_MODULES_FILE").map fileOrNone }

/-! ## All layers -/

namespace Config

/-- The settings of a layer of a file and the variables. -/
def ofLayer (file : ConfigLayer) (value? : String → Option String) :
    Except ConfigFailure Config := do
  let environment ← ConfigLayer.ofVariables value?
  .ok (environment.onto (file.onto default))

/-- The settings of a scan from a start. -/
def load (asked : Option String) (start : String) (value? : String → Option String) :
    Plan (Except ConfigFailure Config) := do
  match ← ConfigLayer.ofFiles asked start with
  | .error e => pure (.error e)
  | .ok file => pure (ofLayer file value?)

/-- A directory without the separators at its end. -/
def withoutSeparators (directory : String) : String :=
  String.ofList (directory.toList.reverse.dropWhile fun c => c == '/' || c == '\\').reverse

/-- An extension without the points at its start. -/
def withoutPoints (extension : String) : String :=
  String.ofList (extension.toList.dropWhile (· == '.'))

/-- What a scan is told from a start; a registry file stands below the start. -/
def options (c : Config) (workingDirectory start : String) : Options where
  workingDirectory := workingDirectory
  start := start
  depth := c.ancestorDepth
  layout :=
    { routersDir := withoutSeparators c.routersDir
      schemaFile := c.schemaFile
      routerExtension := withoutPoints c.routerExtension }
  modules :=
    match c.modulesFile with
    | some path => .file (Path.join start path)
    | none => .builtin

end Config

end Cadastre
