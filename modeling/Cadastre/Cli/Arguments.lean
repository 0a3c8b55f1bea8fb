import Cadastre.Cli.Level
import Cadastre.Command.Basic

/-!
# The command line

The arguments of the program: settings that hold for every command, before or after its name, and
the commands with settings of their own. A setting given after the name of the command wins.
-/

namespace Cadastre.Cli

/-- What the arguments ask for. -/
structure Invocation where
  /-- The file with the configuration. -/
  config : Option String
  /-- The directory where the search for the repository begins. -/
  workingDirectory : Option String
  /-- Whether the log tells more. -/
  verbose : Bool
  /-- The command. -/
  command : Command
deriving DecidableEq, Repr

/-- A path is not empty. -/
def isPath (value : String) : Bool := !value.isEmpty

/-- Any text. -/
def anyText (_ : String) : Bool := true

/-- The format with a name. -/
def formatNamed? : String → Option Format
  | "json" => some .json
  | "yaml" => some .yaml
  | _ => none

/-- The options that every level has. -/
def shared : List Parameter :=
  [ ⟨"config", some 'c', .takesValue .config isPath⟩,
    ⟨"cwd", none, .takesValue .workingDirectory isPath⟩,
    ⟨"verbose", some 'v', .turnsOn .verbose⟩,
    ⟨"help", some 'h', .asksHelp⟩ ]

/-- The option that narrows a snapshot. -/
def queryParameter : Parameter := ⟨"query", some 'q', .takesValue .query anyText⟩

/-- The program. -/
def program : Level where
  parameters := shared ++ [⟨"version", some 'V', .asksVersion⟩]
  commands := ["build", "summary", "diff", "help"]

/-- The command that builds a snapshot. -/
def buildLevel : Level where
  parameters :=
    shared ++
      [ ⟨"format", none, .takesValue .format fun name => (formatNamed? name).isSome⟩,
        queryParameter,
        ⟨"output", some 'o', .takesValue .output isPath⟩ ]

/-- The command that sums up a snapshot. -/
def summaryLevel : Level where
  parameters := shared ++ [queryParameter]

/-- The command that compares snapshots. -/
def diffLevel : Level where
  parameters := shared
  positional := some (.previous, isPath)

/-- The level of a command. -/
def levelOf (command : String) : Level :=
  if command == "build" then buildLevel
  else if command == "summary" then summaryLevel
  else diffLevel

/-- The command that values were set for. -/
def commandOf (command : String) (found : Matches) : Except ArgumentError Command :=
  let value? := fun setting => List.lookup setting found
  if command == "build" then
    .ok (.build (((value? .format).bind formatNamed?).getD .json) (value? .query) (value? .output))
  else if command == "summary" then .ok (.summary (value? .query))
  else
    match value? .previous with
    | some previous => .ok (.diff previous)
    | none => .error .missingArgument

/-- Asks for the help on a command, or on the program. -/
def helpOn : List String → ArgumentError
  | [] => .help
  | [command] => if program.commands.contains command then .help else .unknownCommand
  | _ => .unknownCommand

/-- What the arguments of a command ask for, after the settings of the program. -/
def Reading.invoke (outer : Reading) (command : String) (rest : List String) :
    Except ArgumentError Invocation := do
  let (inner, _) ← Reading.readAll (levelOf command) {} rest
  let inner ← inner.finish
  let command ← commandOf command inner
  let outer ← outer.finish
  let value? := fun setting => (List.lookup setting inner).or (List.lookup setting outer)
  .ok ⟨value? .config, value? .workingDirectory, (value? .verbose).isSome, command⟩

/-- What the arguments ask for, the name of the program not being one of them. -/
def Invocation.ofArguments (arguments : List String) : Except ArgumentError Invocation := do
  match ← Reading.readAll program {} arguments with
  | (r, none) =>
    let found ← r.finish
    .error (if found.isEmpty then .nothingGiven else .missingCommand)
  | (r, some (command, rest)) =>
    if command == "help" then .error (helpOn rest) else r.invoke command rest

/-! ## In words -/

/-- How the program is called. -/
def usage : String :=
  "Document backend routes, tables and admin modules\n\n" ++
    "Usage: docsnap [OPTIONS] <COMMAND>\n\n" ++
    "Commands:\n" ++
    "  build    Build a snapshot and print or save it [--format json|yaml] [-q TEXT] [-o FILE]\n" ++
    "  summary  Print counts and warnings [-q TEXT]\n" ++
    "  diff     Compare a saved snapshot with a fresh one <PREVIOUS>\n" ++
    "  help     Print this message\n\n" ++
    "Options:\n" ++
    "  -c, --config <FILE>  Path to a YAML config file\n" ++
    "      --cwd <DIR>      Directory the repository root search starts from\n" ++
    "  -v, --verbose        Enable debug logging\n" ++
    "  -h, --help           Print help\n" ++
    "  -V, --version        Print version\n"

/-- A refusal in words. -/
def ArgumentError.text : ArgumentError → String
  | help => "help"
  | version => "version"
  | nothingGiven => "a command is required"
  | missingCommand => "a command is required"
  | unknownCommand => "unrecognized command"
  | unknownArgument => "unexpected argument found"
  | invalidValue => "a value is missing or invalid"
  | tooManyValues => "a value was given to an option that takes none"
  | repeated => "an option cannot be used multiple times"
  | missingArgument => "a required argument was not provided"

end Cadastre.Cli
