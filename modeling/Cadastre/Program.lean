import Cadastre.Cassette.Basic
import Cadastre.Cassette.Replay
import Cadastre.Cli.Arguments
import Cadastre.Config
import Cadastre.Environment.File
import Cadastre.Log.Filter

/-!
# The program

A run of the program: variables are completed from a file, arguments are read, the configuration is
put together, and the command is carried out, on the world or on a cassette in place of it. What is
logged on the way is chosen by a filter.
-/

namespace Cadastre

/-- Why the program fails. -/
inductive ProgramFailure where
  /-- There is no configuration. -/
  | config (failure : ConfigFailure)
  /-- There is no cassette. -/
  | cassette (failure : CassetteFailure)
  /-- The command fails. -/
  | command (failure : CommandFailure)

/-- The failure in words. -/
def ProgramFailure.text : ProgramFailure → String
  | config failure => failure.text
  | cassette failure => failure.text
  | command failure => failure.text

namespace Plan

variable {α : Type}

/-- A plan that logs only what a filter admits. -/
def filterLog (f : Log.Filter) : Plan α → Plan α
  | done a => done a
  | ask (.log e) k =>
    if f.admits e then ask (.log e) fun r => (k r).filterLog f else (k ()).filterLog f
  | ask q k => ask q fun r => (k r).filterLog f

end Plan

namespace Program

open Cli

/-- The text that is printed for the version. -/
def versionText : String := "docsnap 0.1.0\n"

/-- The file of the cassette that takes the place of the world, if there is to be one. -/
def cassetteFile? (environment : Variables) : Option String :=
  (List.lookup "DOCSNAP_REPLAY" environment).filter fun path => !path.isEmpty

/-- A command, on the world or on a cassette. -/
def perform (cassetteFile : Option String) (options : Options) (command : Command) :
    Plan (Except ProgramFailure Unit) := do
  match cassetteFile with
  | none => return (← command.run options).mapError .command
  | some path =>
    Plan.log
      { level := .debug
        target := "docsnap::commands"
        message := "replaying port interactions"
        fields := [("cassette", path)] }
    match ← Cassette.load path with
    | .error failure => return .error (.cassette failure)
    | .ok c => return (← (command.run options).played c.players).mapError .command

/-- Carries out what the arguments ask for. -/
def dispatch (workingDirectory : String) (environment : Variables) (i : Invocation) :
    Plan (Except ProgramFailure Unit) := do
  let start := i.workingDirectory.getD workingDirectory
  match ← Config.load i.config start fun name => List.lookup name environment with
  | .error failure => return .error (.config failure)
  | .ok c => perform (cassetteFile? environment) (c.options workingDirectory start) i.command

/-- The filter of the log: the one that the variables name, or else a level that is higher or lower
as the arguments say. There is none if a directive would be cut inside a character. -/
def logFilter? (environment : Variables) (verbose : Bool) : Option Log.Filter :=
  match (List.lookup "RUST_LOG" environment).map Log.Filter.ofText with
  | some (.ok filter) => some filter
  | some (.error .torn) => none
  | _ => some (.upTo (if verbose then .debug else .warn))

/-- How the program ends. -/
inductive Ending where
  /-- The arguments are refused, or ask for the help or the version. -/
  | refused (error : ArgumentError)
  /-- The command failed. -/
  | failed (failure : ProgramFailure)
  /-- The command was carried out. -/
  | finished

/-- The exit code of an ending. -/
def Ending.exitCode : Ending → Nat
  | refused .help => 0
  | refused .version => 0
  | refused _ => 1
  | failed _ => 1
  | finished => 0

/-- The exit code of a program that gives up. -/
def abortCode : Nat := 101

/-- A run of the program. -/
def run (workingDirectory : String) (environment : Variables) (arguments : List String) :
    Plan Ending := do
  let environment ← Environment.load workingDirectory environment
  match Invocation.ofArguments arguments with
  | .error e => return .refused e
  | .ok i =>
    match logFilter? environment i.verbose with
    | none => Plan.abort "a piece of a directive for the log begins or ends inside a character"
    | some filter =>
      match ← (dispatch workingDirectory environment i).filterLog filter with
      | .error failure => return .failed failure
      | .ok () => return .finished

end Program

end Cadastre
