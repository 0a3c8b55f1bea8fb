import Std.Time.DateTime.Timestamp
import Cadastre.Program
import Cadastre.World.Disk

/-!
# The command line program

Carries out the plan of a run on the machine: files and directories are those of the machine, the
time is its time, entries of the log go to the standard error output.
-/

open Cadastre

namespace Cadastre.Machine

/-- An error of the system in words, with its number, which may be given as a negative one. -/
def numbered (number : UInt32) (details : String) : String :=
  let n := if number.toNat < Nat.pow 2 31 then number.toNat else Nat.pow 2 32 - number.toNat
  details.capitalize ++ s!" (os error {n})"

/-- An error of the machine in words. -/
def errorText : IO.Error → String
  | .alreadyExists _ n d => numbered n d
  | .otherError n d => numbered n d
  | .resourceBusy n d => numbered n d
  | .resourceVanished n d => numbered n d
  | .unsupportedOperation n d => numbered n d
  | .hardwareFault n d => numbered n d
  | .unsatisfiedConstraints n d => numbered n d
  | .illegalOperation n d => numbered n d
  | .protocolError n d => numbered n d
  | .timeExpired n d => numbered n d
  | .interrupted _ n d => numbered n d
  | .noFileOrDirectory _ n d => numbered n d
  | .invalidArgument _ n d => numbered n d
  | .permissionDenied _ n d => numbered n d
  | .resourceExhausted _ n d => numbered n d
  | .inappropriateType _ n d => numbered n d
  | .noSuchThing _ n d => numbered n d
  | .unexpectedEof => "unexpected end of file"
  | .userError text => text

/-- The outcome of an action, or its error in words. -/
def orText {α : Type} (action : IO α) : IO (Except String α) := do
  match ← action.toBaseIO with
  | .ok a => return .ok a
  | .error e => return .error (errorText e)

/-- Whether an action succeeds. -/
def succeeds {α : Type} (action : IO α) : IO Bool := do
  match ← action.toBaseIO with
  | .ok _ => return true
  | .error _ => return false

/-- Whether something is at a path. -/
def probe (path : String) : IO Bool := succeeds (IO.FS.Handle.mk path .read)

/-- Whether a file is at a path. -/
def isFile (path : String) : IO Bool := succeeds do
  let handle ← IO.FS.Handle.mk path .read
  handle.read 1

/-- What a file says. -/
def readStored (path : String) : IO (Except String StoredText) := do
  return (← orText (IO.FS.readBinFile path)).map StoredText.ofBytes

/-- The text of a file. -/
def readText (path : String) : IO (Except String String) := do
  match ← readStored path with
  | .error e => return .error e
  | .ok stored =>
    match stored.text? with
    | some text => return .ok text
    | none => return .error DiskFault.notText.text

/-- The text of a file up to the first line that is no text. -/
def readStart (path : String) : IO (Except String String) := do
  return (← readStored path).map StoredText.start

/-- The names in a directory, in ascending order. -/
def listNames (path : String) : IO (Except String (List String)) := orText do
  let here ← IO.currentDir
  let found ← (here / path).readDir
  return sortByKey id (found.toList.map fun e => e.fileName)

/-- Puts a text into a file, and makes the directories above it. -/
def writeText (path text : String) : IO (Except String Unit) := orText do
  match Path.parent? path with
  | none => pure ()
  | some above =>
    if above.isEmpty then pure () else IO.FS.createDirAll above
  IO.FS.writeFile path text

/-- The time of the machine. -/
def time : IO Instant := do
  let t ← Std.Time.Timestamp.now
  let nanos : Int := t.toNanosecondsSinceUnixEpoch.val
  return (Instant.ofSeconds? (nanos / 1000000000) (nanos % 1000000000).toNat).getD .epoch

/-- Answers a request of a plan. -/
def answer : (q : Request) → IO q.Answer
  | .probe path => probe path
  | .isFile path => isFile path
  | .read path => readText path
  | .readStart path => readStart path
  | .list path => listNames path
  | .write path text => writeText path text
  | .now => time
  | .log entry => IO.eprintln entry.line
  | .print text => IO.print text
  | .abort message => throw (IO.userError message)

/-- Carries out a plan. -/
def perform {α : Type} : Plan α → IO α
  | .done a => return a
  | .ask q k => do
    let r ← answer q
    perform (k r)

/-- A variable and its value in a text with an equals sign between them. -/
def variableOf? (text : String) : Option (String × String) :=
  match Text.cut? ['='] text.toList with
  | some (name, value) => some (String.ofList name, String.ofList value)
  | none => none

/-- The variables of the environment. -/
def environment : IO Variables := do
  match ← readText "/proc/self/environ" with
  | .error _ => return []
  | .ok text => return (text.splitOn "\x00").filterMap variableOf?

/-- Ends the program in its way, and gives its exit code. -/
def finish (ending : Program.Ending) : IO UInt32 := do
  match ending with
  | .refused .help => IO.print Cli.usage
  | .refused .version => IO.print Program.versionText
  | .refused e => IO.eprintln s!"error: {e.text}\n\n{Cli.usage}"
  | .failed failure => IO.eprintln failure.text
  | .finished => pure ()
  return UInt32.ofNat ending.exitCode

end Cadastre.Machine

/-- Runs the program with the arguments of the command line. -/
def main (arguments : List String) : IO UInt32 := do
  let here ← IO.currentDir
  let environment ← Machine.environment
  match ← (Machine.perform (Program.run here.toString environment arguments)).toBaseIO with
  | .ok ending => Machine.finish ending
  | .error e =>
    IO.eprintln (Machine.errorText e)
    return UInt32.ofNat Program.abortCode
