import Cadastre.Saved.Snapshot
import Cadastre.Scan.Snapshot
import Cadastre.Snapshot.Filter
import Cadastre.Snapshot.Report

/-!
# Commands

Three commands: building a snapshot and printing or saving it, summing one up, and comparing a saved
one with a fresh one. Nothing is printed and nothing saved unless everything before went well.
-/

namespace Cadastre

/-- A command. -/
inductive Command where
  /-- Builds a snapshot, narrowed by a query, and prints it or saves it. -/
  | build (format : Format) (query output : Option String)
  /-- Sums up a snapshot, narrowed by a query. -/
  | summary (query : Option String)
  /-- Compares a saved snapshot with a fresh one. -/
  | diff (previous : String)
deriving DecidableEq, Repr

/-- Why a command fails. -/
inductive CommandFailure where
  /-- The snapshot cannot be saved. -/
  | writing (path message : String)
  /-- The saved snapshot cannot be read. -/
  | readingPrevious (path message : String)
  /-- The saved text is no snapshot. -/
  | parsingPrevious (path : String) (failure : Failure)

/-- The failure in words. -/
def CommandFailure.text : CommandFailure → String
  | writing path message => s!"failed to write snapshot to {path}: {message}"
  | readingPrevious path message => s!"failed to read previous snapshot at {path}: {message}"
  | parsingPrevious path failure => s!"failed to parse previous snapshot {path}: {failure.text}"

/-- The format of a saved snapshot, by the extension of its name: JSON if it is `json` in any case
of its letters, and YAML otherwise. -/
def formatOf (path : String) : Format :=
  if (Path.extension? path).any fun e => Text.sameAsciiWord e "json" then .json else .yaml

/-- The snapshot that was saved at a path as a text. -/
def parseSaved (path text : String) : Except CommandFailure Snapshot :=
  match Snapshot.decodeText (formatOf path) text with
  | .ok s => .ok s
  | .error f => .error (.parsingPrevious path f)

namespace Command

/-- A fresh snapshot, narrowed by a query. -/
def take (options : Options) (query : Option String) : Plan Snapshot := do
  let s ← Scan.snapshot options
  pure (query.elim s s.filter)

/-- Builds a snapshot and prints it, or saves it at a path. -/
def runBuild (options : Options) (format : Format) (query output : Option String) :
    Plan (Except CommandFailure Unit) := do
  let s ← take options query
  match output with
  | none =>
    Plan.print (s.render format)
    pure (.ok ())
  | some path =>
    match ← Plan.write path (s.render format) with
    | .error message => pure (.error (.writing path message))
    | .ok () =>
      Plan.log
        { level := .info
          target := "docsnap::commands::build"
          message := "wrote snapshot"
          fields := [("path", path), ("routes", toString s.routes.length)] }
      pure (.ok ())

/-- Sums up a snapshot. -/
def runSummary (options : Options) (query : Option String) :
    Plan (Except CommandFailure Unit) := do
  let s ← take options query
  Plan.print (s.summary ++ "\n")
  pure (.ok ())

/-- Compares a saved snapshot with a fresh one. -/
def runDiff (options : Options) (previous : String) : Plan (Except CommandFailure Unit) := do
  match ← Plan.read previous with
  | .error message => pure (.error (.readingPrevious previous message))
  | .ok text =>
    match parseSaved previous text with
    | .error e => pure (.error e)
    | .ok old =>
      let new ← Scan.snapshot options
      Plan.print ((old.diff new).report ++ "\n")
      pure (.ok ())

/-- Runs a command. -/
def run (options : Options) : Command → Plan (Except CommandFailure Unit)
  | build format query output => runBuild options format query output
  | summary query => runSummary options query
  | diff previous => runDiff options previous

end Command

end Cadastre
