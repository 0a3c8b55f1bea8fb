import Cadastre.Scan.Stages

/-!
# Scanning a repository

A scan runs its stages one after the other: the registry of admin modules, the search for the
repository, its routers, its schema. A stage that fails leaves its list empty and a warning; it
stops no other stage. Every warning is also put into the log, and the time is asked for last.
-/

namespace Cadastre.Scan

/-- Puts a warning into the log. -/
def warn (w : Warning) : Plan Unit :=
  Plan.log
    { level := .warn
      target := "docsnap::docs::snapshot"
      message := w.message
      fields := [("source", w.source.name), ("detail", Text.quoted (w.detail.getD ""))] }

/-- The outcome of a stage, or the empty list with a warning that says why it failed. -/
def orWarn {α : Type} (source : Stage) (message : String) (stage : Plan (Outcome (List α))) :
    Plan (List α × List Warning) := do
  match ← stage with
  | .ok entries => pure (entries, [])
  | .error e =>
    let w : Warning := ⟨source, message, some e.text⟩
    warn w
    pure ([], [w])

/-- A warning without detail if a list is empty. -/
def warnIfEmpty {α : Type} (source : Stage) (message : String) (entries : List α) :
    Plan (List Warning) := do
  if entries.isEmpty then
    let w : Warning := ⟨source, message, none⟩
    warn w
    pure [w]
  else pure []

/-- The admin modules as they are documented. -/
def modules (source : ModuleSource) : Plan (Outcome (List AdminModule)) := do
  match ← registry source with
  | .ok r => pure (.ok r.document)
  | .error e => pure (.error e)

/-- The name of the schema's file as it stands in a warning: what follows the last separator. -/
def schemaName (schemaFile : String) : String :=
  String.ofList (Text.lastPiece (fun c => c == '/' || c == '\\') schemaFile.toList)

/-- The snapshot of a repository that was not found. -/
def withoutRoot (options : Options) (modules : List AdminModule) (warnings : List Warning) :
    Plan Snapshot := do
  let start := Path.absolute options.workingDirectory options.start
  let w : Warning :=
    ⟨.runtime, "Could not resolve repository root for API/DB scanning.", some s!"cwd={start}"⟩
  warn w
  let time ← Plan.now
  pure ⟨time, [], [], modules, warnings ++ [w]⟩

/-- The snapshot of a repository. -/
def withRoot (root : String) (layout : Layout) (modules : List AdminModule)
    (warnings : List Warning) : Plan Snapshot := do
  Plan.log
    { level := .debug
      target := "docsnap::docs::snapshot"
      message := "resolved repository root"
      fields := [("root", root)] }
  let (routes, w₁) ← orWarn .api "Could not parse backend routers."
    (routes root layout.routersDir layout.routerExtension)
  let (tables, w₂) ← orWarn .db "Could not parse database schema."
    (tables root layout.schemaFile)
  let w₃ ← warnIfEmpty .api "No API routes were discovered from router source files." routes
  let w₄ ← warnIfEmpty .db
    s!"No database tables were discovered from {schemaName layout.schemaFile}." tables
  let warnings := warnings ++ w₁ ++ w₂ ++ w₃ ++ w₄
  Plan.log
    { level := .debug
      target := "docsnap::docs::snapshot"
      message := "built documentation snapshot"
      fields :=
        [ ("routes", toString routes.length), ("tables", toString tables.length),
          ("modules", toString modules.length), ("warnings", toString warnings.length) ] }
  let time ← Plan.now
  pure ⟨time, routes, tables, modules, warnings⟩

/-- The snapshot that a scan takes. -/
def snapshot (options : Options) : Plan Snapshot := do
  let (modules, warnings) ← orWarn .modules "Could not parse module definitions."
    (modules options.modules)
  match ← root? options.workingDirectory options.start options.depth options.layout with
  | none => withoutRoot options modules warnings
  | some root => withRoot root options.layout modules warnings

end Cadastre.Scan
