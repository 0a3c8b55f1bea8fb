import Cadastre.Snapshot.Diff
import Cadastre.Time.Writer

/-!
# Reports

Two texts for the terminal: what changed between two snapshots, and how much one snapshot holds,
with its warnings. Neither ends with a newline.
-/

namespace Cadastre

/-- Items on lines of their own, each after a marker. -/
def marked (marker : String) (items : List String) : List String :=
  items.map fun item => s!"  {marker} {item}"

/-- A titled list of marked items; nothing if there are no items. -/
def titled (title marker : String) (items : List String) : List String :=
  if items.isEmpty then [] else s!"{title}:" :: marked marker items

/-- The lines about a changed route. -/
def RouteChange.lines (c : RouteChange) : List String :=
  s!"Changed route: {c.route}" :: marked "~" c.changes

/-- The lines about a changed table. -/
def TableChange.lines (c : TableChange) : List String :=
  s!"Changed table: {c.name}" ::
    (marked "+" c.added ++ marked "-" c.removed ++ marked "~" c.altered)

/-- The lines about what changed. -/
def Diff.lines (d : Diff) : List String :=
  titled "Added routes" "+" d.addedRoutes ++
    titled "Removed routes" "-" d.removedRoutes ++
    d.changedRoutes.flatMap RouteChange.lines ++
    titled "Added tables" "+" d.addedTables ++
    titled "Removed tables" "-" d.removedTables ++
    d.changedTables.flatMap TableChange.lines ++
    titled "Added modules" "+" d.addedModules ++
    titled "Removed modules" "-" d.removedModules

/-- The report on what changed. -/
def Diff.report (d : Diff) : String :=
  if d.isEmpty then "No changes since last snapshot." else "\n".intercalate d.lines

/-- A warning in one line. -/
def Warning.line (w : Warning) : String :=
  match w.detail with
  | some detail => s!"  [{w.source.name}] {w.message} ({detail})"
  | none => s!"  [{w.source.name}] {w.message}"

/-- How much a snapshot holds, and its warnings. -/
def Snapshot.summary (s : Snapshot) : String :=
  "\n".intercalate <|
    [ s!"Generated: {s.generatedAt.offsetText}",
      s!"Routes:   {s.routes.length}",
      s!"Tables:   {s.tables.length}",
      s!"Modules:  {s.modules.length}",
      s!"Warnings: {s.warnings.length}" ] ++ s.warnings.map Warning.line

end Cadastre
