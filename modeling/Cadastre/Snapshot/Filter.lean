import Cadastre.Snapshot.Basic
import Cadastre.Text.Blank
import Cadastre.Text.Case
import Cadastre.Text.Search

/-!
# Searching a snapshot

A query keeps the entries one of whose fields contains it, letter case disregarded. A table whose
name contains the query is kept whole; any other table keeps the columns that contain it, and goes
if there are none. A blank query keeps everything.
-/

namespace Cadastre

/-- A query as it is compared: without blank characters at its ends, in lower case. -/
def needle (query : String) : List Char := Text.lower (Text.trim query.toList)

/-- Whether the lower case of one of the fields contains the needle. -/
def anyContains (needle : List Char) (fields : List String) : Bool :=
  fields.any fun field => Text.occursIn needle (Text.lower field.toList)

/-- The fields of a route that are searched. -/
def Route.searched (r : Route) : List String :=
  [r.method.name, r.path, r.handler, r.sourceFile, r.auth.name, toString r.status.toNat]

/-- The fields of a column that are searched. -/
def Column.searched (c : Column) : List String := [c.name, c.type]

/-- The fields of a module that are searched. -/
def AdminModule.searched (m : AdminModule) : List String :=
  [m.slug, m.label, m.labelEn, m.endpoint, m.description, m.descriptionEn]

/-- The fields of a warning that are searched. -/
def Warning.searched (w : Warning) : List String := w.source.name :: w.message :: w.detail.toList

/-- What a search leaves of a table. -/
def Table.narrow? (needle : List Char) (t : Table) : Option Table :=
  if anyContains needle [t.name] then some t
  else
    match t.columns.filter fun c => anyContains needle c.searched with
    | [] => none
    | columns => some { t with columns }

namespace Snapshot

/-- What a search for a needle that is not empty leaves of a snapshot. -/
def narrow (needle : List Char) (s : Snapshot) : Snapshot where
  generatedAt := s.generatedAt
  routes := s.routes.filter fun r => anyContains needle r.searched
  tables := s.tables.filterMap (Table.narrow? needle)
  modules := s.modules.filter fun m => anyContains needle m.searched
  warnings := s.warnings.filter fun w => anyContains needle w.searched

/-- What a query leaves of a snapshot. -/
def filter (s : Snapshot) (query : String) : Snapshot :=
  match needle query with
  | [] => s
  | needle => s.narrow needle

end Snapshot

end Cadastre
