import Cadastre.Snapshot.Basic

/-!
# Comparing snapshots

Routes are compared by method, path and file, tables and their columns by name, and modules by
slug. Where a key occurs more than once, the last entry stands for it. Every list of a comparison
is in ascending order of its keys.
-/

namespace Cadastre

/-! ## Entries by key -/

/-- Entries in strictly ascending order of their keys, one for each key. -/
abbrev Index (α : Type) := List (String × α)

namespace Index

variable {α β : Type}

/-- The index with an entry put under a key, in place of the one that was there. -/
def insert (key : String) (entry : α) : Index α → Index α
  | [] => [(key, entry)]
  | (k, e) :: rest =>
    if key < k then (key, entry) :: (k, e) :: rest
    else if key = k then (key, entry) :: rest
    else (k, e) :: insert key entry rest

/-- The entries of a list under their keys; of entries with equal keys the last one stays. -/
def ofList (key : α → String) (entries : List α) : Index α :=
  entries.foldl (fun index entry => index.insert (key entry) entry) []

/-- The entry under a key. -/
def get? (index : Index α) (key : String) : Option α := List.lookup key index

/-- The keys that have no entry in the other index. -/
def keysMissingIn (index : Index α) (other : Index β) : List String :=
  (index.map Prod.fst).filter fun key => (other.get? key).isNone

/-- The results of comparing the entries that stand under the same key in both indices, in the
order of the keys, as far as the comparison gives any. -/
def compareShared {γ : Type} (old new : Index α) (compare : α → α → Option γ) : List γ :=
  new.filterMap fun (key, entry) => (old.get? key).bind fun before => compare before entry

end Index

/-! ## What a comparison finds -/

/-- The changed fields of one route. -/
structure RouteChange where
  /-- The key of the route. -/
  route : String
  /-- What changed, field by field. -/
  changes : List String
deriving DecidableEq, Repr

/-- The changed columns of one table. -/
structure TableChange where
  /-- The name of the table. -/
  name : String
  /-- The columns that are new. -/
  added : List String
  /-- The columns that are gone. -/
  removed : List String
  /-- The columns with another type or nullability. -/
  altered : List String
deriving DecidableEq, Repr

/-- What changed from one snapshot to another. -/
structure Diff where
  /-- The keys of the new routes. -/
  addedRoutes : List String
  /-- The keys of the routes that are gone. -/
  removedRoutes : List String
  /-- The routes with another status, requirement or handler. -/
  changedRoutes : List RouteChange
  /-- The names of the new tables. -/
  addedTables : List String
  /-- The names of the tables that are gone. -/
  removedTables : List String
  /-- The tables with other columns. -/
  changedTables : List TableChange
  /-- The slugs of the new modules. -/
  addedModules : List String
  /-- The slugs of the modules that are gone. -/
  removedModules : List String
deriving DecidableEq, Repr

/-- The comparison that found nothing. -/
def Diff.empty : Diff := ⟨[], [], [], [], [], [], [], []⟩

/-- Whether nothing changed. -/
def Diff.isEmpty (d : Diff) : Bool := d == Diff.empty

/-! ## The comparison -/

/-- The key of a route; two files may declare the same method and path. -/
def Route.key (r : Route) : String := s!"{r.method.name} {r.path} ({r.sourceFile})"

/-- A column in one line. -/
def Column.describe (c : Column) : String :=
  s!"{c.name} {c.type} " ++ if c.nullable then "NULL" else "NOT NULL"

/-- A changed value. -/
def changeOf (field before after : String) : String := s!"{field}: {before} -> {after}"

/-- The changed fields of a route, if there are any. -/
def Route.change? (old new : Route) : Option RouteChange :=
  let status :=
    if old.status = new.status then []
    else [changeOf "status" (toString old.status.toNat) (toString new.status.toNat)]
  let auth := if old.auth = new.auth then [] else [changeOf "auth" old.auth.name new.auth.name]
  let handler :=
    if old.handler = new.handler then [] else [changeOf "handler" old.handler new.handler]
  match status ++ auth ++ handler with
  | [] => none
  | changes => some ⟨new.key, changes⟩

/-- What became of a column, if it changed. -/
def Column.change? (old new : Column) : Option String :=
  if old = new then none else some s!"{old.describe} -> {new.describe}"

/-- The changed columns of a table, if there are any. -/
def Table.change? (old new : Table) : Option TableChange :=
  let before := Index.ofList Column.name old.columns
  let after := Index.ofList Column.name new.columns
  let added := after.keysMissingIn before
  let removed := before.keysMissingIn after
  let altered := before.compareShared after Column.change?
  if added.isEmpty && removed.isEmpty && altered.isEmpty then none
  else some ⟨new.name, added, removed, altered⟩

/-- What changed from one snapshot to another. -/
def Snapshot.diff (old new : Snapshot) : Diff :=
  let oldRoutes := Index.ofList Route.key old.routes
  let newRoutes := Index.ofList Route.key new.routes
  let oldTables := Index.ofList Table.name old.tables
  let newTables := Index.ofList Table.name new.tables
  let oldModules := Index.ofList AdminModule.slug old.modules
  let newModules := Index.ofList AdminModule.slug new.modules
  { addedRoutes := newRoutes.keysMissingIn oldRoutes
    removedRoutes := oldRoutes.keysMissingIn newRoutes
    changedRoutes := oldRoutes.compareShared newRoutes Route.change?
    addedTables := newTables.keysMissingIn oldTables
    removedTables := oldTables.keysMissingIn newTables
    changedTables := oldTables.compareShared newTables Table.change?
    addedModules := newModules.keysMissingIn oldModules
    removedModules := oldModules.keysMissingIn newModules }

end Cadastre
