import Cadastre.Modules.Registry

/-!
# What a scan is told

Where the search for the repository begins and how far up it goes, where routers and schema are
inside a repository, and where the registry of admin modules comes from.
-/

namespace Cadastre

/-- Where things are inside a repository. -/
structure Layout where
  /-- The directory of the router sources. -/
  routersDir : String := "apps/backend/app/api/routers"
  /-- The file with the schema. -/
  schemaFile : String := "db/schema.sql"
  /-- The extension of router sources, without a point. -/
  routerExtension : String := "py"
deriving DecidableEq, Repr

/-- Where the registry of admin modules comes from. -/
inductive ModuleSource where
  /-- The registry of the dashboard. -/
  | builtin
  /-- A registry that is given. -/
  | inline (registry : Registry)
  /-- A file with a registry. -/
  | file (path : String)

/-- How many directories around the start are searched unless something else is said. -/
def defaultDepth : Nat := 3

/-- What a scan is told. -/
structure Options where
  /-- The directory that relative starts are in. -/
  workingDirectory : String
  /-- Where the search for the repository begins. -/
  start : String
  /-- How many directories around the start are searched. -/
  depth : Nat := defaultDepth
  /-- Where things are inside a repository. -/
  layout : Layout := {}
  /-- Where the registry of admin modules comes from. -/
  modules : ModuleSource := .builtin

end Cadastre
