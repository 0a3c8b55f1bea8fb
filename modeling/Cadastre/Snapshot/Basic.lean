import Cadastre.Time.Instant

/-!
# Documentation snapshots

A snapshot records what one scan of a repository found: the HTTP routes its routers declare, the
tables of its database schema, its admin modules, and a warning for each stage that gave less than
it should. Routes, tables and modules are what the search, the comparison and the reports work on.
-/

namespace Cadastre

/-- An HTTP method of a route. -/
inductive Method where
  | get
  | post
  | patch
  | delete
  | put
deriving DecidableEq, Repr

namespace Method

/-- The name of a method, in capitals. -/
def name : Method → String
  | get => "GET"
  | post => "POST"
  | patch => "PATCH"
  | delete => "DELETE"
  | put => "PUT"

/-- The methods, in the order in which they are offered to a reader of saved snapshots. -/
def all : List Method := [get, post, patch, delete, put]

/-- The name of a method as a router source spells it. -/
def keyword : Method → String
  | get => "get"
  | post => "post"
  | patch => "patch"
  | delete => "delete"
  | put => "put"

end Method

/-- What a handler asks of its caller's identity. -/
inductive Auth where
  /-- A known user. -/
  | userId
  /-- A full user record. -/
  | fullUser
  /-- Nothing that is known here. -/
  | anyone
deriving DecidableEq, Repr

namespace Auth

/-- The name of the requirement. -/
def name : Auth → String
  | userId => "require_user_id"
  | fullUser => "require_supabase_user"
  | anyone => "none"

/-- The requirements, in the order in which they are offered to a reader of saved snapshots. -/
def all : List Auth := [userId, fullUser, anyone]

end Auth

/-- An HTTP route. -/
structure Route where
  /-- The HTTP method. -/
  method : Method
  /-- The path template as declared. -/
  path : String
  /-- The status of a successful answer. -/
  status : UInt16
  /-- What the handler asks of its caller's identity. -/
  auth : Auth
  /-- The router file, relative to the repository. -/
  sourceFile : String
  /-- The name of the handler. -/
  handler : String
deriving DecidableEq, Repr

/-- A column of a table. -/
structure Column where
  /-- The name, without quotes. -/
  name : String
  /-- The declared type, without what follows it. -/
  type : String
  /-- Whether the column may be null. -/
  nullable : Bool
deriving DecidableEq, Repr

/-- A table of the schema. -/
structure Table where
  /-- The name, without quotes and without the default schema. -/
  name : String
  /-- The columns in the order of their declaration. -/
  columns : List Column
deriving DecidableEq, Repr

/-- An admin module. -/
structure AdminModule where
  /-- The name in addresses. -/
  slug : String
  /-- The label in the primary language. -/
  label : String
  /-- The English label. -/
  labelEn : String
  /-- The endpoint behind the module. -/
  endpoint : String
  /-- The description in the primary language. -/
  description : String
  /-- The English description. -/
  descriptionEn : String
deriving DecidableEq, Repr

/-- A stage of a scan that can warn. -/
inductive Stage where
  /-- The scan of the routers. -/
  | api
  /-- The scan of the schema. -/
  | db
  /-- The registry of admin modules. -/
  | modules
  /-- The search for the repository. -/
  | runtime
deriving DecidableEq, Repr

namespace Stage

/-- The name of a stage. -/
def name : Stage → String
  | api => "api"
  | db => "db"
  | modules => "modules"
  | runtime => "runtime"

/-- The stages, in the order in which they are offered to a reader of saved snapshots. -/
def all : List Stage := [api, db, modules, runtime]

end Stage

/-- A notice that a stage gave less than it should. -/
structure Warning where
  /-- The stage that warns. -/
  source : Stage
  /-- What happened. -/
  message : String
  /-- The error behind it, or where it happened. -/
  detail : Option String := none
deriving DecidableEq, Repr

/-- Everything that one scan found. -/
structure Snapshot where
  /-- When the scan ended. -/
  generatedAt : Instant
  /-- The routes, in documented order. -/
  routes : List Route
  /-- The tables, by name. -/
  tables : List Table
  /-- The admin modules, by slug. -/
  modules : List AdminModule
  /-- The warnings, in the order in which they were raised. -/
  warnings : List Warning
deriving DecidableEq

end Cadastre
