import Cadastre.Proofs.World.Storage
import Cadastre.Scan.Snapshot

/-!
# What a scan finds

The outcome of every stage of a scan is a function of the storage, and the snapshot is put together
from these outcomes alone. The main statement is that a scan ends well in every storage, with this
snapshot.
-/

namespace Cadastre

open Plan Scan

namespace Storage

variable {α β : Type} {storage : Storage} {time : Instant}

/-! ## Stages as functions -/

/-- Whether a directory holds both routers and schema. -/
def holdsBoth (storage : Storage) (layout : Layout) (candidate : String) : Bool :=
  storage.probe (Path.join candidate layout.routersDir) &&
    storage.probe (Path.join candidate layout.schemaFile)

/-- The root of the repository: the first directory that holds both. -/
def root? (storage : Storage) (options : Options) : Option String :=
  (candidates options.workingDirectory options.start options.depth).find?
    (storage.holdsBoth options.layout)

/-- The text of a file, or the failure to read it. -/
def readFile (storage : Storage) (path : String) : Outcome String :=
  (storage.read path).mapError (.reading path)

/-- The routes of a router source in a directory. -/
def routesOfFile (storage : Storage) (dir folder name : String) : Outcome (List Route) :=
  (storage.readFile (Path.join dir name)).map (Router.routes (folder ++ "/" ++ name))

/-- The routes below a root. -/
def routes (storage : Storage) (root : String) (layout : Layout) : Outcome (List Route) := do
  let dir := Path.join root layout.routersDir
  let names ← (storage.list dir).mapError (.listing dir)
  let found ← (routerNames layout.routerExtension names).mapM
    (storage.routesOfFile dir (sourceFolder layout.routersDir))
  pure (Route.sort found.flatten)

/-- The tables below a root. -/
def tables (storage : Storage) (root : String) (layout : Layout) : Outcome (List Table) :=
  (storage.readFile (Path.join root layout.schemaFile)).map Schema.tables

/-- The registry that a source gives. -/
def registry (storage : Storage) : ModuleSource → Outcome Registry
  | .builtin => .ok Registry.builtin
  | .inline registry => .ok registry
  | .file path => do
    let text ← storage.readFile path
    (Registry.decodeText text).mapError (.registry path)

/-- The modules that a source gives. -/
def modules (storage : Storage) (source : ModuleSource) : Outcome (List AdminModule) :=
  (storage.registry source).map Registry.document

end Storage

namespace Scan

variable {α : Type}

/-! ## Putting the snapshot together -/

/-- The entries that a stage adds to the snapshot. -/
def entriesOf : Outcome (List α) → List α
  | .ok entries => entries
  | .error _ => []

/-- The warning that a stage failed, if it did. -/
def failureWarnings (source : Stage) (message : String) : Outcome (List α) → List Warning
  | .ok _ => []
  | .error e => [⟨source, message, some e.text⟩]

/-- The warning that a list is empty, if it is. -/
def emptyWarnings (source : Stage) (message : String) (entries : List α) : List Warning :=
  if entries.isEmpty then [⟨source, message, none⟩] else []

/-- The warning that the modules could not be loaded, if so. -/
def moduleWarnings (modules : Outcome (List AdminModule)) : List Warning :=
  failureWarnings .modules "Could not parse module definitions." modules

/-- The warning that no repository was found. -/
def rootWarning (options : Options) : Warning :=
  ⟨.runtime, "Could not resolve repository root for API/DB scanning.",
    some s!"cwd={Path.absolute options.workingDirectory options.start}"⟩

/-- The warnings about the routers and the schema of a repository. -/
def repositoryWarnings (layout : Layout) (routes : Outcome (List Route))
    (tables : Outcome (List Table)) : List Warning :=
  failureWarnings .api "Could not parse backend routers." routes ++
    failureWarnings .db "Could not parse database schema." tables ++
    emptyWarnings .api "No API routes were discovered from router source files."
      (entriesOf routes) ++
    emptyWarnings .db s!"No database tables were discovered from {schemaName layout.schemaFile}."
      (entriesOf tables)

end Scan

namespace Storage

variable {α β : Type} {storage : Storage} {time : Instant}

/-- The snapshot of what is found in a storage. -/
def snapshot (storage : Storage) (options : Options) (time : Instant) : Snapshot :=
  let modules := storage.modules options.modules
  match storage.root? options with
  | none => ⟨time, [], [], entriesOf modules, moduleWarnings modules ++ [rootWarning options]⟩
  | some root =>
    let routes := storage.routes root options.layout
    let tables := storage.tables root options.layout
    ⟨time, entriesOf routes, entriesOf tables, entriesOf modules,
      moduleWarnings modules ++ repositoryWarnings options.layout routes tables⟩

theorem snapshot_of_no_root {options : Options} (h : storage.root? options = none) :
    storage.snapshot options time =
      ⟨time, [], [], entriesOf (storage.modules options.modules),
        moduleWarnings (storage.modules options.modules) ++ [rootWarning options]⟩ := by
  simp only [snapshot, h]

theorem snapshot_of_root {options : Options} {root : String}
    (h : storage.root? options = some root) :
    storage.snapshot options time =
      ⟨time, entriesOf (storage.routes root options.layout),
        entriesOf (storage.tables root options.layout),
        entriesOf (storage.modules options.modules),
        moduleWarnings (storage.modules options.modules) ++
          repositoryWarnings options.layout (storage.routes root options.layout)
            (storage.tables root options.layout)⟩ := by
  simp only [snapshot, h]

/-! ## The outcome of a plan -/

/-- A plan ends in a storage with an outcome, and writes nothing. -/
def Gives (storage : Storage) (time : Instant) (p : Plan α) (a : α) : Prop :=
  ∀ w, ∃ requests, run (storage.world time) p w = ⟨.ok a, w, requests⟩

theorem gives_pure (a : α) : storage.Gives time (pure a) a :=
  fun _ => ⟨[], rfl⟩

theorem gives_probe (path : String) : storage.Gives time (Plan.probe path) (storage.probe path) :=
  fun _ => ⟨[_], rfl⟩

theorem gives_read (path : String) : storage.Gives time (Plan.read path) (storage.read path) :=
  fun _ => ⟨[_], rfl⟩

theorem gives_list (path : String) : storage.Gives time (Plan.list path) (storage.list path) :=
  fun _ => ⟨[_], rfl⟩

theorem gives_now : storage.Gives time Plan.now time :=
  fun _ => ⟨[_], rfl⟩

theorem gives_log (entry : Log.Entry) : storage.Gives time (Plan.log entry) () :=
  fun _ => ⟨[_], rfl⟩

theorem Gives.bind {p : Plan α} {k : α → Plan β} {a : α} {b : β} (hp : storage.Gives time p a)
    (hk : storage.Gives time (k a) b) : storage.Gives time (p >>= k) b := by
  intro w
  obtain ⟨first, hfirst⟩ := hp w
  obtain ⟨second, hsecond⟩ := hk w
  exact ⟨first ++ second, by rw [run_bind_of_ok hfirst, hsecond]⟩

/-- A plan has one outcome in a storage. -/
theorem Gives.unique {p : Plan α} {a b : α} (ha : storage.Gives time p a)
    (hb : storage.Gives time p b) : a = b := by
  obtain ⟨_, ha⟩ := ha []
  obtain ⟨_, hb⟩ := hb []
  rw [ha] at hb
  simpa using congrArg Plan.Run.outcome hb

/-! ## Stages -/

theorem gives_holdsBoth (layout : Layout) (candidate : String) :
    storage.Gives time (Scan.holdsBoth layout candidate) (storage.holdsBoth layout candidate) := by
  refine (gives_probe _).bind ?_
  rw [holdsBoth]
  cases storage.probe (Path.join candidate layout.routersDir) with
  | false => exact gives_pure _
  | true => exact gives_probe _

theorem gives_firstRoot? (layout : Layout) (candidates : List String) :
    storage.Gives time (firstRoot? layout candidates)
      (candidates.find? (storage.holdsBoth layout)) := by
  induction candidates with
  | nil => exact gives_pure _
  | cons candidate rest ih =>
    refine (gives_holdsBoth layout candidate).bind ((gives_log _).bind ?_)
    rw [List.find?_cons]
    cases storage.holdsBoth layout candidate with
    | false => exact ih
    | true => exact gives_pure _

theorem gives_readRouters (dir folder : String) (names : List String) :
    storage.Gives time (readRouters dir folder names)
      ((names.mapM (storage.routesOfFile dir folder)).map List.flatten) := by
  induction names with
  | nil => exact gives_pure _
  | cons name names ih =>
    refine (gives_read (Path.join dir name)).bind ?_
    rw [List.mapM_cons, routesOfFile, readFile]
    cases storage.read (Path.join dir name) with
    | error message => exact gives_pure _
    | ok content =>
      refine (gives_log _).bind (ih.bind ?_)
      cases names.mapM (storage.routesOfFile dir folder) with
      | error e => exact gives_pure _
      | ok found => exact gives_pure _

theorem gives_routes (root : String) (layout : Layout) :
    storage.Gives time (Scan.routes root layout.routersDir layout.routerExtension)
      (storage.routes root layout) := by
  refine (gives_list (Path.join root layout.routersDir)).bind ?_
  rw [routes]
  cases storage.list (Path.join root layout.routersDir) with
  | error message => exact gives_pure _
  | ok names =>
    show storage.Gives time _ ((routerNames layout.routerExtension names).mapM
      (storage.routesOfFile (Path.join root layout.routersDir) (sourceFolder layout.routersDir)) >>=
        fun found => pure (Route.sort found.flatten))
    refine (gives_readRouters _ _ _).bind ?_
    cases (routerNames layout.routerExtension names).mapM (storage.routesOfFile _ _) with
    | error e => exact gives_pure _
    | ok found => exact gives_pure _

theorem gives_tables (root : String) (layout : Layout) :
    storage.Gives time (Scan.tables root layout.schemaFile) (storage.tables root layout) := by
  refine (gives_read (Path.join root layout.schemaFile)).bind ?_
  rw [tables, readFile]
  cases storage.read (Path.join root layout.schemaFile) with
  | error message => exact gives_pure _
  | ok content => exact (gives_log _).bind (gives_pure _)

theorem gives_registry (source : ModuleSource) :
    storage.Gives time (Scan.registry source) (storage.registry source) := by
  cases source with
  | builtin => exact gives_pure _
  | inline registry => exact gives_pure _
  | file path =>
    refine (gives_read path).bind ?_
    rw [registry, readFile]
    cases storage.read path with
    | error message => exact gives_pure _
    | ok text =>
      show storage.Gives time _ ((Registry.decodeText text).mapError (StageFailure.registry path))
      dsimp only
      cases Registry.decodeText text with
      | error failure => exact gives_pure _
      | ok registry => exact gives_pure _

theorem gives_modules (source : ModuleSource) :
    storage.Gives time (Scan.modules source) (storage.modules source) := by
  refine (gives_registry source).bind ?_
  rw [modules]
  cases storage.registry source with
  | error e => exact gives_pure _
  | ok registry => exact gives_pure _

/-! ## The snapshot -/

theorem gives_orWarn {source : Stage} {message : String} {stage : Plan (Outcome (List α))}
    {outcome : Outcome (List α)} (h : storage.Gives time stage outcome) :
    storage.Gives time (orWarn source message stage)
      (entriesOf outcome, failureWarnings source message outcome) := by
  refine h.bind ?_
  cases outcome with
  | ok entries => exact gives_pure _
  | error e => exact (gives_log _).bind (gives_pure _)

theorem gives_warnIfEmpty (source : Stage) (message : String) (entries : List α) :
    storage.Gives time (warnIfEmpty source message entries)
      (emptyWarnings source message entries) := by
  rw [warnIfEmpty, emptyWarnings]
  split
  · exact (gives_log _).bind (gives_pure _)
  · exact gives_pure _

theorem gives_withRoot (root : String) (layout : Layout) (modules : List AdminModule)
    (warnings : List Warning) :
    storage.Gives time (withRoot root layout modules warnings)
      ⟨time, entriesOf (storage.routes root layout), entriesOf (storage.tables root layout),
        modules, warnings ++ repositoryWarnings layout (storage.routes root layout)
          (storage.tables root layout)⟩ := by
  refine (gives_log _).bind ?_
  refine (gives_orWarn (gives_routes root layout)).bind ?_
  refine (gives_orWarn (gives_tables root layout)).bind ?_
  refine (gives_warnIfEmpty _ _ _).bind ?_
  refine (gives_warnIfEmpty _ _ _).bind ?_
  refine (gives_log _).bind (gives_now.bind ?_)
  rw [repositoryWarnings, ← List.append_assoc, ← List.append_assoc, ← List.append_assoc]
  exact gives_pure _

/-- A scan ends well in every storage, with the snapshot of what is found there. -/
theorem gives_snapshot (options : Options) :
    storage.Gives time (Scan.snapshot options) (storage.snapshot options time) := by
  refine (gives_orWarn (gives_modules options.modules)).bind ?_
  refine (gives_firstRoot? options.layout _).bind ?_
  cases hroot : (candidates _ _ _).find? (storage.holdsBoth options.layout) with
  | none =>
    rw [snapshot_of_no_root hroot]
    exact (gives_log _).bind (gives_now.bind (gives_pure _))
  | some root =>
    rw [snapshot_of_root hroot]
    exact gives_withRoot root options.layout _ _

end Storage

/-- A scan ends with the snapshot of its storage. -/
theorem outcome_snapshot {storage : Storage} {options : Options} {time : Instant} {w : Written} :
    (run (storage.world time) (Scan.snapshot options) w).outcome =
      .ok (storage.snapshot options time) := by
  obtain ⟨requests, hrun⟩ := Storage.gives_snapshot options w
  rw [hrun]

end Cadastre
