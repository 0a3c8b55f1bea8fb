import Cadastre.Proofs.Scan.Found
import Cadastre.Proofs.Scan.Looks
import Cadastre.World.Tree
import Mathlib.Tactic.SplitIfs

/-!
# The stages of a scan do not reach into each other

Two storages that differ in what one stage looks at give snapshots that differ in that stage's list
and warnings only, whatever the other stages find and however any of them fails. The warnings of the
other stages are the same and stand in the same order.
-/

namespace Cadastre

open Plan Scan

namespace Storage

variable {α : Type} {a b : Storage} {options : Options} {root : String} {time : Instant}

/-! ## Storages that differ -/

/-- Two storages that differ at most in reading some paths and in listing others. -/
structure DifferIn (a b : Storage) (reading listing : String → Prop) : Prop where
  probe : ∀ path, a.probe path = b.probe path
  read : ∀ path, a.read path ≠ b.read path → reading path
  list : ∀ path, a.list path ≠ b.list path → listing path

theorem DifferIn.read_eq {reading listing : String → Prop} (h : a.DifferIn b reading listing)
    {path : String} (hpath : ¬ reading path) : a.read path = b.read path := by
  by_contra hne
  exact hpath (h.read path hne)

theorem DifferIn.list_eq {reading listing : String → Prop} (h : a.DifferIn b reading listing)
    {path : String} (hpath : ¬ listing path) : a.list path = b.list path := by
  by_contra hne
  exact hpath (h.list path hne)

/-! ## The paths of a scan -/

/-- Whether a path is that of the schema, however it is spelled. -/
def IsSchema (storage : Storage) (options : Options) (path : String) : Prop :=
  ∃ root, storage.root? options = some root ∧
    Tree.steps path = Tree.steps (Path.join root options.layout.schemaFile)

/-- Whether a path is that of the directory with the routers. -/
def IsRouters (storage : Storage) (options : Options) (path : String) : Prop :=
  ∃ root, storage.root? options = some root ∧
    Tree.steps path = Tree.steps (Path.join root options.layout.routersDir)

/-- Whether a path is directly in the directory with the routers. -/
def IsInRouters (storage : Storage) (options : Options) (path : String) : Prop :=
  ∃ root name, storage.root? options = some root ∧
    Tree.steps path = Tree.steps (Path.join root options.layout.routersDir) ++ [name]

/-- The files that are read for the routes below a root. -/
def routersRead (storage : Storage) (options : Options) (root : String) : List String :=
  let layout := options.layout
  (run (storage.world Instant.epoch)
    (Scan.routes root layout.routersDir layout.routerExtension) []).requests.filterMap fun
      | .read file => some file
      | _ => none

/-- Whether a path is that of a router source that is read. -/
def IsReadRouter (storage : Storage) (options : Options) (path : String) : Prop :=
  ∃ root file, storage.root? options = some root ∧ file ∈ storage.routersRead options root ∧
    Tree.steps path = Tree.steps file

end Storage

/-- Whether a path is that of the registry. -/
def Options.IsRegistry (options : Options) (path : String) : Prop :=
  ∃ file, options.modules = .file file ∧ Tree.steps path = Tree.steps file

/-- Whether something is looked for at a path in the search for the repository. -/
def Options.Probes (options : Options) (path : String) : Prop :=
  ∃ candidate ∈ candidates options.workingDirectory options.start options.depth,
    path = Path.join candidate options.layout.routersDir ∨
      path = Path.join candidate options.layout.schemaFile

namespace Storage

variable {α : Type} {a b : Storage} {options : Options} {root : String} {time : Instant}

/-- Two storages that differ at most in reading the schema, which no other stage reads. -/
def DifferInSchema (a b : Storage) (options : Options) : Prop :=
  a.DifferIn b
    (fun path => a.IsSchema options path ∧ ¬ options.IsRegistry path ∧
      ¬ a.IsReadRouter options path)
    fun _ => False

/-- Two storages that differ at most in listing the directory with the routers and in reading files
directly in it, which no other stage reads. -/
def DifferInRouters (a b : Storage) (options : Options) : Prop :=
  a.DifferIn b
    (fun path => a.IsInRouters options path ∧ ¬ a.IsSchema options path ∧ ¬ options.IsRegistry path)
    (a.IsRouters options)

/-- Two storages that differ at most in reading the registry, which no other stage reads. -/
def DifferInRegistry (a b : Storage) (options : Options) : Prop :=
  a.DifferIn b
    (fun path => options.IsRegistry path ∧ ¬ a.IsSchema options path ∧
      ¬ a.IsReadRouter options path)
    fun _ => False

/-! ## Stages in storages that differ -/

theorem root?_congr (hprobe : ∀ path, options.Probes path → a.probe path = b.probe path) :
    a.root? options = b.root? options := by
  have hholds : ∀ candidate ∈ candidates options.workingDirectory options.start options.depth,
      a.holdsBoth options.layout candidate = b.holdsBoth options.layout candidate := by
    intro candidate hmem
    rw [holdsBoth, holdsBoth, hprobe _ ⟨candidate, hmem, .inl rfl⟩,
      hprobe _ ⟨candidate, hmem, .inr rfl⟩]
  rw [root?, root?, ← List.head?_filter, ← List.head?_filter, List.filter_congr hholds]

theorem modules_congr (h : ∀ file, options.modules = .file file → a.read file = b.read file) :
    a.modules options.modules = b.modules options.modules := by
  cases hsource : options.modules with
  | builtin => rfl
  | inline registry => rfl
  | file file => simp only [modules, registry, readFile, h file hsource]

theorem tables_congr
    (h : a.read (Path.join root options.layout.schemaFile) =
      b.read (Path.join root options.layout.schemaFile)) :
    a.tables root options.layout = b.tables root options.layout := by
  rw [tables, tables, readFile, readFile, h]

/-- The routes are the same in storages that list alike and read those router sources alike that are
read. -/
theorem routes_congr (hprobe : ∀ path, a.probe path = b.probe path)
    (hlist : ∀ path, a.list path = b.list path)
    (hread : ∀ file ∈ a.routersRead options root, a.read file = b.read file) :
    a.routes root options.layout = b.routes root options.layout := by
  have honly := routes_only root options.layout.routersDir options.layout.routerExtension
  obtain ⟨outcome, requests, hrun⟩ := a.exists_run_of_looks honly
  have hself := hrun a (fun q _ => a.agree_refl q) Instant.epoch
  have hagree : ∀ q ∈ requests, b.Agree a q := by
    intro q hq
    have hrequests := congrArg Plan.Run.requests (hself [])
    rw [← show _ = requests from hrequests] at hq
    have hlooks := honly.of_mem_requests hq
    cases q with
    | probe path => exact (hprobe path).symm
    | read path => exact (hread path (List.mem_filterMap.2 ⟨_, hq, rfl⟩)).symm
    | list path => exact (hlist path).symm
    | log entry => trivial
    | _ => exact hlooks.elim
  have hother := hrun b hagree Instant.epoch
  have ha : a.routes root options.layout = outcome :=
    (gives_routes root options.layout).unique fun w => ⟨_, hself w⟩
  have hb : b.routes root options.layout = outcome :=
    (gives_routes root options.layout).unique fun w => ⟨_, hother w⟩
  rw [ha, hb]

/-! ## Warnings of a stage -/

theorem filter_failureWarnings (source other : Stage) (message : String)
    (outcome : Outcome (List α)) :
    (failureWarnings source message outcome).filter (·.source ≠ other) =
      if source = other then [] else failureWarnings source message outcome := by
  cases outcome with
  | ok entries => simp [failureWarnings]
  | error e => by_cases h : source = other <;> simp [failureWarnings, h]

theorem filter_emptyWarnings (source other : Stage) (message : String) (entries : List α) :
    (emptyWarnings source message entries).filter (·.source ≠ other) =
      if source = other then [] else emptyWarnings source message entries := by
  rw [emptyWarnings]
  split
  · by_cases h : source = other <;> simp [h]
  · simp

/-! ## The snapshot -/

section Parts

variable (hroot : a.root? options = b.root? options)

include hroot

/-- What the schema says reaches nothing but the tables and the warnings about them. -/
theorem snapshot_of_schema (hmodules : a.modules options.modules = b.modules options.modules)
    (hroutes : ∀ root, a.root? options = some root →
      a.routes root options.layout = b.routes root options.layout) :
    (a.snapshot options time).routes = (b.snapshot options time).routes ∧
      (a.snapshot options time).modules = (b.snapshot options time).modules ∧
      (a.snapshot options time).warnings.filter (·.source ≠ .db) =
        (b.snapshot options time).warnings.filter (·.source ≠ .db) := by
  cases hfound : a.root? options with
  | none =>
    rw [snapshot_of_no_root hfound, snapshot_of_no_root (hroot ▸ hfound), hmodules]
    exact ⟨rfl, rfl, rfl⟩
  | some root =>
    rw [snapshot_of_root hfound, snapshot_of_root (hroot ▸ hfound), hmodules, hroutes root hfound]
    refine ⟨rfl, rfl, ?_⟩
    simp only [repositoryWarnings, List.filter_append, filter_failureWarnings,
      filter_emptyWarnings, if_true]

/-- What the routers say reaches nothing but the routes and the warnings about them. -/
theorem snapshot_of_routers (hmodules : a.modules options.modules = b.modules options.modules)
    (htables : ∀ root, a.root? options = some root →
      a.tables root options.layout = b.tables root options.layout) :
    (a.snapshot options time).tables = (b.snapshot options time).tables ∧
      (a.snapshot options time).modules = (b.snapshot options time).modules ∧
      (a.snapshot options time).warnings.filter (·.source ≠ .api) =
        (b.snapshot options time).warnings.filter (·.source ≠ .api) := by
  cases hfound : a.root? options with
  | none =>
    rw [snapshot_of_no_root hfound, snapshot_of_no_root (hroot ▸ hfound), hmodules]
    exact ⟨rfl, rfl, rfl⟩
  | some root =>
    rw [snapshot_of_root hfound, snapshot_of_root (hroot ▸ hfound), hmodules, htables root hfound]
    refine ⟨rfl, rfl, ?_⟩
    simp only [repositoryWarnings, List.filter_append, filter_failureWarnings,
      filter_emptyWarnings, if_true]

/-- What the registry says reaches nothing but the modules and the warning about them. -/
theorem snapshot_of_registry
    (hroutes : ∀ root, a.root? options = some root →
      a.routes root options.layout = b.routes root options.layout)
    (htables : ∀ root, a.root? options = some root →
      a.tables root options.layout = b.tables root options.layout) :
    (a.snapshot options time).routes = (b.snapshot options time).routes ∧
      (a.snapshot options time).tables = (b.snapshot options time).tables ∧
      (a.snapshot options time).warnings.filter (·.source ≠ .modules) =
        (b.snapshot options time).warnings.filter (·.source ≠ .modules) := by
  cases hfound : a.root? options with
  | none =>
    rw [snapshot_of_no_root hfound, snapshot_of_no_root (hroot ▸ hfound)]
    refine ⟨rfl, rfl, ?_⟩
    simp only [moduleWarnings, List.filter_append, filter_failureWarnings, if_true]
  | some root =>
    rw [snapshot_of_root hfound, snapshot_of_root (hroot ▸ hfound), hroutes root hfound,
      htables root hfound]
    refine ⟨rfl, rfl, ?_⟩
    simp only [moduleWarnings, List.filter_append, filter_failureWarnings, if_true]

end Parts

end Storage

/-- A scan ends well in every storage. In two storages that differ in what one stage reads, the two
snapshots have the same lists of the other stages, and the same warnings of the other stages in the
same order. -/
theorem snapshot_isolated (options : Options) (time : Instant) (a b : Storage) (w : Written) :
    ∃ s t, (run (a.world time) (Scan.snapshot options) w).outcome = .ok s ∧
      (run (b.world time) (Scan.snapshot options) w).outcome = .ok t ∧
      (a.DifferInSchema b options →
        s.routes = t.routes ∧ s.modules = t.modules ∧
          s.warnings.filter (·.source ≠ .db) = t.warnings.filter (·.source ≠ .db)) ∧
      (a.DifferInRouters b options →
        s.tables = t.tables ∧ s.modules = t.modules ∧
          s.warnings.filter (·.source ≠ .api) = t.warnings.filter (·.source ≠ .api)) ∧
      (a.DifferInRegistry b options →
        s.routes = t.routes ∧ s.tables = t.tables ∧
          s.warnings.filter (·.source ≠ .modules) = t.warnings.filter (·.source ≠ .modules)) := by
  obtain ⟨_, ha⟩ := Storage.gives_snapshot options w
  obtain ⟨_, hb⟩ := Storage.gives_snapshot options w
  refine ⟨a.snapshot options time, b.snapshot options time, congrArg Plan.Run.outcome ha,
    congrArg Plan.Run.outcome hb, fun h => ?_, fun h => ?_, fun h => ?_⟩
  · refine Storage.snapshot_of_schema (Storage.root?_congr fun path _ => h.probe path) ?_ fun root hroot => ?_
    · exact Storage.modules_congr fun file hfile =>
        h.read_eq fun hpath => hpath.2.1 ⟨file, hfile, rfl⟩
    · exact Storage.routes_congr h.probe (fun _ => h.list_eq not_false) fun file hfile =>
        h.read_eq fun hpath => hpath.2.2 ⟨root, file, hroot, hfile, rfl⟩
  · refine Storage.snapshot_of_routers (Storage.root?_congr fun path _ => h.probe path) ?_ fun root hroot => ?_
    · exact Storage.modules_congr fun file hfile =>
        h.read_eq fun hpath => hpath.2.2 ⟨file, hfile, rfl⟩
    · exact Storage.tables_congr (h.read_eq fun hpath => hpath.2.1 ⟨root, hroot, rfl⟩)
  · refine Storage.snapshot_of_registry (Storage.root?_congr fun path _ => h.probe path) (fun root hroot => ?_)
      fun root hroot => ?_
    · exact Storage.routes_congr h.probe (fun _ => h.list_eq not_false) fun file hfile =>
        h.read_eq fun hpath => hpath.2.2 ⟨root, file, hroot, hfile, rfl⟩
    · exact Storage.tables_congr (h.read_eq fun hpath => hpath.2.1 ⟨root, hroot, rfl⟩)

/-- A repository with one router, and a registry next to the schema. -/
def sampleRepository (router schema registry : Except String String) : Tree where
  files := [("/r/a/x.py", router), ("/r/s.sql", schema), ("/r/m.yaml", registry)]

/-- A scan of the repository from below its root. -/
def repositoryOptions : Options where
  workingDirectory := "/"
  start := "/r/a"
  layout := { routersDir := "a", schemaFile := "s.sql" }
  modules := .file "/r/m.yaml"

theorem sampleRepository_read (router schema registry : Except String String) (path : String) :
    (sampleRepository router schema registry).storage.read path =
      if Tree.steps path = Tree.steps "/r/m.yaml" then registry
      else if Tree.steps path = Tree.steps "/r/s.sql" then schema
      else if Tree.steps path = Tree.steps "/r/a/x.py" then router
      else .error "no such file" := by
  simp only [Tree.storage, Tree.read, sampleRepository, Tree.lookup?, List.reverse_cons,
    List.reverse_nil, List.nil_append, List.cons_append, List.find?_cons, List.find?_nil,
    BEq.comm (b := Tree.steps path)]
  split_ifs with hm hs hx
  · rw [beq_iff_eq.2 hm]
    rfl
  · rw [beq_false_of_ne hm, beq_iff_eq.2 hs]
    rfl
  · rw [beq_false_of_ne hm, beq_false_of_ne hs, beq_iff_eq.2 hx]
    rfl
  · rw [beq_false_of_ne hm, beq_false_of_ne hs, beq_false_of_ne hx]
    rfl

/-- Repositories with other texts are read alike but for these texts. -/
theorem sampleRepository_differIn
    {router schema registry router' schema' registry' : Except String String}
    {reading listing : String → Prop}
    (hrouter : router = router' ∨ ∀ path, Tree.steps path = Tree.steps "/r/a/x.py" → reading path)
    (hschema : schema = schema' ∨ ∀ path, Tree.steps path = Tree.steps "/r/s.sql" → reading path)
    (hregistry : registry = registry' ∨
      ∀ path, Tree.steps path = Tree.steps "/r/m.yaml" → reading path) :
    (sampleRepository router schema registry).storage.DifferIn
      (sampleRepository router' schema' registry').storage reading listing := by
  refine ⟨fun _ => rfl, fun path hne => ?_, fun path hne => absurd rfl hne⟩
  rw [sampleRepository_read, sampleRepository_read] at hne
  split_ifs at hne with hm hs hx
  · exact hregistry.resolve_left hne path hm
  · exact hschema.resolve_left hne path hs
  · exact hrouter.resolve_left hne path hx
  · exact absurd rfl hne

/-- A repository whose schema, whose router or whose registry cannot be read keeps what the others
give. -/
theorem snapshot_isolated_unreadable :
    let router := .ok "@router.get(\"/p\")\ndef h():\n"
    let schema := .ok "CREATE TABLE t (\n  id int\n);\n"
    let whole := (sampleRepository router schema (.ok "[]")).storage
    let noSchema := (sampleRepository router (.error "denied") (.ok "[]")).storage
    let noRouter := (sampleRepository (.error "denied") schema (.ok "[]")).storage
    let noRegistry := (sampleRepository router schema (.error "denied")).storage
    let scan (storage : Storage) :=
      (run (storage.world Instant.epoch) (Scan.snapshot repositoryOptions) []).outcome
    (whole.DifferInSchema noSchema repositoryOptions ∧
      ∃ s t, scan whole = .ok s ∧ scan noSchema = .ok t ∧ s.routes = t.routes ∧
        s.modules = t.modules ∧
        s.warnings.filter (·.source ≠ .db) = t.warnings.filter (·.source ≠ .db)) ∧
    (whole.DifferInRouters noRouter repositoryOptions ∧
      ∃ s t, scan whole = .ok s ∧ scan noRouter = .ok t ∧ s.tables = t.tables ∧
        s.modules = t.modules ∧
        s.warnings.filter (·.source ≠ .api) = t.warnings.filter (·.source ≠ .api)) ∧
    (whole.DifferInRegistry noRegistry repositoryOptions ∧
      ∃ s t, scan whole = .ok s ∧ scan noRegistry = .ok t ∧ s.routes = t.routes ∧
        s.tables = t.tables ∧
        s.warnings.filter (·.source ≠ .modules) = t.warnings.filter (·.source ≠ .modules)) := by
  intro router schema whole noSchema noRouter noRegistry scan
  have hroot : whole.root? repositoryOptions = some "/r" := by decide +kernel
  have hread : whole.routersRead repositoryOptions "/r" = ["/r/a/x.py"] := by decide +kernel
  have hnotSchema : ∀ {path other}, Tree.steps path = Tree.steps other →
      Tree.steps other ≠ Tree.steps "/r/s.sql" → ¬ whole.IsSchema repositoryOptions path := by
    rintro path other hpath hother ⟨root, hfound, hsteps⟩
    obtain rfl := Option.some.inj (hroot.symm.trans hfound)
    exact hother (hpath.symm.trans hsteps)
  have hnotRegistry : ∀ {path other}, Tree.steps path = Tree.steps other →
      Tree.steps other ≠ Tree.steps "/r/m.yaml" → ¬ repositoryOptions.IsRegistry path := by
    rintro path other hpath hother ⟨file, hfile, hsteps⟩
    obtain rfl := ModuleSource.file.inj hfile
    exact hother (hpath.symm.trans hsteps)
  have hnotRouter : ∀ {path other}, Tree.steps path = Tree.steps other →
      Tree.steps other ≠ Tree.steps "/r/a/x.py" → ¬ whole.IsReadRouter repositoryOptions path := by
    rintro path other hpath hother ⟨root, file, hfound, hfile, hsteps⟩
    obtain rfl := Option.some.inj (hroot.symm.trans hfound)
    rw [hread, List.mem_singleton] at hfile
    exact hother (hpath.symm.trans (hfile ▸ hsteps))
  have hnoSchema : whole.DifferInSchema noSchema repositoryOptions := by
    refine sampleRepository_differIn (.inl rfl) (.inr fun path hpath => ?_) (.inl rfl)
    exact ⟨⟨"/r", hroot, hpath⟩, hnotRegistry hpath (by decide +kernel),
      hnotRouter hpath (by decide +kernel)⟩
  have hnoRouter : whole.DifferInRouters noRouter repositoryOptions := by
    refine sampleRepository_differIn (.inr fun path hpath => ?_) (.inl rfl) (.inl rfl)
    exact ⟨⟨"/r", "x.py", hroot, hpath⟩, hnotSchema hpath (by decide +kernel),
      hnotRegistry hpath (by decide +kernel)⟩
  have hnoRegistry : whole.DifferInRegistry noRegistry repositoryOptions := by
    refine sampleRepository_differIn (.inl rfl) (.inl rfl) (.inr fun path hpath => ?_)
    exact ⟨⟨"/r/m.yaml", rfl, hpath⟩, hnotSchema hpath (by decide +kernel),
      hnotRouter hpath (by decide +kernel)⟩
  obtain ⟨s, t, hs, ht, h, -, -⟩ :=
    snapshot_isolated repositoryOptions Instant.epoch whole noSchema []
  obtain ⟨s', t', hs', ht', -, h', -⟩ :=
    snapshot_isolated repositoryOptions Instant.epoch whole noRouter []
  obtain ⟨s'', t'', hs'', ht'', -, -, h''⟩ :=
    snapshot_isolated repositoryOptions Instant.epoch whole noRegistry []
  exact ⟨⟨hnoSchema, s, t, hs, ht, h hnoSchema⟩, ⟨hnoRouter, s', t', hs', ht', h' hnoRouter⟩,
    ⟨hnoRegistry, s'', t'', hs'', ht'', h'' hnoRegistry⟩⟩

end Cadastre
