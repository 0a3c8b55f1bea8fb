import Cadastre.Proofs.Scan.Found
import Cadastre.Proofs.Scan.Isolation
import Cadastre.Proofs.Snapshot.Order
import Mathlib.Data.List.Nodup

/-!
# Listings and registries in another order

Router sources are read in the order of their names and modules are sorted by their slugs, so the
order in which a directory is listed, or a registry was written, shows nowhere in a snapshot: not in
its lists, and not in the file that a warning names.
-/

namespace Cadastre

open Plan Scan

/-! ## The same answers in another order -/

/-- Answers to listing a directory: the same names in some order, or the same error. -/
inductive SameNames : Except String (List String) → Except String (List String) → Prop
  | ok {xs ys : List String} (perm : xs.Perm ys) : SameNames (.ok xs) (.ok ys)
  | error (message : String) : SameNames (.error message) (.error message)

theorem SameNames.refl (answer : Except String (List String)) : SameNames answer answer := by
  cases answer with
  | ok names => exact .ok (List.Perm.refl names)
  | error message => exact .error message

/-- Storages that say the same of everything, but may list directories in another order. -/
structure Storage.Reordered (a b : Storage) : Prop where
  probe : ∀ path, a.probe path = b.probe path
  read : ∀ path, a.read path = b.read path
  list : ∀ path, SameNames (a.list path) (b.list path)

/-- Sources of the same modules: the same source, or registries of the same definitions in another
order, with a slug of its own for each. -/
inductive ModuleSource.Reordered : ModuleSource → ModuleSource → Prop
  | same (source : ModuleSource) : Reordered source source
  | inline {r r' : Registry} (perm : r.Perm r') (distinct : (r.map Definition.slug).Nodup) :
    Reordered (.inline r) (.inline r')

/-! ## Stages -/

theorem routerNames_of_perm (extension : String) {xs ys : List String} (h : xs.Perm ys) :
    routerNames extension xs = routerNames extension ys :=
  sortByKey_id_of_perm (h.filter _)

/-- The documented registry does not depend on the order of its definitions. -/
theorem Registry.document_of_perm {r r' : Registry} (h : r.Perm r')
    (hdistinct : (r.map Definition.slug).Nodup) : r.document = r'.document := by
  refine sortByKey_of_perm (h.map Definition.document) ?_
  intro a ha b hb hslug
  obtain ⟨d, hd, rfl⟩ := List.mem_map.1 ha
  obtain ⟨e, he, rfl⟩ := List.mem_map.1 hb
  have heq : d = e := List.inj_on_of_nodup_map hdistinct hd he hslug
  rw [heq]

namespace Storage

variable {a b : Storage} {options : Options}

/-- The router sources are read in the same order, so the first that cannot be read is the same. -/
theorem Reordered.routes_eq (h : a.Reordered b) (root : String) (layout : Layout) :
    a.routes root layout = b.routes root layout := by
  have hfile : ∀ dir folder, a.routesOfFile dir folder = b.routesOfFile dir folder := by
    intro dir folder
    funext name
    rw [routesOfFile, routesOfFile, readFile, readFile, h.read]
  have hlist := h.list (Path.join root layout.routersDir)
  rw [routes, routes, hfile]
  generalize a.list (Path.join root layout.routersDir) = x at hlist ⊢
  generalize b.list (Path.join root layout.routersDir) = y at hlist ⊢
  cases hlist with
  | error message => rfl
  | ok perm =>
    have hnames := routerNames_of_perm layout.routerExtension perm
    exact congrArg (fun names : List String =>
      names.mapM (b.routesOfFile (Path.join root layout.routersDir)
        (sourceFolder layout.routersDir)) >>= fun found => pure (Route.sort found.flatten)) hnames

theorem Reordered.registry_eq (h : a.Reordered b) (source : ModuleSource) :
    a.registry source = b.registry source := by
  cases source with
  | builtin => rfl
  | inline registry => rfl
  | file path => rw [registry, registry, readFile, readFile, h.read]

theorem Reordered.modules_eq (h : a.Reordered b) {source source' : ModuleSource}
    (hsource : source.Reordered source') : a.modules source = b.modules source' := by
  cases hsource with
  | same => rw [modules, modules, h.registry_eq]
  | inline perm distinct =>
    show Except.ok _ = Except.ok _
    rw [Registry.document_of_perm perm distinct]

theorem Reordered.snapshot_eq (h : a.Reordered b) {source : ModuleSource}
    (hsource : options.modules.Reordered source) (time : Instant) :
    a.snapshot options time = b.snapshot { options with modules := source } time := by
  have hroot : a.root? options = b.root? { options with modules := source } :=
    root?_congr fun path _ => h.probe path
  have hmodules : a.modules options.modules = b.modules source := h.modules_eq hsource
  rcases hfound : a.root? options with _ | root
  · rw [snapshot_of_no_root hfound, snapshot_of_no_root (hroot.symm.trans hfound), hmodules]
    rfl
  · rw [snapshot_of_root hfound, snapshot_of_root (hroot.symm.trans hfound), hmodules]
    dsimp only
    rw [h.routes_eq, tables_congr (h.read _)]

end Storage

/-- Scans of storages that differ in the order of their listings, told of registries that differ in
the order of their definitions, end with the same snapshot. -/
theorem snapshot_of_reordered {a b : Storage} (h : a.Reordered b) (options : Options)
    {source : ModuleSource} (hsource : options.modules.Reordered source) (time : Instant)
    (v w : Written) :
    ∃ found, (run (a.world time) (Scan.snapshot options) v).outcome = .ok found ∧
      (run (b.world time) (Scan.snapshot { options with modules := source }) w).outcome =
        .ok found := by
  refine ⟨a.snapshot options time, outcome_snapshot, ?_⟩
  rw [h.snapshot_eq hsource]
  exact outcome_snapshot

/-- A repository with two routers that cannot be read, and the order in which they are listed. -/
def unreadableTree (names : List String) : Tree where
  files :=
    [ ("/r/a/x.py", .error "denied"), ("/r/a/y.py", .error "locked"),
      ("/r/s.sql", .ok "CREATE TABLE t (\n  id int\n);\n") ]
  directories := [("/r/a", .ok names)]

theorem unreadableTree_lookup? (names : List String) (path : String) :
    Tree.lookup? path (unreadableTree names).directories =
      if Tree.steps "/r/a" = Tree.steps path then some (.ok names) else none := by
  simp only [Tree.lookup?, unreadableTree, List.reverse_singleton, List.find?_cons, List.find?_nil]
  split_ifs with hsteps
  · rw [beq_iff_eq.2 hsteps]
    rfl
  · rw [beq_false_of_ne hsteps]
    rfl

theorem unreadableTree_reordered {xs ys : List String} (h : xs.Perm ys) :
    (unreadableTree xs).storage.Reordered (unreadableTree ys).storage where
  probe _ := rfl
  read _ := rfl
  list path := by
    show SameNames ((unreadableTree xs).list path) ((unreadableTree ys).list path)
    rw [Tree.list, Tree.list, unreadableTree_lookup?, unreadableTree_lookup?]
    by_cases hsteps : Tree.steps "/r/a" = Tree.steps path
    · rw [if_pos hsteps, if_pos hsteps]
      exact .ok h
    · rw [if_neg hsteps, if_neg hsteps]
      exact SameNames.refl _

/-- A scan of the repository from its root, with a registry that is given. -/
def unreadableOptions (registry : Registry) : Options where
  workingDirectory := "/"
  start := "/r"
  layout := { routersDir := "a", schemaFile := "s.sql" }
  modules := .inline registry

theorem unreadableTree_routes (layout : Layout) (hdir : layout.routersDir = "a")
    (hextension : layout.routerExtension = "py") :
    (unreadableTree ["x.py", "y.py"]).storage.routes "/r" layout =
      .error (.reading "/r/a/x.py" "denied") := by
  have hnames : routerNames "py" ["x.py", "y.py"] = ["x.py", "y.py"] :=
    sortByKey_eq_self (by decide)
  have hlist : (unreadableTree ["x.py", "y.py"]).storage.list (Path.join "/r" "a") =
    .ok ["x.py", "y.py"] := rfl
  rw [Storage.routes, hdir, hextension, hlist]
  show (routerNames "py" ["x.py", "y.py"]).mapM (_ : String → Outcome (List Route)) >>= _ = _
  rw [hnames]
  rfl

/-- Whichever router is listed first, the warning names the one whose name comes first. -/
theorem snapshot_of_reordered_unreadable :
    let units : Definition := ⟨"units", "Unidades", none, "/units", "", none⟩
    let tasks : Definition := ⟨"tasks", "Tareas", some "Tasks", "/tasks", "", none⟩
    let scan (names : List String) (registry : Registry) :=
      (run ((unreadableTree names).storage.world .epoch)
        (Scan.snapshot (unreadableOptions registry)) []).outcome
    ∃ found, scan ["x.py", "y.py"] [units, tasks] = .ok found ∧
      scan ["y.py", "x.py"] [tasks, units] = .ok found ∧
      found.warnings.map Warning.detail = [some "failed to read /r/a/x.py: denied", none] := by
  intro units tasks scan
  obtain ⟨found, hfirst, hsecond⟩ := snapshot_of_reordered
    (unreadableTree_reordered (List.Perm.swap "y.py" "x.py" []))
    (unreadableOptions [units, tasks])
    (.inline (List.Perm.swap tasks units []) (by decide)) .epoch [] []
  refine ⟨found, hfirst, hsecond, ?_⟩
  rw [outcome_snapshot] at hfirst
  obtain rfl := Except.ok.inj hfirst
  have hroot : (unreadableTree ["x.py", "y.py"]).storage.root? (unreadableOptions [units, tasks]) =
    some "/r" := by decide +kernel
  rw [Storage.snapshot_of_root hroot, unreadableTree_routes _ rfl rfl]
  decide +kernel

end Cadastre
