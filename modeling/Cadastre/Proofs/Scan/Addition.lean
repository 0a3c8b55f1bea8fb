import Cadastre.Proofs.Router.Span
import Cadastre.Proofs.Scan.Isolation
import Cadastre.Proofs.Snapshot.Addition
import Cadastre.Proofs.World.Steps

/-!
# A router source more

A storage that lists one more router source, and is the same otherwise, gives a snapshot with the
routes of that source in addition. A comparison with the snapshot before finds the keys of these
routes to be new and finds nothing else: no route is lost or changed, although the routes of all
sources are sorted together and several may have one key.
-/

namespace Cadastre

open Plan Scan

variable {a b : Storage} {options : Options} {root name text : String}

/-- The directory with the routers below a root. -/
abbrev Layout.routersBelow (layout : Layout) (root : String) : String :=
  Path.join root layout.routersDir

/-- The path of a router source. -/
abbrev Layout.routerFile (layout : Layout) (root name : String) : String :=
  Path.join (layout.routersBelow root) name

namespace Storage

/-- The routers below a root can be listed, and those of their names that are router sources can be
read. -/
structure ListsRouters (storage : Storage) (layout : Layout) (root : String)
    (names : List String) : Prop where
  list : storage.list (layout.routersBelow root) = .ok names
  slash : ∀ n ∈ names, '/' ∉ n.toList
  read : ∀ n ∈ names, hasExtension layout.routerExtension n = true →
    ∃ content, storage.read (layout.routerFile root n) = .ok content

/-- The second storage lists a further name among the routers, that of a router source with a text,
and is the same as the first otherwise, as far as a scan goes. The new file is neither the schema
nor the registry. -/
structure AddsRouter (a b : Storage) (options : Options) (root name text : String) : Prop where
  found : a.root? options = some root
  /-- What is looked for in the search for the root is there in both storages or in neither. -/
  probe : ∀ path, options.Probes path → a.probe path = b.probe path
  /-- The new name stands anywhere among the others, and is none of them. -/
  list : ∃ names listed, a.ListsRouters options.layout root names ∧ listed.Perm (name :: names) ∧
    name ∉ names ∧ b.list (options.layout.routersBelow root) = .ok listed
  slash : '/' ∉ name.toList
  extension : hasExtension options.layout.routerExtension name = true
  text : b.read (options.layout.routerFile root name) = .ok text
  /-- No other file is read differently. -/
  read : ∀ path, a.read path ≠ b.read path →
    Tree.steps path = Tree.steps (options.layout.routerFile root name)
  schema : Tree.steps (Path.join root options.layout.schemaFile) ≠
    Tree.steps (options.layout.routerFile root name)
  registry : ¬ options.IsRegistry (options.layout.routerFile root name)

end Storage

/-! ## Names -/

/-- A name with an extension is that of a file. -/
theorem isFileName_of_hasExtension {extension name : String}
    (h : hasExtension extension name = true) (hslash : '/' ∉ name.toList) : IsFileName name := by
  have hempty : Path.extension? "" = none := by decide +kernel
  have hpoint : Path.extension? "." = none := by decide +kernel
  refine ⟨?_, ?_, hslash⟩
  · rintro rfl
    rw [hasExtension, hempty] at h
    cases h
  · rintro rfl
    rw [hasExtension, hpoint] at h
    cases h

/-- A new router source comes somewhere among the others. -/
theorem exists_routerNames_append {extension : String} {names listed : List String}
    (h : hasExtension extension name = true) (hlisted : listed.Perm (name :: names)) :
    ∃ before after, routerNames extension names = before ++ after ∧
      routerNames extension listed = before ++ name :: after := by
  have htrans : ∀ x y z : String, decide (x ≤ y) = true → decide (y ≤ z) = true →
      decide (x ≤ z) = true := by
    simp only [decide_eq_true_eq]
    exact fun _ _ _ => le_trans
  have htotal : ∀ x y : String, (decide (x ≤ y) || decide (y ≤ x)) = true := by
    simp only [Bool.or_eq_true, decide_eq_true_eq]
    exact fun _ _ => le_total _ _
  have hsame : routerNames extension listed =
      sortByKey id (name :: names.filter (hasExtension extension)) := by
    have hfilter := hlisted.filter (hasExtension extension)
    rw [List.filter_cons_of_pos h] at hfilter
    exact sortByKey_id_of_perm hfilter
  obtain ⟨hcons, hsplit⟩ :=
    mergeSort_cons_eq htrans htotal name (names.filter (hasExtension extension))
  exact ⟨_, _, hsplit, hsame.trans hcons⟩

/-! ## Routes -/

theorem mapM_eq_ok {α β ε : Type} {f : α → Except ε β} {g : α → β} {xs : List α}
    (h : ∀ x ∈ xs, f x = .ok (g x)) : xs.mapM f = .ok (xs.map g) := by
  induction xs with
  | nil => rfl
  | cons x xs ih =>
    rw [List.mapM_cons, h x List.mem_cons_self, ih fun y hy => h y (List.mem_cons_of_mem x hy)]
    rfl

/-- The routes of a repository whose routers can be listed and read. -/
theorem Storage.routes_eq_ok {storage : Storage} {layout : Layout} {names : List String}
    {found : String → List Route}
    (hlist : storage.list (Path.join root layout.routersDir) = .ok names)
    (hread : ∀ n ∈ routerNames layout.routerExtension names,
      storage.routesOfFile (Path.join root layout.routersDir) (sourceFolder layout.routersDir) n =
        .ok (found n)) :
    storage.routes root layout =
      .ok (Route.sort ((routerNames layout.routerExtension names).flatMap found)) := by
  rw [routes, hlist]
  have hfound := mapM_eq_ok hread
  simp only [Except.mapError, Bind.bind, Except.bind, hfound, Pure.pure, Except.pure,
    List.flatMap_def]

theorem Storage.routesOfFile_eq_ok {storage : Storage} {dir folder n content : String}
    (h : storage.read (Path.join dir n) = .ok content) :
    storage.routesOfFile dir folder n = .ok (Router.routes (folder ++ "/" ++ n) content) := by
  rw [routesOfFile, readFile, h]
  rfl

theorem Router.sourceFile_of_mem_routes {sourceFile content : String} {r : Route}
    (h : r ∈ Router.routes sourceFile content) : r.sourceFile = sourceFile := by
  obtain ⟨⟨e, span⟩, -, hr⟩ := List.mem_filterMap.1 h
  exact (Router.Endpoint.declares_of_route? hr).1.sourceFile

/-- What a file adds to a key is its name, so a key of one file is none of another one. -/
theorem key_notMem_of_ne {folder n content k : String} (hne : n ≠ name) (hn : '/' ∉ n.toList)
    (hname : '/' ∉ name.toList)
    (hk : k ∈ (Router.routes (folder ++ "/" ++ n) content).map Route.key) :
    k ∉ (Router.routes (folder ++ "/" ++ name) text).map Route.key := by
  intro hk'
  obtain ⟨r, hr, hkey⟩ := List.mem_map.1 hk
  obtain ⟨r', hr', hkey'⟩ := List.mem_map.1 hk'
  exact hne (Route.name_eq_of_key_eq hn hname (Router.sourceFile_of_mem_routes hr)
    (Router.sourceFile_of_mem_routes hr') (hkey.trans hkey'.symm))

namespace Storage.AddsRouter

/-- A file is read as it was before, unless it is the new one. -/
theorem read_eq (h : a.AddsRouter b options root name text) {path : String}
    (hpath : Tree.steps path ≠ Tree.steps (options.layout.routerFile root name)) :
    a.read path = b.read path := by
  by_contra hne
  exact hpath (h.read path hne)

/-- The routes of the two storages, before they are sorted: those of the new file stand together
among the others, and no other route has one of their keys. -/
theorem exists_routes (h : a.AddsRouter b options root name text) :
    ∃ before after,
      a.routes root options.layout = .ok (Route.sort (before ++ after)) ∧
      b.routes root options.layout = .ok (Route.sort (before ++
        (Router.routes (sourceFolder options.layout.routersDir ++ "/" ++ name) text ++ after))) ∧
      ∀ k ∈ (before ++ after).map Route.key,
        k ∉ (Router.routes (sourceFolder options.layout.routersDir ++ "/" ++ name) text).map
          Route.key := by
  obtain ⟨names, listed, hnames, hlisted, hnew, hlist⟩ := h.list
  obtain ⟨before, after, hold, hall⟩ := exists_routerNames_append h.extension hlisted
  have hname := isFileName_of_hasExtension h.extension h.slash
  have hread : ∀ n ∈ before ++ after, n ≠ name ∧ '/' ∉ n.toList ∧ ∃ content,
      a.read (options.layout.routerFile root n) = .ok content ∧
        b.read (options.layout.routerFile root n) = .ok content := by
    intro n hn
    rw [← hold] at hn
    obtain ⟨hmem, hn⟩ := List.mem_filter.1 ((List.mergeSort_perm _ _).mem_iff.1 hn)
    have hne : n ≠ name := by
      rintro rfl
      exact hnew hmem
    obtain ⟨content, hcontent⟩ := hnames.read n hmem hn
    have hfile := isFileName_of_hasExtension hn (hnames.slash n hmem)
    have hsame := h.read_eq (mt (Tree.steps_join_inj hfile hname).1 hne)
    exact ⟨hne, hnames.slash n hmem, content, hcontent, hsame ▸ hcontent⟩
  -- what every file holds, in both storages alike
  let found (n : String) : List Route := entriesOf
    (b.routesOfFile (options.layout.routersBelow root) (sourceFolder options.layout.routersDir) n)
  have hfound : found name =
      Router.routes (sourceFolder options.layout.routersDir ++ "/" ++ name) text := by
    simp only [found, routesOfFile_eq_ok h.text, entriesOf]
  have ha : a.routes root options.layout = .ok (Route.sort ((before ++ after).flatMap found)) := by
    rw [← hold]
    refine routes_eq_ok hnames.list fun n hn => ?_
    obtain ⟨-, -, content, hcontent, hsame⟩ := hread n (hold ▸ hn)
    simp only [found, routesOfFile_eq_ok hcontent, routesOfFile_eq_ok hsame, entriesOf]
  have hb : b.routes root options.layout =
      .ok (Route.sort ((before ++ name :: after).flatMap found)) := by
    rw [← hall]
    refine routes_eq_ok hlist fun n hn => ?_
    rw [hall] at hn
    obtain ⟨content, hcontent⟩ : ∃ content,
        b.read (options.layout.routerFile root n) = .ok content := by
      by_cases hnn : n = name
      · exact ⟨text, hnn ▸ h.text⟩
      · obtain ⟨-, -, content, -, hcontent⟩ := hread n (by
          simp only [List.mem_append, List.mem_cons] at hn ⊢
          tauto)
        exact ⟨content, hcontent⟩
    simp only [found, routesOfFile_eq_ok hcontent, entriesOf]
  refine ⟨before.flatMap found, after.flatMap found, ?_, ?_, ?_⟩
  · rw [ha, List.flatMap_append]
  · rw [hb, List.flatMap_append, List.flatMap_cons, hfound]
  · intro k hk
    rw [← List.flatMap_append] at hk
    obtain ⟨r, hr, rfl⟩ := List.mem_map.1 hk
    obtain ⟨n, hn, hr⟩ := List.mem_flatMap.1 hr
    obtain ⟨hne, hslash, content, -, hcontent⟩ := hread n hn
    simp only [found, routesOfFile_eq_ok hcontent, entriesOf] at hr
    exact key_notMem_of_ne hne hslash h.slash (List.mem_map_of_mem hr)

end Storage.AddsRouter

/-- A scan ends well before and after a router source is added, and a comparison of the two
snapshots finds the keys of the routes of that source to be added, and nothing else. -/
theorem diff_of_addsRouter (h : a.AddsRouter b options root name text) (time time' : Instant)
    (w w' : Written) :
    ∃ s t added, (run (a.world time) (Scan.snapshot options) w).outcome = .ok s ∧
      (run (b.world time') (Scan.snapshot options) w').outcome = .ok t ∧
      ListsKeys (· ∈ (Router.routes (sourceFolder options.layout.routersDir ++ "/" ++ name)
        text).map Route.key) added ∧
      s.diff t = { Diff.empty with addedRoutes := added } := by
  obtain ⟨_, ha⟩ := Storage.gives_snapshot options w
  obtain ⟨_, hb⟩ := Storage.gives_snapshot options w'
  obtain ⟨before, after, hold, hnew, hkeys⟩ := h.exists_routes
  have hroot : b.root? options = some root := (Storage.root?_congr h.probe) ▸ h.found
  have htables : a.tables root options.layout = b.tables root options.layout :=
    Storage.tables_congr (h.read_eq h.schema)
  have hmodules : a.modules options.modules = b.modules options.modules :=
    Storage.modules_congr fun file hfile =>
      h.read_eq fun hsame => h.registry ⟨file, hfile, hsame.symm⟩
  have hs : (a.snapshot options time).routes = Route.sort (before ++ after) := by
    rw [Storage.snapshot_of_root h.found, hold]
    rfl
  have ht : (b.snapshot options time').routes = Route.sort (before ++
      (Router.routes (sourceFolder options.layout.routersDir ++ "/" ++ name) text ++ after)) := by
    rw [Storage.snapshot_of_root hroot, hnew]
    rfl
  obtain ⟨added, hadded, hdiff⟩ := Snapshot.diff_of_inserted hs ht hkeys
    (by rw [Storage.snapshot_of_root h.found, Storage.snapshot_of_root hroot, htables])
    (by rw [Storage.snapshot_of_root h.found, Storage.snapshot_of_root hroot, hmodules])
  exact ⟨_, _, added, congrArg Plan.Run.outcome ha, congrArg Plan.Run.outcome hb, hadded, hdiff⟩

/-- A second router source with the route of the first one. -/
theorem diff_of_addsRouter_same_path :
    let source := "@router.get(\"/p\")\ndef h():\n"
    let schema := "CREATE TABLE t (\n  id int\n);\n"
    let old := (sampleRepository (.ok source) (.ok schema) (.ok "[]")).storage
    let new : Storage := { old with
      list := fun _ => .ok ["y.py", "x.py"]
      read := fun path =>
        if Tree.steps path = Tree.steps "/r/a/y.py" then .ok source else old.read path }
    old.AddsRouter new repositoryOptions "/r" "y.py" source ∧
      ∃ s t added,
        (run (old.world Instant.epoch) (Scan.snapshot repositoryOptions) []).outcome = .ok s ∧
        (run (new.world Instant.epoch) (Scan.snapshot repositoryOptions) []).outcome = .ok t ∧
        ListsKeys (· ∈ (Router.routes (sourceFolder repositoryOptions.layout.routersDir ++ "/" ++
          "y.py") source).map Route.key) added ∧
        s.diff t = { Diff.empty with addedRoutes := added } := by
  intro source schema old new
  have hnew : ∀ path, new.read path =
      if Tree.steps path = Tree.steps "/r/a/y.py" then .ok source else old.read path :=
    fun _ => rfl
  have hlist : old.list "/r/a" = .ok ["x.py"] := by decide +kernel
  have hread : old.read "/r/a/x.py" = .ok source := by decide +kernel
  have hfile : Tree.steps (repositoryOptions.layout.routerFile "/r" "y.py") =
      Tree.steps "/r/a/y.py" := by decide +kernel
  have hadds : old.AddsRouter new repositoryOptions "/r" "y.py" source := by
    constructor
    case found => decide +kernel
    case probe => exact fun _ _ => rfl
    case list =>
      refine ⟨["x.py"], ["y.py", "x.py"], ⟨hlist, by decide, ?_⟩, .refl _, by decide, rfl⟩
      intro n hn _
      rw [List.mem_singleton] at hn
      exact ⟨source, hn ▸ hread⟩
    case slash => decide
    case extension => decide +kernel
    case text => rw [hnew, if_pos hfile]
    case read =>
      intro path hne
      by_contra hpath
      rw [hfile] at hpath
      rw [hnew, if_neg hpath] at hne
      exact hne rfl
    case schema => decide +kernel
    case registry =>
      rintro ⟨file, hfile, hsteps⟩
      obtain rfl := ModuleSource.file.inj hfile
      exact absurd hsteps (by decide +kernel)
  exact ⟨hadds, diff_of_addsRouter hadds Instant.epoch Instant.epoch [] []⟩

end Cadastre
