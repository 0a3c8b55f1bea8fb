import Cadastre.Proofs.Scan.Addition
import Cadastre.Proofs.Snapshot.Coverage

/-!
# What an empty comparison of two scans tells

All routes that a scan finds are from files of one folder, so their keys tell their method, path and
file. Of two scans between which a comparison finds nothing, each has one of the routes that the
other one has found in a place, and one of the tables of a name. These are all routes and tables
where no scan has found two entries in one place; where one has, an entry can be lost without notice.
-/

namespace Cadastre

open Plan Scan

variable {a b storage : Storage} {options : Options} {root : String} {layout : Layout}
  {time : Instant} {r : Route}

/-- The routers of a repository are listed by distinct names of files. -/
def Storage.ListsFileNames (storage : Storage) (options : Options) : Prop :=
  ∀ root names, storage.root? options = some root →
    storage.list (options.layout.routersBelow root) = .ok names →
      names.Nodup ∧ ∀ n ∈ names, '/' ∉ n.toList

/-! ## Routes of a scan -/

theorem exists_of_mem_mapM {α β ε : Type} {f : α → Except ε β} {xs : List α} {ys : List β}
    (h : xs.mapM f = .ok ys) {y : β} (hy : y ∈ ys) : ∃ x ∈ xs, f x = .ok y := by
  induction xs generalizing ys with
  | nil =>
    cases h
    cases hy
  | cons x xs ih =>
    rw [List.mapM_cons] at h
    cases hx : f x with
    | error e =>
      rw [hx] at h
      cases h
    | ok z =>
      cases hxs : xs.mapM f with
      | error e =>
        rw [hx, hxs] at h
        cases h
      | ok zs =>
        rw [hx, hxs] at h
        cases h
        rcases List.mem_cons.1 hy with rfl | hy
        · exact ⟨x, List.mem_cons_self, hx⟩
        · obtain ⟨x', hx', hy⟩ := ih hxs hy
          exact ⟨x', List.mem_cons_of_mem x hx', hy⟩

/-- The routes of a router source are from that file. -/
theorem Storage.sourceFile_of_routesOfFile {dir folder name : String} {found : List Route}
    (h : storage.routesOfFile dir folder name = .ok found) (hr : r ∈ found) :
    r.sourceFile = folder ++ "/" ++ name := by
  rw [routesOfFile] at h
  cases hread : storage.readFile (Path.join dir name) with
  | error e =>
    rw [hread] at h
    cases h
  | ok content =>
    rw [hread] at h
    cases h
    exact Router.sourceFile_of_mem_routes hr

/-- The routes of a repository are from files that are listed among its routers. -/
theorem Storage.exists_name_of_mem_routes (hr : r ∈ entriesOf (storage.routes root layout)) :
    ∃ names, storage.list (layout.routersBelow root) = .ok names ∧
      ∃ name ∈ names, r.sourceFile = sourceFolder layout.routersDir ++ "/" ++ name := by
  rw [routes] at hr
  cases hlist : storage.list (Path.join root layout.routersDir) with
  | error message =>
    rw [hlist] at hr
    cases hr
  | ok names =>
    refine ⟨names, rfl, ?_⟩
    cases hfound : (routerNames layout.routerExtension names).mapM
        (storage.routesOfFile (Path.join root layout.routersDir)
          (sourceFolder layout.routersDir)) with
    | error e =>
      rw [hlist] at hr
      simp only [Except.mapError, Bind.bind, Except.bind, hfound, entriesOf, List.not_mem_nil] at hr
    | ok found =>
      rw [hlist] at hr
      simp only [Except.mapError, Bind.bind, Except.bind, hfound, Pure.pure, Except.pure,
        entriesOf] at hr
      obtain ⟨routes, hroutes, hr⟩ :=
        List.mem_flatten.1 ((List.mergeSort_perm found.flatten Route.le).mem_iff.1 hr)
      obtain ⟨name, hname, hfile⟩ := exists_of_mem_mapM hfound hroutes
      have hlisted := (List.mergeSort_perm _ _).mem_iff.1 hname
      exact ⟨name, (List.mem_filter.1 hlisted).1, sourceFile_of_routesOfFile hfile hr⟩

theorem Storage.fromFolder_of_mem_snapshot (h : storage.ListsFileNames options)
    (hr : r ∈ (storage.snapshot options time).routes) :
    r.FromFolder (sourceFolder options.layout.routersDir) := by
  cases hroot : storage.root? options with
  | none =>
    rw [snapshot_of_no_root hroot] at hr
    cases hr
  | some root =>
    rw [snapshot_of_root hroot] at hr
    obtain ⟨names, hlist, name, hname, hfile⟩ := exists_name_of_mem_routes hr
    exact ⟨name, (h root names hroot hlist).2 name hname, hfile⟩

/-! ## Comparing two scans -/

/-- Where a comparison of two scans with the same options finds nothing, each of them has found, for
every place where the other one has found routes, one of these with all its fields, and for every
table name one of the tables with its columns. Where the entries of each scan are told apart by their
keys, these are all of its routes and tables. -/
theorem covers_of_isEmpty_diff {s t : Snapshot} {time' : Instant} {w w' : Written}
    (ha : a.ListsFileNames options) (hb : b.ListsFileNames options)
    (hs : (run (a.world time) (Scan.snapshot options) w).outcome = .ok s)
    (ht : (run (b.world time') (Scan.snapshot options) w').outcome = .ok t)
    (hempty : (s.diff t).isEmpty = true) :
    (t.CoversPlaces s ∧ s.CoversPlaces t) ∧
      (s.Unambiguous → t.Unambiguous → t.Covers s ∧ s.Covers t) := by
  obtain rfl := Except.ok.inj (outcome_snapshot.symm.trans hs)
  obtain rfl := Except.ok.inj (outcome_snapshot.symm.trans ht)
  have hagree := Snapshot.isEmpty_diff_iff.1 hempty
  have hold : ∀ r ∈ (a.snapshot options time).routes,
      r.FromFolder (sourceFolder options.layout.routersDir) := by
    intro r hr
    exact Storage.fromFolder_of_mem_snapshot ha hr
  have hnew : ∀ r ∈ (b.snapshot options time').routes,
      r.FromFolder (sourceFolder options.layout.routersDir) := by
    intro r hr
    exact Storage.fromFolder_of_mem_snapshot hb hr
  have hforth := hagree.coversPlaces hold hnew
  have hback := hagree.symm.coversPlaces hnew hold
  refine ⟨⟨hforth, hback⟩, fun hu hu' => ?_⟩
  exact ⟨hforth.covers hu hu', hback.covers hu' hu⟩

/-- What is in the files of the repository does not decide which files it has. -/
theorem sampleRepository_lists (router schema registry : Except String String) :
    let repository := (sampleRepository router schema registry).storage
    repository.root? repositoryOptions = some "/r" ∧
      repository.list (repositoryOptions.layout.routersBelow "/r") = .ok ["x.py"] := by
  let blank := (sampleRepository (.ok "") (.ok "") (.ok "")).storage
  have hroot : blank.root? repositoryOptions = some "/r" := by decide +kernel
  have hlist : blank.list (repositoryOptions.layout.routersBelow "/r") = .ok ["x.py"] := by
    decide +kernel
  exact ⟨hroot, hlist⟩

theorem listsFileNames_sampleRepository (router schema registry : Except String String) :
    (sampleRepository router schema registry).storage.ListsFileNames repositoryOptions := by
  obtain ⟨hroot, hlist⟩ := sampleRepository_lists router schema registry
  intro root names hroot' hlist'
  obtain rfl : "/r" = root := Option.some.inj (hroot.symm.trans hroot')
  obtain rfl : ["x.py"] = names := Except.ok.inj (hlist.symm.trans hlist')
  exact ⟨by decide, by decide⟩

/-- The routes of the repository are those of its one router. -/
theorem routes_snapshot_sampleRepository (text : String) (schema registry : Except String String)
    (time : Instant) :
    ((sampleRepository (.ok text) schema registry).storage.snapshot repositoryOptions time).routes =
      Route.sort (Router.routes "a/x.py" text) := by
  obtain ⟨hroot, hlist⟩ := sampleRepository_lists (.ok text) schema registry
  have hread : (sampleRepository (.ok text) schema registry).storage.read
      (repositoryOptions.layout.routerFile "/r" "x.py") = .ok text := by
    rw [sampleRepository_read, if_neg (by decide +kernel), if_neg (by decide +kernel),
      if_pos (by decide +kernel)]
  have hnames : routerNames repositoryOptions.layout.routerExtension ["x.py"] = ["x.py"] := by
    decide +kernel
  have hfolder : sourceFolder repositoryOptions.layout.routersDir ++ "/" ++ "x.py" = "a/x.py" := by
    decide +kernel
  have hfound : ∀ n ∈ routerNames repositoryOptions.layout.routerExtension ["x.py"],
      (sampleRepository (.ok text) schema registry).storage.routesOfFile
        (repositoryOptions.layout.routersBelow "/r")
        (sourceFolder repositoryOptions.layout.routersDir) n =
          .ok (Router.routes "a/x.py" text) := by
    intro n hn
    rw [hnames, List.mem_singleton] at hn
    rw [hn, Storage.routesOfFile_eq_ok hread, hfolder]
  rw [Storage.snapshot_of_root hroot, Storage.routes_eq_ok hlist hfound, hnames]
  simp [entriesOf]

/-- A repository with one route and one table, before and after a comment is added to the router. -/
theorem covers_of_isEmpty_diff_comment :
    let source := "@router.get(\"/p\")\ndef h():\n    pass\n"
    let schema := "CREATE TABLE t (\n  id int\n);\n"
    let old := (sampleRepository (.ok source) (.ok schema) (.ok "[]")).storage
    let new := (sampleRepository (.ok ("# routes\n" ++ source)) (.ok schema) (.ok "[]")).storage
    old.ListsFileNames repositoryOptions ∧ new.ListsFileNames repositoryOptions ∧
      ∃ s t,
        (run (old.world Instant.epoch) (Scan.snapshot repositoryOptions) []).outcome = .ok s ∧
        (run (new.world Instant.epoch) (Scan.snapshot repositoryOptions) []).outcome = .ok t ∧
        (s.diff t).isEmpty = true ∧ s.Unambiguous ∧ t.Unambiguous ∧ t.Covers s ∧ s.Covers t := by
  intro source schema old new
  have hold : old.ListsFileNames repositoryOptions := listsFileNames_sampleRepository _ _ _
  have hnew : new.ListsFileNames repositoryOptions := listsFileNames_sampleRepository _ _ _
  have hs : (run (old.world Instant.epoch) (Scan.snapshot repositoryOptions) []).outcome =
      .ok (old.snapshot repositoryOptions Instant.epoch) := outcome_snapshot
  have ht : (run (new.world Instant.epoch) (Scan.snapshot repositoryOptions) []).outcome =
      .ok (new.snapshot repositoryOptions Instant.epoch) := outcome_snapshot
  have hempty : ((old.snapshot repositoryOptions Instant.epoch).diff
      (new.snapshot repositoryOptions Instant.epoch)).isEmpty = true := by decide +kernel
  have hsingle : ∀ s : Snapshot, s.routes = [⟨.get, "/p", 200, .anyone, "a/x.py", "h"⟩] →
      s.tables = [⟨"t", [⟨"id", "int", true⟩]⟩] → s.Unambiguous := by
    intro s hroutes htables
    constructor
    case routes => simp [hroutes]
    case tables => simp [htables]
    case columns => simp [htables, Table.DistinctColumns]
  have hu := hsingle (old.snapshot repositoryOptions Instant.epoch) (by decide +kernel)
    (by decide +kernel)
  have hu' := hsingle (new.snapshot repositoryOptions Instant.epoch) (by decide +kernel)
    (by decide +kernel)
  obtain ⟨hcovers, hcovers'⟩ := (covers_of_isEmpty_diff hold hnew hs ht hempty).2 hu hu'
  exact ⟨hold, hnew, _, _, hs, ht, hempty, hu, hu', hcovers, hcovers'⟩

/-- A router source that declares one method and path twice loses the first of the two routes, and a
comparison finds nothing. -/
theorem not_covers_repeated_route :
    ¬ ∀ (a b : Storage) (options : Options) (time time' : Instant) (w w' : Written)
      (s t : Snapshot), a.ListsFileNames options → b.ListsFileNames options →
      (run (a.world time) (Scan.snapshot options) w).outcome = .ok s →
      (run (b.world time') (Scan.snapshot options) w').outcome = .ok t →
      (s.diff t).isEmpty = true → t.Covers s ∧ s.Covers t := by
  intro hcovers
  let kept := "@router.get(\"/p\")\ndef b():\n    pass\n"
  let schema : Except String String := .ok "CREATE TABLE t (\n  id int\n);\n"
  let lost : Route := ⟨.get, "/p", 200, .anyone, "a/x.py", "a"⟩
  let old := (sampleRepository (.ok ("@router.get(\"/p\")\ndef a():\n    pass\n\n" ++ kept)) schema
    (.ok "[]")).storage
  let new := (sampleRepository (.ok kept) schema (.ok "[]")).storage
  have hold : (old.snapshot repositoryOptions Instant.epoch).routes =
      [lost, { lost with handler := "b" }] := by
    have hfound : Router.routes "a/x.py" ("@router.get(\"/p\")\ndef a():\n    pass\n\n" ++ kept) =
        [lost, { lost with handler := "b" }] := by decide +kernel
    rw [routes_snapshot_sampleRepository, hfound]
    exact List.mergeSort_of_pairwise (by decide)
  have hnew : (new.snapshot repositoryOptions Instant.epoch).routes =
      [{ lost with handler := "b" }] := by decide +kernel
  have hagree : (old.snapshot repositoryOptions Instant.epoch).Agree
      (new.snapshot repositoryOptions Instant.epoch) := by
    refine Snapshot.agree_of_routes ?_ (by decide +kernel) (by decide +kernel)
    rw [hold, hnew, agreeByKey_iff fun _ _ _ => Route.change?_eq_none_iff]
    decide +kernel
  obtain ⟨hlost, -⟩ := hcovers old new repositoryOptions Instant.epoch Instant.epoch [] [] _ _
    (listsFileNames_sampleRepository _ _ _) (listsFileNames_sampleRepository _ _ _)
    outcome_snapshot outcome_snapshot (Snapshot.isEmpty_diff_iff.2 hagree)
  have hmem := hlost.routes lost (by rw [hold]; exact List.mem_cons_self)
  rw [hnew] at hmem
  exact absurd hmem (by decide)

end Cadastre
