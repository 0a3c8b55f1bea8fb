import Cadastre.Proofs.Saved.RoundTrip
import Cadastre.Proofs.Scan.Looks
import Cadastre.Proofs.Snapshot.Unchanged
import Cadastre.World.Tree

/-!
# Comparing an unchanged repository with what was saved

A snapshot that is built and saved as JSON is compared with a fresh one of the same repository. The
comparison reads back what was saved, and the fresh scan finds what the first one found, so nothing
is reported, however much later the comparison is made.
-/

namespace Cadastre

/-! ## One path that is answered differently -/

/-- Whether a request reads a file or lists a directory at a path, however the path is spelled. -/
def Request.Opens (path : String) : Request → Prop
  | .read other => Tree.steps other = Tree.steps path
  | .list other => Tree.steps other = Tree.steps path
  | _ => False

instance (path : String) : (q : Request) → Decidable (q.Opens path)
  | .read other => inferInstanceAs (Decidable (Tree.steps other = Tree.steps path))
  | .list other => inferInstanceAs (Decidable (Tree.steps other = Tree.steps path))
  | .probe _ | .isFile _ | .readStart _ | .write _ _ | .now | .log _ | .print _ | .abort _ =>
    inferInstanceAs (Decidable False)

/-- A storage in which a file says something else. -/
def Storage.withText (storage : Storage) (path text : String) : Storage where
  probe := storage.probe
  isFile := storage.isFile
  read other := if Tree.steps other = Tree.steps path then .ok text else storage.read other
  list := storage.list
  write := storage.write

theorem Storage.withText_read_self (storage : Storage) (path text : String) :
    (storage.withText path text).read path = .ok text := by
  simp [withText]

theorem Storage.withText_read_of_ne (storage : Storage) {path other : String} (text : String)
    (h : Tree.steps other ≠ Tree.steps path) :
    (storage.withText path text).read other = storage.read other := by
  simp [withText, h]

/-- Storages that differ at one path only give the same answers to a scan that does not open it. -/
theorem Storage.agree_of_not_opens {storage after : Storage} {path : String} {q : Request}
    (hprobe : ∀ other, after.probe other = storage.probe other)
    (hother : ∀ other, Tree.steps other ≠ Tree.steps path →
      after.read other = storage.read other ∧ after.list other = storage.list other)
    (hq : q.Scans) (hclosed : ¬ q.Opens path) : after.Agree storage q := by
  rcases hq with hlooks | rfl
  · cases q with
    | probe other => exact hprobe other
    | read other => exact (hother other hclosed).1
    | list other => exact (hother other hclosed).2
    | log entry => trivial
    | _ => exact hlooks.elim
  · trivial

namespace Command

open Plan (run_bind_of_ok)

variable {storage after : Storage} {options : Options} {path text : String} {time : Instant}
  {w : Written} {s old : Snapshot} {requests : List Request}

/-! ## The two commands -/

theorem run_take_none
    (hscan : Plan.run (storage.world time) (Scan.snapshot options) w = ⟨.ok s, w, requests⟩) :
    Plan.run (storage.world time) (take options none) w = ⟨.ok s, w, requests⟩ := by
  rw [take, run_bind_of_ok hscan]
  simp [pure, Plan.run]

/-- A build ends well if its snapshot can be written, and then has written it. -/
theorem build_of_write_ok (path : String)
    (hscan : Plan.run (storage.world time) (Scan.snapshot options) w = ⟨.ok s, w, requests⟩)
    (hwrite : storage.write path (s.render .json) = .ok ()) :
    (Plan.run (storage.world time) (run options (.build .json none (some path))) w).outcome =
        .ok (.ok ()) ∧
      (Plan.run (storage.world time) (run options (.build .json none (some path))) w).state =
        w ++ [(path, s.render .json)] := by
  rw [run, runBuild, run_bind_of_ok (run_take_none hscan)]
  dsimp only
  rw [run_bind_of_ok (Storage.run_write_of_ok hwrite time w)]
  exact ⟨rfl, rfl⟩

/-- A build fails if its snapshot cannot be written. -/
theorem build_of_write_error {message : String}
    (hscan : Plan.run (storage.world time) (Scan.snapshot options) w = ⟨.ok s, w, requests⟩)
    (hwrite : storage.write path (s.render .json) = .error message) :
    (Plan.run (storage.world time) (run options (.build .json none (some path))) w).outcome =
      .ok (.error (.writing path message)) := by
  rw [run, runBuild, run_bind_of_ok (run_take_none hscan)]
  dsimp only
  rw [run_bind_of_ok (Storage.run_write_of_error hwrite time w)]
  rfl

/-- A build that ends well has written the snapshot that the scan took. -/
theorem state_of_build
    (hscan : Plan.run (storage.world time) (Scan.snapshot options) w = ⟨.ok s, w, requests⟩)
    (hok : (Plan.run (storage.world time) (run options (.build .json none (some path))) w).outcome =
      .ok (.ok ())) :
    (Plan.run (storage.world time) (run options (.build .json none (some path))) w).state =
      w ++ [(path, s.render .json)] := by
  cases hwrite : storage.write path (s.render .json) with
  | error message =>
    rw [build_of_write_error hscan hwrite] at hok
    cases hok
  | ok => exact (build_of_write_ok path hscan hwrite).2

/-- A comparison reads what was saved, takes a fresh snapshot and prints the report. -/
theorem run_diff_of_parseSaved (hread : storage.read path = .ok text)
    (hold : parseSaved path text = .ok old)
    (hscan : Plan.run (storage.world time) (Scan.snapshot options) w = ⟨.ok s, w, requests⟩) :
    Plan.run (storage.world time) (run options (.diff path)) w =
      ⟨.ok (.ok ()), w, .read path :: (requests ++ [.print ((old.diff s).report ++ "\n")])⟩ := by
  rw [run, runDiff, run_bind_of_ok (Storage.run_read storage time path w), hread]
  dsimp only
  rw [hold]
  dsimp only
  rw [run_bind_of_ok hscan]
  rfl

/-- A comparison with a saved snapshot of an unchanged repository reports nothing. The storage may
answer differently at the path of the snapshot itself, which the scan does not open. -/
theorem diff_after_build {extension : String} {built compared : Instant}
    (hpath : Path.extension? path = some extension)
    (hjson : extension.toList.map Char.toLower = "json".toList)
    (hscan : ∀ q ∈ (Plan.run (storage.world built) (Scan.snapshot options) []).requests,
      ¬ q.Opens path)
    (hbuild : (Plan.run (storage.world built)
      (run options (.build .json none (some path))) []).outcome = .ok (.ok ()))
    (hwritten : (Plan.run (storage.world built)
      (run options (.build .json none (some path))) []).state = [(path, text)])
    (hsaved : after.read path = .ok text)
    (hprobe : ∀ other, after.probe other = storage.probe other)
    (hother : ∀ other, Tree.steps other ≠ Tree.steps path →
      after.read other = storage.read other ∧ after.list other = storage.list other) :
    (Plan.run (after.world compared) (run options (.diff path)) w).outcome = .ok (.ok ()) ∧
      Request.printed (Plan.run (after.world compared) (run options (.diff path)) w).requests =
        "No changes since last snapshot.\n" := by
  obtain ⟨s, requests, hrun⟩ := Scan.exists_run_snapshot storage options
  have hfirst := hrun storage (fun q _ => storage.agree_refl q) built []
  rw [state_of_build hfirst hbuild] at hwritten
  obtain rfl : ({ s with generatedAt := built } : Snapshot).render .json = text := by
    simpa using hwritten
  -- the requests of the fresh scan are answered as those of the first one
  have hrequests : (Plan.run (storage.world built) (Scan.snapshot options) []).requests = requests :=
    congrArg Plan.Run.requests hfirst
  have hscans : ∀ q ∈ requests, q.Scans := by
    intro q hq
    exact (Scan.snapshot_only options).of_mem_requests (hrequests ▸ hq)
  have hagree : ∀ q ∈ requests, after.Agree storage q := by
    intro q hq
    exact Storage.agree_of_not_opens hprobe hother (hscans q hq) (hscan q (hrequests ▸ hq))
  have hfresh := hrun after hagree compared w
  have hread := parseSaved_render_of_formatOf (formatOf_eq_json hpath hjson)
    { s with generatedAt := built }
  have hnothing : Snapshot.diff { s with generatedAt := built } { s with generatedAt := compared } =
      Diff.empty := Snapshot.diff_eq_empty rfl rfl rfl
  rw [run_diff_of_parseSaved hsaved hread hfresh, hnothing, Diff.report_empty]
  refine ⟨rfl, ?_⟩
  have hquiet : ∀ q ∈ .read path :: requests, q.Scans :=
    List.forall_mem_cons.2 ⟨.inl trivial, hscans⟩
  rw [← List.cons_append, Request.printed_append, Request.printed_of_scans hquiet]
  rfl

/-- A repository with a route and a table that has two columns of one name. -/
def sampleTree : Tree where
  files :=
    [ ("/r/a/x.py", .ok "@router.get(\"/p\")\ndef h():\n"),
      ("/r/s.sql", .ok "CREATE TABLE t (\n  id int,\n  id text\n);\n") ]

/-- A scan of the repository from below its root. -/
def sampleOptions : Options where
  workingDirectory := "/"
  start := "/r/a"
  layout := { routersDir := "a", schemaFile := "s.sql" }
  modules := .inline []

/-- The saved snapshot of the repository, compared a day later. -/
theorem diff_after_build_sample :
    ∃ text,
      (Plan.run (sampleTree.storage.world Instant.epoch)
        (run sampleOptions (.build .json none (some "/r/out.json"))) []).state =
          [("/r/out.json", text)] ∧
      Request.printed (Plan.run
        ((sampleTree.storage.withText "/r/out.json" text).world ⟨86400, 0, by decide, by decide⟩)
          (run sampleOptions (.diff "/r/out.json")) []).requests =
        "No changes since last snapshot.\n" := by
  obtain ⟨s, requests, hrun⟩ := Scan.exists_run_snapshot sampleTree.storage sampleOptions
  have hfirst := hrun sampleTree.storage (fun q _ => Storage.agree_refl _ q) Instant.epoch []
  obtain ⟨hbuild, hwritten⟩ := build_of_write_ok "/r/out.json" hfirst rfl
  refine ⟨_, hwritten, ?_⟩
  refine (diff_after_build (by decide +kernel : Path.extension? "/r/out.json" = some "json")
    (by decide) (by decide +kernel) hbuild hwritten (Storage.withText_read_self _ _ _)
    (fun _ => rfl) fun other h => ⟨Storage.withText_read_of_ne _ _ h, rfl⟩).2

end Command

end Cadastre
