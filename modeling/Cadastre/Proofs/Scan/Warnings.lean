import Cadastre.Proofs.Plan.Outcome
import Cadastre.Proofs.Scan.Looks
import Cadastre.Proofs.Scan.Stages
import Mathlib.Data.List.Forall2

/-!
# What a snapshot warns of

Six notices can stand among the warnings of a snapshot, in one order. Which of them stand there is
told by how the stages of the scan ended and by the lists of the snapshot: a notice is given just if
there is a cause for it, once, and with the detail that belongs to the cause. How the stages ended is
told by the replies to the scan alone, whatever world gave them.
-/

namespace Cadastre

open Plan Scan

variable {options : Options} {ends : Ends}

/-! ## Notices -/

/-- What a snapshot can warn of, in the order of its warnings. -/
inductive Notice where
  /-- The registry of admin modules could not be loaded. -/
  | noModules
  /-- No repository was found. -/
  | noRoot
  /-- The routers could not be listed or one of them not be read. -/
  | noRouters
  /-- The schema could not be read. -/
  | noSchema
  /-- There are no routes. -/
  | noRoutes
  /-- There are no tables. -/
  | noTables
deriving DecidableEq

namespace Notice

/-- All notices in their order. -/
def all : List Notice := [noModules, noRoot, noRouters, noSchema, noRoutes, noTables]

/-- The stage that gives the notice. -/
def stage : Notice → Stage
  | noModules => .modules
  | noRoot => .runtime
  | noRouters => .api
  | noSchema => .db
  | noRoutes => .api
  | noTables => .db

/-- The notice in words. -/
def message (layout : Layout) : Notice → String
  | noModules => "Could not parse module definitions."
  | noRoot => "Could not resolve repository root for API/DB scanning."
  | noRouters => "Could not parse backend routers."
  | noSchema => "Could not parse database schema."
  | noRoutes => "No API routes were discovered from router source files."
  | noTables => s!"No database tables were discovered from {schemaName layout.schemaFile}."

/-- There is a cause for a notice in how the stages of a scan ended or in what it found, and the
detail tells the cause. -/
def Cause (options : Options) (ends : Ends) (s : Snapshot) (detail : Option String) : Notice → Prop
  | noModules => ∃ failure, ends.modules = some failure ∧ detail = some failure.text
  | noRoot => ends.root = none ∧
      detail = some s!"cwd={Path.absolute options.workingDirectory options.start}"
  | noRouters => ∃ failure, ends.routers = some failure ∧ detail = some failure.text
  | noSchema => ∃ failure, ends.schema = some failure ∧ detail = some failure.text
  | noRoutes => ends.root ≠ none ∧ s.routes = [] ∧ detail = none
  | noTables => ends.root ≠ none ∧ s.tables = [] ∧ detail = none

/-- There is a cause for a notice. -/
def Arises (options : Options) (ends : Ends) (s : Snapshot) (n : Notice) : Prop :=
  ∃ detail, n.Cause options ends s detail

/-- A warning gives a notice: its stage warns in its words, and tells a cause of it. -/
structure Gives (options : Options) (ends : Ends) (s : Snapshot) (n : Notice) (w : Warning) :
    Prop where
  source : w.source = n.stage
  message : w.message = n.message options.layout
  detail : n.Cause options ends s w.detail

end Notice

open Notice

/-- Warnings give, in order and each once, those of some notices that there is a cause for. -/
def WarnsOf (options : Options) (ends : Ends) (s : Snapshot) (among : List Notice)
    (warnings : List Warning) : Prop :=
  ∃ given : List Notice, given.Sublist among ∧
    (∀ n ∈ among, n ∈ given ↔ n.Arises options ends s) ∧
    List.Forall₂ (Notice.Gives options ends s) given warnings

section WarnsOf

variable {s : Snapshot}

theorem WarnsOf.append {first second : List Notice} {ws vs : List Warning}
    (hdisjoint : ∀ n ∈ first, n ∉ second) (hfirst : WarnsOf options ends s first ws)
    (hsecond : WarnsOf options ends s second vs) :
    WarnsOf options ends s (first ++ second) (ws ++ vs) := by
  obtain ⟨given, hsub, hmem, hws⟩ := hfirst
  obtain ⟨given', hsub', hmem', hvs⟩ := hsecond
  refine ⟨given ++ given', hsub.append hsub', ?_, List.rel_append hws hvs⟩
  intro n hn
  rw [List.mem_append]
  rcases List.mem_append.1 hn with hn | hn
  · have hnot : n ∉ given' := fun h => hdisjoint n hn (hsub'.subset h)
    rw [← hmem n hn, or_iff_left hnot]
  · have hnot : n ∉ given := fun h => hdisjoint n (hsub.subset h) hn
    rw [← hmem' n hn, or_iff_right hnot]

theorem warnsOf_none {n : Notice} (h : ¬ n.Arises options ends s) :
    WarnsOf options ends s [n] [] := by
  refine ⟨[], List.nil_sublist _, ?_, .nil⟩
  intro m hm
  rw [List.mem_singleton.1 hm]
  exact iff_of_false List.not_mem_nil h

theorem warnsOf_one {n : Notice} {w : Warning} (h : n.Gives options ends s w) :
    WarnsOf options ends s [n] [w] := by
  refine ⟨[n], List.Sublist.refl _, ?_, .cons h .nil⟩
  intro m hm
  rw [List.mem_singleton.1 hm]
  exact iff_of_true List.mem_cons_self ⟨_, h.detail⟩

/-- A stage has warned if and only if there is a cause for one of its notices. -/
theorem WarnsOf.exists_source_iff {among : List Notice} {ws : List Warning}
    (h : WarnsOf options ends s among ws) (stage : Stage) :
    (∃ w ∈ ws, w.source = stage) ↔
      ∃ n ∈ among, n.stage = stage ∧ n.Arises options ends s := by
  obtain ⟨given, hsub, hmem, hgives⟩ := h
  have hstages : given.map Notice.stage = ws.map Warning.source := by
    rw [← List.forall₂_eq_eq_eq, List.forall₂_map_left_iff, List.forall₂_map_right_iff]
    exact hgives.imp fun _ _ hgive => hgive.source.symm
  rw [← List.mem_map, ← hstages, List.mem_map]
  constructor
  · rintro ⟨n, hn, hstage⟩
    exact ⟨n, hsub.subset hn, hstage, (hmem n (hsub.subset hn)).1 hn⟩
  · rintro ⟨n, hn, hstage, harises⟩
    exact ⟨n, (hmem n hn).2 harises, hstage⟩

end WarnsOf

/-! ## Stage by stage -/

section Stages

variable {s : Snapshot} {n : Notice} {α : Type}

/-- The notice of a stage that can fail is given if the stage failed. -/
theorem warnsOf_failure {outcome : Outcome (List α)}
    (hcause : ∀ detail, n.Cause options ends s detail ↔
      ∃ failure, failureOf outcome = some failure ∧ detail = some failure.text) :
    WarnsOf options ends s [n] (failureWarnings n.stage (n.message options.layout) outcome) := by
  cases outcome with
  | ok entries =>
    refine warnsOf_none fun harises => ?_
    obtain ⟨detail, hdetail⟩ := harises
    obtain ⟨failure, hfailure, -⟩ := (hcause detail).1 hdetail
    cases hfailure
  | error e => exact warnsOf_one ⟨rfl, rfl, (hcause _).2 ⟨e, rfl, rfl⟩⟩

/-- The notice of a list that can be empty is given if the list is empty. -/
theorem warnsOf_empty {entries : List α}
    (hcause : ∀ detail, n.Cause options ends s detail ↔ entries = [] ∧ detail = none) :
    WarnsOf options ends s [n] (emptyWarnings n.stage (n.message options.layout) entries) := by
  rw [emptyWarnings]
  split
  · next hempty => exact warnsOf_one ⟨rfl, rfl, (hcause none).2 ⟨List.isEmpty_iff.1 hempty, rfl⟩⟩
  · next hne =>
    refine warnsOf_none fun harises => ?_
    obtain ⟨detail, hdetail⟩ := harises
    exact hne (List.isEmpty_iff.2 ((hcause detail).1 hdetail).1)

theorem warnsOf_noModules {modules : Outcome (List AdminModule)}
    (h : ends.modules = failureOf modules) :
    WarnsOf options ends s [.noModules] (moduleWarnings modules) :=
  warnsOf_failure (n := .noModules) fun detail => by rw [Notice.Cause, h]

/-- Without a repository nothing is said about routers and schema. -/
theorem warnsOf_of_no_root {modules : Outcome (List AdminModule)}
    (hends : ends = ⟨failureOf modules, none, none, none⟩) :
    WarnsOf options ends s Notice.all (moduleWarnings modules ++ [rootWarning options]) := by
  have hmodules : WarnsOf options ends s [.noModules] (moduleWarnings modules) :=
    warnsOf_noModules (congrArg Ends.modules hends)
  have hroot : WarnsOf options ends s [.noRoot] [rootWarning options] :=
    warnsOf_one ⟨rfl, rfl, congrArg Ends.root hends, rfl⟩
  have hsilent : ∀ n ∈ [Notice.noRouters, .noSchema, .noRoutes, .noTables],
      ¬ n.Arises options ends s := by
    subst hends
    simp [Notice.Arises, Notice.Cause]
  have hrest : WarnsOf options ends s [.noRouters, .noSchema, .noRoutes, .noTables] [] :=
    ⟨[], List.nil_sublist _, fun n hn => iff_of_false List.not_mem_nil (hsilent n hn), .nil⟩
  have hall := (hmodules.append (by decide) hroot).append (by decide) hrest
  rwa [List.append_nil] at hall

/-- With a repository each of the other stages warns of itself. -/
theorem warnsOf_of_root {root : String} {modules : Outcome (List AdminModule)}
    {routes : Outcome (List Route)} {tables : Outcome (List Table)}
    (hends : ends = ⟨failureOf modules, some root, failureOf routes, failureOf tables⟩)
    (hroutes : s.routes = entriesOf routes) (htables : s.tables = entriesOf tables) :
    WarnsOf options ends s Notice.all
      (moduleWarnings modules ++ repositoryWarnings options.layout routes tables) := by
  have hmodules : WarnsOf options ends s [.noModules] (moduleWarnings modules) :=
    warnsOf_noModules (congrArg Ends.modules hends)
  have hroot : WarnsOf options ends s [.noRoot] [] := by
    subst hends
    exact warnsOf_none (by simp [Notice.Arises, Notice.Cause])
  have hnoRouters : WarnsOf options ends s [.noRouters]
      (failureWarnings .api (Notice.noRouters.message options.layout) routes) :=
    warnsOf_failure fun detail => by rw [Notice.Cause, hends]
  have hnoSchema : WarnsOf options ends s [.noSchema]
      (failureWarnings .db (Notice.noSchema.message options.layout) tables) :=
    warnsOf_failure fun detail => by rw [Notice.Cause, hends]
  have hnoRoutes : WarnsOf options ends s [.noRoutes]
      (emptyWarnings .api (Notice.noRoutes.message options.layout) s.routes) :=
    warnsOf_empty fun detail => by simp [Notice.Cause, hends]
  have hnoTables : WarnsOf options ends s [.noTables]
      (emptyWarnings .db (Notice.noTables.message options.layout) s.tables) :=
    warnsOf_empty fun detail => by simp [Notice.Cause, hends]
  have hstages := ((hnoRouters.append (by decide) hnoSchema).append (by decide) hnoRoutes).append
    (by decide) hnoTables
  have hall := (hmodules.append (by decide) hroot).append (by decide) hstages
  rw [List.append_nil, hroutes, htables] at hall
  exact hall

end Stages

/-! ## The warnings of a snapshot -/

section Composed

variable {s : Snapshot}

/-- The warnings of a snapshot are those that the ends of its stages and its lists give cause for. -/
theorem Scan.Composed.warnsOf (h : Composed options ends s) :
    WarnsOf options ends s Notice.all s.warnings := by
  cases h with
  | withoutRoot => exact warnsOf_of_no_root rfl
  | withRoot => exact warnsOf_of_root rfl rfl rfl

theorem entriesOf_eq_nil {α : Type} {outcome : Outcome (List α)} (h : failureOf outcome ≠ none) :
    entriesOf outcome = [] := by
  cases outcome with
  | ok entries => exact absurd rfl h
  | error e => rfl

theorem Scan.Composed.modules_eq_nil (h : Composed options ends s) (hmodules : ends.modules ≠ none) :
    s.modules = [] := by
  cases h with
  | withoutRoot | withRoot => exact entriesOf_eq_nil hmodules

theorem Scan.Composed.routes_eq_nil (h : Composed options ends s) (hrouters : ends.routers ≠ none) :
    s.routes = [] := by
  cases h with
  | withoutRoot => rfl
  | withRoot => exact entriesOf_eq_nil hrouters

theorem Scan.Composed.tables_eq_nil (h : Composed options ends s) (hschema : ends.schema ≠ none) :
    s.tables = [] := by
  cases h with
  | withoutRoot => rfl
  | withRoot => exact entriesOf_eq_nil hschema

theorem Scan.Composed.eq_nil_of_no_root (h : Composed options ends s) (hroot : ends.root = none) :
    s.routes = [] ∧ s.tables = [] := by
  cases h with
  | withoutRoot => exact ⟨rfl, rfl⟩
  | withRoot => cases hroot

/-- In a repository there are no routes just if their stage has warned. -/
theorem Scan.Composed.routes_eq_nil_iff (h : Composed options ends s) (hroot : ends.root ≠ none) :
    s.routes = [] ↔ ∃ w ∈ s.warnings, w.source = .api := by
  rw [h.warnsOf.exists_source_iff]
  constructor
  · intro hempty
    exact ⟨.noRoutes, by decide, rfl, none, hroot, hempty, rfl⟩
  · rintro ⟨n, -, hstage, detail, hcause⟩
    cases n with
    | noRouters =>
      obtain ⟨failure, hfailure, -⟩ := hcause
      exact h.routes_eq_nil (by simp [hfailure])
    | noRoutes => exact hcause.2.1
    | noModules | noRoot | noSchema | noTables => cases hstage

/-- In a repository there are no tables just if their stage has warned. -/
theorem Scan.Composed.tables_eq_nil_iff (h : Composed options ends s) (hroot : ends.root ≠ none) :
    s.tables = [] ↔ ∃ w ∈ s.warnings, w.source = .db := by
  rw [h.warnsOf.exists_source_iff]
  constructor
  · intro hempty
    exact ⟨.noTables, by decide, rfl, none, hroot, hempty, rfl⟩
  · rintro ⟨n, -, hstage, detail, hcause⟩
    cases n with
    | noSchema =>
      obtain ⟨failure, hfailure, -⟩ := hcause
      exact h.tables_eq_nil (by simp [hfailure])
    | noTables => exact hcause.2.1
    | noModules | noRoot | noRouters | noRoutes => cases hstage

end Composed

/-- The replies to a scan tell how its stages ended. The warnings of its snapshot are those that there
is a cause for in that, each once and in one order. A registry that cannot be loaded gives no modules,
and without a repository there are neither routes nor tables. In a repository, routes or tables are
missing just if their stage has warned. A world that answers a scan gets a snapshot. -/
theorem warnings_of_snapshot {σ : Type} (world : World σ) (options : Options) (state : σ) :
    (∀ s, (run world (Scan.snapshot options) state).outcome = .ok s →
      ∃ ends,
        (∀ other, Answered options
          (Reply.unlogged (received world (Scan.snapshot options) state)) other ↔ other = ends) ∧
        WarnsOf options ends s Notice.all s.warnings ∧
        (ends.modules ≠ none → s.modules = []) ∧
        (ends.root = none → s.routes = [] ∧ s.tables = []) ∧
        (ends.root ≠ none →
          (s.routes = [] ↔ ∃ w ∈ s.warnings, w.source = .api) ∧
          (s.tables = [] ↔ ∃ w ∈ s.warnings, w.source = .db))) ∧
    (world.Answers Request.Scans →
      ∃ s, (run world (Scan.snapshot options) state).outcome = .ok s) := by
  constructor
  · intro s hs
    obtain ⟨ends, hanswered, hcomposed⟩ := snapshot_course (course_of_outcome hs)
    refine ⟨ends, fun other => ?_, hcomposed.warnsOf, hcomposed.modules_eq_nil,
      hcomposed.eq_nil_of_no_root,
      fun hroot => ⟨hcomposed.routes_eq_nil_iff hroot, hcomposed.tables_eq_nil_iff hroot⟩⟩
    exact ⟨hanswered.unique, fun hother => hother ▸ hanswered⟩
  · intro hworld
    exact (snapshot_only options).exists_outcome hworld state

/-- A world with routers and schema in every directory. No file can be read at first; after that each
holds a table. -/
def recovering : World Bool
  | .read _, asked =>
    (.ok (if asked then .ok "CREATE TABLE t (\n  id int\n);\n" else .error "busy"), true)
  | .probe _, asked | .isFile _, asked => (.ok true, asked)
  | .list _, asked => (.ok (.ok []), asked)
  | .readStart _, asked | .write _ _, asked => (.ok (.error "busy"), asked)
  | .now, asked => (.ok .epoch, asked)
  | .log _, asked | .print _, asked => (.ok (), asked)
  | .abort message, asked => (.error message, asked)

/-- Options that take registry and schema from one file. -/
def sharedOptions : Options where
  workingDirectory := "/"
  start := "r"
  layout := { schemaFile := "s.sql" }
  modules := .file "/r/s.sql"

/-- A file that cannot be read as a registry and later can be read as a schema: there are tables, and
nothing warns of them. -/
theorem warnings_of_snapshot_recovering :
    ∃ s, (run recovering (Scan.snapshot sharedOptions) false).outcome = .ok s ∧
      s.modules = [] ∧ s.routes = [] ∧ s.tables ≠ [] ∧
      (∃ w ∈ s.warnings, w.source = .api) ∧ ¬ ∃ w ∈ s.warnings, w.source = .db := by
  have hanswers : recovering.Answers Request.Scans := by
    intro q hq asked
    cases q with
    | abort message => exact (hq.ne_abort message rfl).elim
    | _ => exact ⟨_, _, rfl⟩
  obtain ⟨hends, hexists⟩ := warnings_of_snapshot recovering sharedOptions false
  obtain ⟨s, hs⟩ := hexists hanswers
  have hlists : (run recovering (Scan.snapshot sharedOptions) false).outcome.toOption.map
      (fun s => (s.modules, s.routes, s.tables)) = some ([], [], [⟨"t", [⟨"id", "int", true⟩]⟩]) := by
    decide +kernel
  simp only [hs, Except.toOption, Option.map_some, Option.some.injEq, Prod.mk.injEq] at hlists
  obtain ⟨hmodules, hroutes, htables⟩ := hlists
  have hne : s.tables ≠ [] := by simp [htables]
  obtain ⟨ends, -, -, -, hnone, hsome⟩ := hends s hs
  obtain ⟨hapi, hdb⟩ := hsome fun hroot => hne (hnone hroot).2
  exact ⟨s, hs, hmodules, hroutes, hne, hapi.1 hroutes, fun hwarned => hne (hdb.2 hwarned)⟩

end Cadastre
