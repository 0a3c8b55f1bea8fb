import Cadastre.Proofs.World.Storage
import Cadastre.Scan.Snapshot
import Mathlib.Tactic.Choose

/-!
# A scan only looks

The stages of a scan look at files and directories, write the log and do nothing else. The scan then
asks for the time and puts it on what it has found; nothing else in the snapshot depends on it.
-/

namespace Cadastre.Scan

open Plan

/-! ## Stages -/

theorem holdsBoth_only (layout : Layout) (candidate : String) :
    (holdsBoth layout candidate).Only Request.Looks := by
  refine (only_request trivial).bind fun there => ?_
  split
  · exact only_request trivial
  · exact only_pure _

theorem firstRoot?_only (layout : Layout) :
    ∀ candidates, (firstRoot? layout candidates).Only Request.Looks
  | [] => only_pure _
  | candidate :: rest => by
    refine (holdsBoth_only layout candidate).bind fun found => ?_
    refine (only_request trivial).bind fun _ => ?_
    split
    · exact only_pure _
    · exact firstRoot?_only layout rest

theorem readRouters_only (dir folder : String) :
    ∀ names, (readRouters dir folder names).Only Request.Looks
  | [] => only_pure _
  | name :: names => by
    refine (only_request (q := .read _) trivial).bind fun answer => ?_
    cases answer with
    | error message => exact only_pure _
    | ok content =>
      refine (only_request trivial).bind fun _ => ?_
      refine (readRouters_only dir folder names).bind fun rest => ?_
      cases rest <;> exact only_pure _

theorem routes_only (root routersDir extension : String) :
    (routes root routersDir extension).Only Request.Looks := by
  refine (only_request (q := .list _) trivial).bind fun answer => ?_
  cases answer with
  | error message => exact only_pure _
  | ok names =>
    refine (readRouters_only _ _ _).bind fun found => ?_
    cases found <;> exact only_pure _

theorem tables_only (root schemaFile : String) : (tables root schemaFile).Only Request.Looks := by
  refine (only_request (q := .read _) trivial).bind fun answer => ?_
  cases answer with
  | error message => exact only_pure _
  | ok content => exact (only_request trivial).bind fun _ => only_pure _

theorem registry_only (source : ModuleSource) : (registry source).Only Request.Looks := by
  cases source with
  | builtin => exact only_pure _
  | inline registry => exact only_pure _
  | file path =>
    refine (only_request (q := .read _) trivial).bind fun answer => ?_
    cases answer with
    | error message => exact only_pure _
    | ok text =>
      dsimp only
      split <;> exact only_pure _

theorem modules_only (source : ModuleSource) : (modules source).Only Request.Looks := by
  refine (registry_only source).bind fun outcome => ?_
  cases outcome <;> exact only_pure _

theorem orWarn_only {α : Type} {source : Stage} {message : String}
    {stage : Plan (Outcome (List α))} (h : stage.Only Request.Looks) :
    (orWarn source message stage).Only Request.Looks := by
  refine h.bind fun outcome => ?_
  cases outcome with
  | ok entries => exact only_pure _
  | error e => exact (only_request trivial).bind fun _ => only_pure _

theorem warnIfEmpty_only {α : Type} (source : Stage) (message : String) (entries : List α) :
    (warnIfEmpty source message entries).Only Request.Looks := by
  unfold warnIfEmpty
  split
  · exact (only_request trivial).bind fun _ => only_pure _
  · exact only_pure _

/-! ## The snapshot -/

/-- A plan that looks around, asks for the time last, and puts it on the snapshot. -/
def Stamped (p : Plan Snapshot) : Prop :=
  ∃ q : Plan Snapshot, q.Only Request.Looks ∧
    p = q >>= fun s => Plan.now >>= fun time => pure { s with generatedAt := time }

theorem stamped_now (routes : List Route) (tables : List Table) (modules : List AdminModule)
    (warnings : List Warning) :
    Stamped (Plan.now >>= fun time => pure ⟨time, routes, tables, modules, warnings⟩) :=
  ⟨pure ⟨Instant.epoch, routes, tables, modules, warnings⟩, only_pure _, rfl⟩

/-- Looking around before changes nothing about when the time is asked for. -/
theorem Stamped.bind {α : Type} {p : Plan α} {k : α → Plan Snapshot} (hp : p.Only Request.Looks)
    (hk : ∀ a, Stamped (k a)) : Stamped (p >>= k) := by
  choose q hq heq using hk
  refine ⟨p >>= q, hp.bind hq, ?_⟩
  rw [LawfulMonad.bind_assoc, funext heq]

theorem withoutRoot_stamped (options : Options) (modules : List AdminModule)
    (warnings : List Warning) : Stamped (withoutRoot options modules warnings) :=
  .bind (only_request trivial) fun _ => stamped_now _ _ _ _

theorem withRoot_stamped (root : String) (layout : Layout) (modules : List AdminModule)
    (warnings : List Warning) : Stamped (withRoot root layout modules warnings) := by
  refine .bind (only_request trivial) fun _ => ?_
  refine .bind (orWarn_only (routes_only _ _ _)) fun _ => ?_
  refine .bind (orWarn_only (tables_only _ _)) fun _ => ?_
  refine .bind (warnIfEmpty_only _ _ _) fun _ => ?_
  refine .bind (warnIfEmpty_only _ _ _) fun _ => ?_
  refine .bind (only_request trivial) fun _ => ?_
  exact stamped_now _ _ _ _

/-- A scan looks around and puts the time on what it has found. -/
theorem snapshot_stamped (options : Options) : Stamped (snapshot options) := by
  refine .bind (orWarn_only (modules_only _)) fun found => ?_
  refine .bind (firstRoot?_only _ _) fun root => ?_
  cases root with
  | none => exact withoutRoot_stamped _ _ _
  | some root => exact withRoot_stamped _ _ _ _

theorem snapshot_only (options : Options) : (snapshot options).Only Request.Scans := by
  obtain ⟨p, hp, heq⟩ := snapshot_stamped options
  rw [heq]
  refine (hp.mono fun _ => Or.inl).bind fun _ => ?_
  exact (only_request (.inr rfl)).bind fun _ => only_pure _

/-- The runs of a scan over a storage, and over all that agree with it on the requests: nothing but
the time on the snapshot can differ. -/
theorem exists_run_snapshot (storage : Storage) (options : Options) :
    ∃ (s : Snapshot) (requests : List Request), ∀ other : Storage,
      (∀ q ∈ requests, other.Agree storage q) → ∀ time w,
        run (other.world time) (snapshot options) w =
          ⟨.ok { s with generatedAt := time }, w, requests⟩ := by
  obtain ⟨p, hp, heq⟩ := snapshot_stamped options
  obtain ⟨s, requests, hrun⟩ := storage.exists_run_of_looks hp
  refine ⟨s, requests ++ [.now], fun other hagree time w => ?_⟩
  have hfirst := hrun other (fun q hq => hagree q (List.mem_append_left _ hq)) time w
  rw [heq, run_bind_of_ok hfirst]
  rfl

end Cadastre.Scan
