import Cadastre.Proofs.Plan.Outcome
import Cadastre.Proofs.Scan.Isolation
import Cadastre.Proofs.Scan.Looks
import Cadastre.Proofs.Snapshot.Narrowed

/-!
# The order of what a scan finds

Each stage of a scan sorts what it has found, whatever it is answered, and a stage that fails leaves
an empty list. So every snapshot that a scan takes is in documented order, and so is what a search
leaves of it.
-/

namespace Cadastre.Scan

open Plan

/-! ## Stages -/

/-- Every list that a stage gives has a property. -/
def Finds {α : Type} (property : List α → Prop) (stage : Plan (Outcome (List α))) : Prop :=
  stage.Ensures fun outcome => ∀ entries, outcome = .ok entries → property entries

section Finds

variable {α : Type} {property : List α → Prop}

theorem finds_error (e : StageFailure) : Finds property (pure (.error e)) :=
  ensures_pure fun _ h => nomatch h

theorem finds_ok {entries : List α} (h : property entries) :
    Finds property (pure (.ok entries)) :=
  ensures_pure fun _ heq => Except.ok.inj heq ▸ h

theorem orWarn_ensures (source : Stage) (message : String) {stage : Plan (Outcome (List α))}
    (h : Finds property stage) (hnil : property []) :
    (orWarn source message stage).Ensures fun found => property found.1 := by
  refine h.bind fun outcome houtcome => ?_
  rcases outcome with e | entries
  · exact ensures_request_bind fun _ => ensures_pure hnil
  · exact ensures_pure (houtcome entries rfl)

end Finds

theorem routes_finds (root routersDir extension : String) :
    Finds (List.Pairwise fun a b => ¬ b.Precedes a) (routes root routersDir extension) := by
  refine ensures_request_bind fun answer => ?_
  rcases answer with message | names
  · exact finds_error _
  · refine (ensures_true _).bind fun found _ => ?_
    rcases found with e | routes
    · exact finds_error e
    · exact finds_ok (Route.pairwise_sort routes)

theorem tables_finds (root schemaFile : String) :
    Finds (AscendBy Table.name) (tables root schemaFile) := by
  refine ensures_request_bind fun answer => ?_
  rcases answer with message | content
  · exact finds_error _
  · refine ensures_request_bind fun _ => finds_ok ?_
    exact (stablySorted_sortByKey Table.name _).ascending

theorem modules_finds (source : ModuleSource) :
    Finds (AscendBy AdminModule.slug) (modules source) := by
  refine (ensures_true _).bind fun outcome _ => ?_
  rcases outcome with e | registry
  · exact finds_error e
  · exact finds_ok (stablySorted_sortByKey AdminModule.slug _).ascending

/-! ## The snapshot -/

theorem withoutRoot_ensures (options : Options) {modules : List AdminModule}
    (warnings : List Warning) (hmodules : AscendBy AdminModule.slug modules) :
    (withoutRoot options modules warnings).Ensures Snapshot.InOrder :=
  ensures_request_bind fun _ => ensures_request_bind fun _ => ensures_pure
    ⟨List.Pairwise.nil, List.Pairwise.nil, hmodules⟩

theorem withRoot_ensures (root : String) (layout : Layout) {modules : List AdminModule}
    (warnings : List Warning) (hmodules : AscendBy AdminModule.slug modules) :
    (withRoot root layout modules warnings).Ensures Snapshot.InOrder := by
  refine ensures_request_bind fun _ => ?_
  refine (orWarn_ensures _ _ (routes_finds _ _ _) List.Pairwise.nil).bind ?_
  rintro ⟨routes, _⟩ hroutes
  refine (orWarn_ensures _ _ (tables_finds _ _) List.Pairwise.nil).bind ?_
  rintro ⟨tables, _⟩ htables
  refine (ensures_true _).bind fun _ _ => (ensures_true _).bind fun _ _ => ?_
  exact ensures_request_bind fun _ => ensures_request_bind fun _ => ensures_pure
    ⟨hroutes, htables, hmodules⟩

theorem snapshot_ensures_inOrder (options : Options) :
    (snapshot options).Ensures Snapshot.InOrder := by
  refine (orWarn_ensures _ _ (modules_finds _) List.Pairwise.nil).bind ?_
  rintro ⟨modules, warnings⟩ hmodules
  refine (ensures_true _).bind fun root _ => ?_
  rcases root with _ | root
  · exact withoutRoot_ensures options warnings hmodules
  · exact withRoot_ensures root options.layout warnings hmodules

/-- A scan of a world that answers it ends with a snapshot. Whatever the answers were, what a query
leaves of the snapshot is in documented order, and is a part of the snapshot with everything in the
order that it had. -/
theorem filter_snapshot_inOrder {σ : Type} (world : World σ) (options : Options) (query : String)
    (s : σ) :
    (∀ found, (run world (snapshot options) s).outcome = .ok found →
      (found.filter query).InOrder ∧ (found.filter query).PartOf found) ∧
    (world.Answers Request.Scans → ∃ found, (run world (snapshot options) s).outcome = .ok found) := by
  constructor
  · intro found hfound
    have horder : found.InOrder := (snapshot_ensures_inOrder options).of_outcome hfound
    have hpart : (found.filter query).PartOf found := found.filter_partOf query
    exact ⟨hpart.inOrder horder, hpart⟩
  · intro hworld
    exact (snapshot_only options).exists_outcome hworld s

/-- A scan of a repository with a table of two columns ends, and a search leaves one of them. -/
theorem filter_snapshot_inOrder_table :
    let storage := (sampleRepository (.ok "@router.get(\"/p\")\ndef h():\n")
      (.ok "CREATE TABLE t (\n  id int,\n  name text\n);\n") (.error "denied")).storage
    ∃ found, (run (storage.world .epoch) (snapshot repositoryOptions) []).outcome = .ok found ∧
      (found.filter " TEXT").tables = [⟨"t", [⟨"name", "text", true⟩]⟩] ∧
      (found.filter " TEXT").InOrder ∧ (found.filter " TEXT").PartOf found := by
  intro storage
  have hworld : (storage.world .epoch).Answers Request.Scans := by
    intro q hq
    exact storage.world_answers .epoch q hq.ne_abort
  obtain ⟨hordered, hends⟩ :=
    filter_snapshot_inOrder (storage.world .epoch) repositoryOptions " TEXT" []
  obtain ⟨found, hfound⟩ := hends hworld
  refine ⟨found, hfound, ?_, hordered found hfound⟩
  rw [outcome_snapshot] at hfound
  obtain rfl := Except.ok.inj hfound
  decide +kernel

end Cadastre.Scan
