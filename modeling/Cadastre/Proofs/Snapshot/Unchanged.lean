import Cadastre.Proofs.Snapshot.Index
import Cadastre.Snapshot.Report

/-!
# Comparing equal snapshots

Two snapshots with the same routes, tables and modules differ in nothing that a comparison shows,
also where several entries have the same key.
-/

namespace Cadastre

open Index

theorem Route.change?_self (r : Route) : r.change? r = none := by
  simp [Route.change?]

theorem Column.change?_self (c : Column) : c.change? c = none := by
  simp [Column.change?]

theorem Table.change?_self (t : Table) : t.change? t = none := by
  have h := ascending_ofList Column.name t.columns
  simp [Table.change?, h.keysMissingIn_self, h.compareShared_self Column.change?_self]

/-- Nothing is added, removed or changed between snapshots with the same entries, whatever their
times and warnings are. -/
theorem Snapshot.diff_eq_empty {old new : Snapshot} (hroutes : old.routes = new.routes)
    (htables : old.tables = new.tables) (hmodules : old.modules = new.modules) :
    old.diff new = Diff.empty := by
  have hr := ascending_ofList Route.key new.routes
  have ht := ascending_ofList Table.name new.tables
  have hm := ascending_ofList AdminModule.slug new.modules
  simp only [Snapshot.diff, hroutes, htables, hmodules, hr.keysMissingIn_self,
    ht.keysMissingIn_self, hm.keysMissingIn_self, hr.compareShared_self Route.change?_self,
    ht.compareShared_self Table.change?_self]
  rfl

theorem Diff.report_empty : Diff.empty.report = "No changes since last snapshot." := by
  rw [Diff.report, Diff.isEmpty, beq_self_eq_true, if_pos rfl]

end Cadastre
