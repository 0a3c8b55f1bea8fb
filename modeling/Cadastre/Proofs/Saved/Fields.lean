import Cadastre.Proofs.Decode.Presented
import Cadastre.Saved.Snapshot

/-!
# Saved records are read back

Whatever presents a saved route, column, table, module, warning or snapshot is read as that record,
in every format.
-/

namespace Cadastre

open Decode

variable {σ : Type} [Source σ] {x : σ}

/-! ## Names -/

theorem Method.find?_name (m : Method) : Method.all.find? (fun v => v.name == m.name) = some m := by
  cases m <;> decide

theorem Auth.find?_name (a : Auth) : Auth.all.find? (fun v => v.name == a.name) = some a := by
  cases a <;> decide

theorem Stage.find?_name (s : Stage) : Stage.all.find? (fun v => v.name == s.name) = some s := by
  cases s <;> decide

/-! ## Records -/

/-- A route is read from what presents it. -/
theorem Route.record_eq (r : Route) (h : Presents x r.toJson) : record Route.shape x = pure r := by
  refine Decode.record_eq ?_ rfl h
  refine .put rfl rfl (fun _ hx => field_put (oneOf_eq (Method.find?_name r.method) hx)) ?_
  refine .put rfl rfl (fun _ hx => field_put (string_eq hx)) ?_
  refine .put rfl rfl (fun _ hx => field_put (status_eq hx)) ?_
  refine .put rfl rfl (fun _ hx => field_put (oneOf_eq (Auth.find?_name r.auth) hx)) ?_
  refine .put rfl rfl (fun _ hx => field_put (string_eq hx)) ?_
  refine .put rfl rfl (fun _ hx => field_put (string_eq hx)) ?_
  exact .done _ _

/-- A column is read from what presents it. -/
theorem Column.record_eq (c : Column) (h : Presents x c.toJson) :
    record Column.shape x = pure c := by
  refine Decode.record_eq ?_ rfl h
  refine .put rfl rfl (fun _ hx => field_put (string_eq hx)) ?_
  refine .put rfl rfl (fun _ hx => field_put (string_eq hx)) ?_
  refine .put rfl rfl (fun _ hx => field_put (bool_eq hx)) ?_
  exact .done _ _

/-- A table is read from what presents it. -/
theorem Table.record_eq (t : Table) (h : Presents x t.toJson) : record Table.shape x = pure t := by
  refine Decode.record_eq ?_ rfl h
  refine .put rfl rfl (fun _ hx => field_put (string_eq hx)) ?_
  refine .put rfl rfl (fun _ hx => field_put (list_eq (fun c _ _ => Column.record_eq c) hx)) ?_
  exact .done _ _

/-- A module is read from what presents it. -/
theorem AdminModule.record_eq (m : AdminModule) (h : Presents x m.toJson) :
    record AdminModule.shape x = pure m := by
  refine Decode.record_eq ?_ rfl h
  refine .put rfl rfl (fun _ hx => field_put (string_eq hx)) ?_
  refine .put rfl rfl (fun _ hx => field_put (string_eq hx)) ?_
  refine .put rfl rfl (fun _ hx => field_put (string_eq hx)) ?_
  refine .put rfl rfl (fun _ hx => field_put (string_eq hx)) ?_
  refine .put rfl rfl (fun _ hx => field_put (string_eq hx)) ?_
  refine .put rfl rfl (fun _ hx => field_put (string_eq hx)) ?_
  exact .done _ _

/-- A warning is read from what presents it, with its detail if it has one. -/
theorem Warning.record_eq (w : Warning) (h : Presents x w.toJson) :
    record Warning.shape x = pure w := by
  obtain ⟨source, message, detail⟩ := w
  cases detail with
  | none =>
    refine Decode.record_eq ?_ rfl h
    refine .put rfl rfl (fun _ hx => field_put (oneOf_eq (Stage.find?_name source) hx)) ?_
    refine .put rfl rfl (fun _ hx => field_put (string_eq hx)) ?_
    exact .done _ _
  | some d =>
    refine Decode.record_eq ?_ rfl h
    refine .put rfl rfl (fun _ hx => field_put (oneOf_eq (Stage.find?_name source) hx)) ?_
    refine .put rfl rfl (fun _ hx => field_put (string_eq hx)) ?_
    refine .put rfl rfl (fun _ hx => optionalField_put (optional_eq hx)) ?_
    exact .done _ _

/-- A snapshot is read from what presents it, whatever the format. -/
theorem Snapshot.decode_eq (s : Snapshot) (h : Presents x s.toJson) :
    Snapshot.decode x = pure s := by
  refine Decode.record_eq ?_ rfl h
  refine .put rfl rfl (fun _ hx => field_put (instant_eq hx)) ?_
  refine .put rfl rfl (fun _ hx => field_put (list_eq (fun r _ _ => Route.record_eq r) hx)) ?_
  refine .put rfl rfl (fun _ hx => field_put (list_eq (fun t _ _ => Table.record_eq t) hx)) ?_
  refine .put rfl rfl (fun _ hx => field_put (list_eq (fun m _ _ => AdminModule.record_eq m) hx)) ?_
  refine .put rfl rfl (fun _ hx => field_put (list_eq (fun w _ _ => Warning.record_eq w) hx)) ?_
  exact .done _ _

end Cadastre
