import Cadastre.Proofs.Snapshot.Exact

/-!
# Comparisons back

A comparison goes from one snapshot to another one and looks through the entries of the later one.
The comparison back finds the same from the other side: what was added is removed and what was
removed is added, the same routes and tables have changed, in the same order, and each change goes
from the later value to the earlier one.
-/

namespace Cadastre

/-! ## Routes -/

namespace Route

/-- The fields of a route that are compared, as they are shown. -/
def compared (r : Route) : List (String × String) :=
  [("status", toString r.status.toNat), ("auth", r.auth.name), ("handler", r.handler)]

/-- Two lines say of one field how it went from its value before to its value after, and back. -/
def ReversesField (before after : Route) (forth back : String) : Prop :=
  ∃ field earlier later, (field, earlier) ∈ before.compared ∧ (field, later) ∈ after.compared ∧
    forth = changeOf field earlier later ∧ back = changeOf field later earlier

/-- Lines that are shown together on both sides match as far as they are shown. -/
theorem forall₂_shown {reverses : String → String → Prop} {forth back : List (Bool × String)}
    (h : List.Forall₂ (fun x y => x.1 = y.1 ∧ reverses x.2 y.2) forth back) :
    List.Forall₂ reverses ((forth.filter Prod.fst).map Prod.snd)
      ((back.filter Prod.fst).map Prod.snd) := by
  induction h with
  | nil => exact .nil
  | @cons x y _ _ hfirst _ ih =>
    obtain ⟨hshown, hreverses⟩ := hfirst
    by_cases hx : x.1 = true
    · rw [List.filter_cons_of_pos hx, List.filter_cons_of_pos (hshown ▸ hx), List.map_cons,
        List.map_cons]
      exact .cons hreverses ih
    · rw [List.filter_cons_of_neg hx, List.filter_cons_of_neg (hshown ▸ hx)]
      exact ih

theorem forall₂_fieldChanges (before after : Route) : List.Forall₂ (before.ReversesField after)
    (before.fieldChanges after) (after.fieldChanges before) := by
  have hstatus : before.ReversesField after
      (changeOf "status" (toString before.status.toNat) (toString after.status.toNat))
      (changeOf "status" (toString after.status.toNat) (toString before.status.toNat)) :=
    ⟨_, _, _, by simp [compared], by simp [compared], rfl, rfl⟩
  have hauth : before.ReversesField after (changeOf "auth" before.auth.name after.auth.name)
      (changeOf "auth" after.auth.name before.auth.name) :=
    ⟨_, _, _, by simp [compared], by simp [compared], rfl, rfl⟩
  have hhandler : before.ReversesField after (changeOf "handler" before.handler after.handler)
      (changeOf "handler" after.handler before.handler) :=
    ⟨_, _, _, by simp [compared], by simp [compared], rfl, rfl⟩
  unfold fieldChanges
  refine forall₂_shown (.cons ⟨?_, hstatus⟩ (.cons ⟨?_, hauth⟩ (.cons ⟨?_, hhandler⟩ .nil)))
  all_goals exact decide_eq_decide.2 ne_comm

end Route

/-! ## What two comparisons find -/

/-- The changes of one route, forth and back: the same fields, each with its values exchanged. -/
structure RouteChange.Reverses (old new : Snapshot) (forth back : RouteChange) : Prop where
  route : back.route = forth.route
  changes : ∃ before after, standing? Route.key old.routes forth.route = some before ∧
    standing? Route.key new.routes forth.route = some after ∧
    List.Forall₂ (before.ReversesField after) forth.changes back.changes

/-- Two lines say of one column how it went from what it was to what it is, and back. -/
def Table.ReversesColumn (before after : Table) (forth back : String) : Prop :=
  ∃ name earlier later, standing? Column.name before.columns name = some earlier ∧
    standing? Column.name after.columns name = some later ∧
    forth = s!"{earlier.describe} -> {later.describe}" ∧
    back = s!"{later.describe} -> {earlier.describe}"

/-- The changes of one table, forth and back: columns are added and removed the other way round, and
the same ones are altered, each with its descriptions exchanged. -/
structure TableChange.Reverses (old new : Snapshot) (forth back : TableChange) : Prop where
  name : back.name = forth.name
  added : back.added = forth.removed
  removed : back.removed = forth.added
  altered : ∃ before after, standing? Table.name old.tables forth.name = some before ∧
    standing? Table.name new.tables forth.name = some after ∧
    List.Forall₂ (before.ReversesColumn after) forth.altered back.altered

/-- What two comparisons find, of which the second one goes back. -/
structure Diff.Reverses (old new : Snapshot) (forth back : Diff) : Prop where
  addedRoutes : back.addedRoutes = forth.removedRoutes
  removedRoutes : back.removedRoutes = forth.addedRoutes
  changedRoutes : List.Forall₂ (RouteChange.Reverses old new) forth.changedRoutes back.changedRoutes
  addedTables : back.addedTables = forth.removedTables
  removedTables : back.removedTables = forth.addedTables
  changedTables : List.Forall₂ (TableChange.Reverses old new) forth.changedTables back.changedTables
  addedModules : back.addedModules = forth.removedModules
  removedModules : back.removedModules = forth.addedModules

/-! ## One entry -/

theorem Route.isSome_change?_symm {before after : Route}
    (h : (before.change? after).isSome = true) : (after.change? before).isSome = true := by
  obtain ⟨c, hc⟩ := Option.isSome_iff_exists.1 h
  have hdiffers := (change?_eq_some_iff.1 hc).1
  exact Option.isSome_iff_exists.2 ⟨_, change?_eq_some_iff.2 ⟨hdiffers.symm, rfl⟩⟩

theorem Column.isSome_change?_symm {before after : Column} (hname : before.name = after.name)
    (h : (before.change? after).isSome = true) : (after.change? before).isSome = true := by
  obtain ⟨text, htext⟩ := Option.isSome_iff_exists.1 h
  have hdiffers := ((change?_eq_some_iff hname).1 htext).1
  exact Option.isSome_iff_exists.2 ⟨_, (change?_eq_some_iff hname.symm).2 ⟨hdiffers.symm, rfl⟩⟩

theorem Table.isSome_change?_symm {before after : Table}
    (h : (before.change? after).isSome = true) : (after.change? before).isSome = true := by
  rw [Option.isSome_iff_ne_none, ne_eq, change?_eq_none_iff] at h ⊢
  exact fun hsame => h hsame.symm

theorem Table.forall₂_altered (before after : Table) : List.Forall₂ (before.ReversesColumn after)
    (before.changes after).altered (after.changes before).altered := by
  refine (Index.forall₂_compareShared Column.name before.columns after.columns Column.change?
    Column.isSome_change?_symm).imp ?_
  rintro forth back ⟨k, earlier, later, hearlier, hlater, hforth, hback⟩
  have hname : earlier.name = later.name :=
    (key_of_standing hearlier).trans (key_of_standing hlater).symm
  obtain ⟨-, rfl⟩ := (Column.change?_eq_some_iff hname).1 hforth
  obtain ⟨-, rfl⟩ := (Column.change?_eq_some_iff hname.symm).1 hback
  exact ⟨k, earlier, later, hearlier, hlater, rfl, rfl⟩

/-! ## Snapshots -/

namespace Snapshot

theorem forall₂_changedRoutes (old new : Snapshot) : List.Forall₂ (RouteChange.Reverses old new)
    (old.diff new).changedRoutes (new.diff old).changedRoutes := by
  refine (Index.forall₂_compareShared Route.key old.routes new.routes Route.change?
    fun _ => Route.isSome_change?_symm).imp ?_
  rintro forth back ⟨k, before, after, hbefore, hafter, hforth, hback⟩
  obtain ⟨-, rfl⟩ := Route.change?_eq_some_iff.1 hforth
  obtain ⟨-, rfl⟩ := Route.change?_eq_some_iff.1 hback
  obtain rfl := key_of_standing hafter
  have hkey : before.key = after.key := key_of_standing hbefore
  exact ⟨hkey, before, after, hbefore, hafter, before.forall₂_fieldChanges after⟩

theorem forall₂_changedTables (old new : Snapshot) : List.Forall₂ (TableChange.Reverses old new)
    (old.diff new).changedTables (new.diff old).changedTables := by
  refine (Index.forall₂_compareShared Table.name old.tables new.tables Table.change?
    fun _ => Table.isSome_change?_symm).imp ?_
  rintro forth back ⟨k, before, after, hbefore, hafter, hforth, hback⟩
  obtain ⟨rfl, -⟩ := Table.change?_eq_some_iff_changes.1 hforth
  obtain ⟨rfl, -⟩ := Table.change?_eq_some_iff_changes.1 hback
  obtain rfl := key_of_standing hafter
  have hname : before.name = after.name := key_of_standing hbefore
  exact ⟨hname, rfl, rfl, before, after, hbefore, hafter, before.forall₂_altered after⟩

/-- The comparison back from the later of two snapshots finds what the comparison forth finds, with
the two sides exchanged. Keys may be repeated in both of them. -/
theorem diff_reverses (old new : Snapshot) :
    Diff.Reverses old new (old.diff new) (new.diff old) where
  addedRoutes := rfl
  removedRoutes := rfl
  changedRoutes := forall₂_changedRoutes old new
  addedTables := rfl
  removedTables := rfl
  changedTables := forall₂_changedTables old new
  addedModules := rfl
  removedModules := rfl

/-- Of two routes with one key the last one counts, forth and back. -/
example :
    let a : Route := ⟨.get, "/p", 200, .anyone, "r.py", "a"⟩
    let b : Route := { a with status := 201, handler := "b" }
    let c : Route := { a with status := 404 }
    let old : Snapshot := ⟨.epoch, [c, a], [], [], []⟩
    let new : Snapshot := ⟨.epoch, [c, b], [], [], []⟩
    (old.diff new).changedRoutes =
        [⟨"GET /p (r.py)", ["status: 200 -> 201", "handler: a -> b"]⟩] ∧
      (new.diff old).changedRoutes =
        [⟨"GET /p (r.py)", ["status: 201 -> 200", "handler: b -> a"]⟩] := by
  decide +kernel

end Snapshot

end Cadastre
