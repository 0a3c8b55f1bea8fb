import Cadastre.Proofs.Snapshot.Order
import Cadastre.Snapshot.Filter
import Mathlib.Data.List.Forall2

/-!
# Parts of a snapshot

What a search leaves of a snapshot is a part of it: entries are left out, and columns of tables, but
what stays keeps its order. A part of a snapshot in documented order is in documented order.
-/

namespace Cadastre

/-! ## Documented order -/

/-- A list of keys that may stand before another one does not come after it in byte order. -/
theorem not_lex_of_keysLe {xs ys : List String} (h : keysLe xs ys = true) :
    ¬ List.Lex Text.Precedes ys xs := by
  intro hlex
  induction xs generalizing ys with
  | nil => cases hlex
  | cons x xs ih =>
    cases ys with
    | nil => cases h
    | cons y ys =>
      rcases keysLe_cons.1 h with hlt | ⟨rfl, hrest⟩
      · cases hlex with
        | rel hfirst => exact lt_asymm hlt (Text.precedes_iff.1 hfirst)
        | cons _ => exact lt_irrefl _ hlt
      · cases hlex with
        | rel hfirst => exact lt_irrefl _ (Text.precedes_iff.1 hfirst)
        | cons hlex => exact ih hrest hlex

/-- Whether a route comes before another one: by its path, then by the name of its method, its file
and its handler, each in byte order. -/
def Route.Precedes (a b : Route) : Prop :=
  List.Lex Text.Precedes [a.path, a.method.name, a.sourceFile, a.handler]
    [b.path, b.method.name, b.sourceFile, b.handler]

theorem Route.pairwise_sort (routes : List Route) :
    (Route.sort routes).Pairwise fun a b => ¬ b.Precedes a := by
  have htrans : ∀ a b c : Route, a.le b → b.le c → a.le c := fun _ _ _ => keysLe_trans
  have htotal : ∀ a b : Route, a.le b || b.le a := fun _ _ => keysLe_total _ _
  refine (List.pairwise_mergeSort htrans htotal routes).imp ?_
  intro a b hle
  exact not_lex_of_keysLe hle

/-- Entries that ascend by a key, in byte order. -/
def AscendBy {α : Type} (key : α → String) (entries : List α) : Prop :=
  entries.Pairwise fun a b => ¬ Text.Precedes (key b) (key a)

/-- A snapshot in documented order. -/
structure Snapshot.InOrder (s : Snapshot) : Prop where
  routes : s.routes.Pairwise fun a b => ¬ b.Precedes a
  tables : AscendBy Table.name s.tables
  modules : AscendBy AdminModule.slug s.modules

/-! ## Parts -/

/-- A table from which columns may have been left out. -/
structure Table.PartOf (part t : Table) : Prop where
  name : part.name = t.name
  columns : part.columns.Sublist t.columns

theorem Table.partOf_refl (t : Table) : t.PartOf t :=
  ⟨rfl, List.Sublist.refl _⟩

/-- A snapshot from which entries, and columns of tables, may have been left out. -/
structure Snapshot.PartOf (part s : Snapshot) : Prop where
  routes : part.routes.Sublist s.routes
  tables : List.SublistForall₂ Table.PartOf part.tables s.tables
  modules : part.modules.Sublist s.modules
  warnings : part.warnings.Sublist s.warnings

theorem Table.map_name_eq_of_forall₂ {parts tables : List Table}
    (h : List.Forall₂ Table.PartOf parts tables) : parts.map Table.name = tables.map Table.name := by
  induction h with
  | nil => rfl
  | cons hfirst _ ih => rw [List.map_cons, List.map_cons, hfirst.name, ih]

/-- Tables of a part ascend by name if those of the whole do. -/
theorem Table.ascendBy_of_sublist {part tables : List Table}
    (h : List.SublistForall₂ Table.PartOf part tables) (hasc : AscendBy Table.name tables) :
    AscendBy Table.name part := by
  obtain ⟨kept, hpart, hsub⟩ := List.sublistForall₂_iff.1 h
  have hkept : (kept.map Table.name).Pairwise fun a b => ¬ Text.Precedes b a :=
    List.pairwise_map.2 (List.Pairwise.sublist hsub hasc)
  rw [← map_name_eq_of_forall₂ hpart] at hkept
  exact List.pairwise_map.1 hkept

theorem Snapshot.PartOf.inOrder {part s : Snapshot} (hpart : part.PartOf s) (hs : s.InOrder) :
    part.InOrder where
  routes := hs.routes.sublist hpart.routes
  tables := Table.ascendBy_of_sublist hpart.tables hs.tables
  modules := List.Pairwise.sublist hpart.modules hs.modules

/-! ## What a search leaves -/

theorem Table.partOf_of_narrow? {needle : List Char} {part t : Table}
    (h : t.narrow? needle = some part) : part.PartOf t := by
  rw [narrow?] at h
  split at h
  · obtain rfl := Option.some.inj h
    exact t.partOf_refl
  · rcases hcolumns : t.columns.filter (fun c => anyContains needle c.searched) with _ | ⟨c, rest⟩
    · rw [hcolumns] at h
      cases h
    · rw [hcolumns] at h
      obtain rfl := Option.some.inj h
      refine ⟨rfl, ?_⟩
      show List.Sublist (c :: rest) t.columns
      rw [← hcolumns]
      exact List.filter_sublist

/-- Tables that are narrowed one by one, or left out, are parts of them. -/
theorem Table.sublistForall₂_filterMap {narrowed? : Table → Option Table}
    (h : ∀ t part, narrowed? t = some part → part.PartOf t) (tables : List Table) :
    List.SublistForall₂ Table.PartOf (tables.filterMap narrowed?) tables := by
  induction tables with
  | nil => exact .nil
  | cons t rest ih =>
    rcases ht : narrowed? t with _ | part
    · rw [List.filterMap_cons_none ht]
      exact .cons_right ih
    · rw [List.filterMap_cons_some ht]
      exact .cons (h t part ht) ih

theorem Snapshot.filter_partOf (s : Snapshot) (query : String) : (s.filter query).PartOf s := by
  rw [filter]
  split
  · refine ⟨List.Sublist.refl _, ?_, List.Sublist.refl _, List.Sublist.refl _⟩
    have hall : List.SublistForall₂ Table.PartOf (s.tables.filterMap some) s.tables :=
      Table.sublistForall₂_filterMap (fun t part h => Option.some.inj h ▸ t.partOf_refl) s.tables
    rwa [List.filterMap_some] at hall
  · refine ⟨List.filter_sublist, ?_, List.filter_sublist, List.filter_sublist⟩
    exact Table.sublistForall₂_filterMap (fun t part => Table.partOf_of_narrow?) s.tables

end Cadastre
