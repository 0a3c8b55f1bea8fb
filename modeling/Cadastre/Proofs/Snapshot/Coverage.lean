import Cadastre.Proofs.Snapshot.Addition

/-!
# What an empty comparison tells

Where a comparison of two snapshots finds nothing, each key has an entry in both of them or in
neither. That no entry is lost can be told from it only where the entries of a snapshot are told
apart by their keys: routes by method, path and file, tables by name, and columns by name in their
table.
-/

namespace Cadastre

variable {a b : Route} {before after : Table} {s t : Snapshot} {folder name other : String}

/-! ## Routes -/

theorem Method.name_injective {m n : Method} (h : m.name = n.name) : m = n := by
  cases m <;> cases n <;> first | rfl | exact absurd h (by decide)

namespace Route

/-- Two routes have one method, path and file. -/
def SamePlace (a b : Route) : Prop :=
  a.method = b.method ∧ a.path = b.path ∧ a.sourceFile = b.sourceFile

/-- A route is from a file in a folder. -/
def FromFolder (folder : String) (r : Route) : Prop :=
  ∃ name : String, '/' ∉ name.toList ∧ r.sourceFile = folder ++ "/" ++ name

/-- The key of a route from a folder tells its method, path and file. -/
theorem samePlace_of_key_eq (ha : a.FromFolder folder) (hb : b.FromFolder folder)
    (hkey : a.key = b.key) : a.SamePlace b := by
  obtain ⟨name, hname, ha⟩ := ha
  obtain ⟨other, hother, hb⟩ := hb
  obtain rfl := name_eq_of_key_eq hname hother ha hb hkey
  have hfile : a.sourceFile = b.sourceFile := ha.trans hb.symm
  -- with the file known from the folder, the method ends at the first blank of the key
  have htext : a.method.name.toList ++ ' ' :: (a.path.toList ++ ' ' :: '(' ::
        (b.sourceFile.toList ++ [')'])) =
      b.method.name.toList ++ ' ' :: (b.path.toList ++ ' ' :: '(' ::
        (b.sourceFile.toList ++ [')'])) := by
    have htext := congrArg String.toList hkey
    simpa [key, toString, hfile] using htext
  have hblank : ∀ m : Method, ' ' ∉ m.name.toList := by
    intro m
    cases m <;> decide
  obtain ⟨hmethod, hrest⟩ := Text.append_cons_inj (hblank _) (hblank _) htext
  have hpath : a.path.toList = b.path.toList := List.append_cancel_right hrest
  exact ⟨Method.name_injective (String.toList_injective hmethod), String.toList_injective hpath,
    hfile⟩

theorem eq_of_samePlace (h : a.SamePlace b) (hdiffers : ¬ a.Differs b) : a = b := by
  obtain ⟨method, path, status, auth, sourceFile, handler⟩ := a
  obtain ⟨method', path', status', auth', sourceFile', handler'⟩ := b
  obtain ⟨rfl, rfl, rfl⟩ := h
  simpa [Differs, not_or] using hdiffers

end Route

/-! ## Tables -/

namespace Table

/-- The columns of a table are told apart by their names. -/
def DistinctColumns (t : Table) : Prop :=
  ∀ b ∈ t.columns, ∀ c ∈ t.columns, b.name = c.name → b = c

/-- For each column of a table, one of its columns with that name is a column of another table. -/
def SharesColumns (before after : Table) : Prop :=
  ∀ c ∈ before.columns, ∃ c' ∈ before.columns, c'.name = c.name ∧ c' ∈ after.columns

theorem SameColumns.sharesColumns (h : before.SameColumns after) : before.SharesColumns after := by
  intro c hc
  obtain ⟨b, hb, a, ha, hbc, hac, hsame⟩ := AgreeByKey.exists_of_mem h hc
  refine ⟨b, hb, hbc, ?_⟩
  obtain rfl : b = a := by
    obtain ⟨name, type, nullable⟩ := b
    obtain ⟨name', type', nullable'⟩ := a
    obtain rfl : name' = name := hac.trans hbc.symm
    simpa [Column.Differs, not_or] using hsame
  exact ha

theorem SharesColumns.mem (h : before.SharesColumns after) (hdistinct : before.DistinctColumns)
    {c : Column} (hc : c ∈ before.columns) : c ∈ after.columns := by
  obtain ⟨c', hc', hname, hafter⟩ := h c hc
  rwa [← hdistinct c' hc' c hc hname]

end Table

/-! ## Snapshots -/

namespace Snapshot

/-- The entries of a snapshot are told apart by their keys. -/
structure Unambiguous (s : Snapshot) : Prop where
  routes : ∀ a ∈ s.routes, ∀ b ∈ s.routes, a.SamePlace b → a = b
  tables : ∀ t ∈ s.tables, ∀ u ∈ s.tables, t.name = u.name → ∀ c, c ∈ t.columns ↔ c ∈ u.columns
  columns : ∀ t ∈ s.tables, t.DistinctColumns

/-- A snapshot has all routes of another one and, for each of its tables, one with that name and the
same columns. -/
structure Covers (t s : Snapshot) : Prop where
  routes : ∀ r ∈ s.routes, r ∈ t.routes
  tables : ∀ before ∈ s.tables, ∃ after ∈ t.tables, after.name = before.name ∧
    ∀ c, c ∈ before.columns ↔ c ∈ after.columns

/-- For each route of a snapshot, another one has a route of its place as the first one lists it,
and for each of its tables, a table of that name with shared columns. -/
structure CoversPlaces (t s : Snapshot) : Prop where
  routes : ∀ r ∈ s.routes, ∃ r' ∈ s.routes, r.SamePlace r' ∧ r' ∈ t.routes
  tables : ∀ listed ∈ s.tables, ∃ before ∈ s.tables, before.name = listed.name ∧
    ∃ after ∈ t.tables, after.name = listed.name ∧
      before.SharesColumns after ∧ after.SharesColumns before

/-- Where the entries of two snapshots are told apart by their keys, each place has one entry, so no
entry is lost. -/
theorem CoversPlaces.covers (h : t.CoversPlaces s) (hs : s.Unambiguous) (ht : t.Unambiguous) :
    t.Covers s where
  routes := by
    intro r hr
    obtain ⟨r', hr', hplace, hmem⟩ := h.routes r hr
    rwa [hs.routes r hr r' hr' hplace]
  tables := by
    intro listed hlisted
    obtain ⟨before, hbefore, hname, after, hafter, hname', hkept, hadded⟩ := h.tables listed hlisted
    refine ⟨after, hafter, hname', fun c => ?_⟩
    rw [hs.tables listed hlisted before hbefore hname.symm]
    constructor
    · exact hkept.mem (hs.columns before hbefore)
    · exact hadded.mem (ht.columns after hafter)

/-- Snapshots with the same tables and modules agree if their routes do. -/
theorem agree_of_routes
    (hroutes : AgreeByKey (fun before after => ¬ before.Differs after) Route.key s.routes t.routes)
    (htables : s.tables = t.tables) (hmodules : s.modules = t.modules) : s.Agree t := by
  have hrest : s.diff { t with routes := s.routes } = Diff.empty :=
    diff_eq_empty rfl htables hmodules
  have hagree := isEmpty_diff_iff.1 (congrArg Diff.isEmpty hrest)
  exact ⟨hroutes, hagree.tables, hagree.modules⟩

theorem Agree.symm (h : s.Agree t) : t.Agree s where
  routes := h.routes.symm fun _ _ hsame hdiffers => hsame hdiffers.symm
  tables := h.tables.symm fun _ _ => Table.SameColumns.symm
  modules := fun k => (h.modules k).symm

/-- Where two snapshots agree by key, the entry that stands for a key in one of them is in the other
one too. -/
theorem Agree.coversPlaces (h : s.Agree t) (hs : ∀ r ∈ s.routes, r.FromFolder folder)
    (ht : ∀ r ∈ t.routes, r.FromFolder folder) : t.CoversPlaces s where
  routes := by
    intro r hr
    obtain ⟨before, hbefore, after, hafter, hkey, hkey', hsame⟩ := h.routes.exists_of_mem hr
    have hplace := Route.samePlace_of_key_eq (hs r hr) (hs before hbefore) hkey.symm
    have hplace' := Route.samePlace_of_key_eq (hs before hbefore) (ht after hafter)
      (hkey.trans hkey'.symm)
    obtain rfl : before = after := Route.eq_of_samePlace hplace' hsame
    exact ⟨before, hbefore, hplace, hafter⟩
  tables := by
    intro listed hlisted
    obtain ⟨before, hbefore, after, hafter, hname, hname', hsame⟩ :=
      h.tables.exists_of_mem hlisted
    exact ⟨before, hbefore, hname, after, hafter, hname', hsame.sharesColumns,
      hsame.symm.sharesColumns⟩

end Snapshot

end Cadastre
