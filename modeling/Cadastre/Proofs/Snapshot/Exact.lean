import Cadastre.Proofs.Snapshot.Agreement

/-!
# What a comparison of snapshots reports

A comparison is fixed by what it has to report: which keys are new, which are gone, and which stand
for entries that differ, and in what. It reports just that, with the last entry of each key standing
for it. It reports nothing just when the standing entries agree, and the order of the lists does not
matter where no key is repeated.
-/

namespace Cadastre

/-! ## Routes -/

namespace Route

/-- Whether two routes differ in a field that is compared. -/
def Differs (before after : Route) : Prop :=
  before.status ≠ after.status ∨ before.auth ≠ after.auth ∨ before.handler ≠ after.handler

theorem Differs.symm {before after : Route} (h : before.Differs after) : after.Differs before := by
  unfold Differs at h ⊢
  rcases h with h | h | h
  · exact .inl h.symm
  · exact .inr (.inl h.symm)
  · exact .inr (.inr h.symm)

/-- The compared fields in which two routes differ, in their order, each with its two values. -/
def fieldChanges (before after : Route) : List String :=
  let compared :=
    [ (decide (before.status ≠ after.status),
        changeOf "status" (toString before.status.toNat) (toString after.status.toNat)),
      (decide (before.auth ≠ after.auth), changeOf "auth" before.auth.name after.auth.name),
      (decide (before.handler ≠ after.handler), changeOf "handler" before.handler after.handler) ]
  (compared.filter Prod.fst).map Prod.snd

theorem change?_eq_some_iff {before after : Route} {c : RouteChange} :
    before.change? after = some c ↔
      before.Differs after ∧ c = ⟨after.key, before.fieldChanges after⟩ := by
  unfold change? Differs fieldChanges
  by_cases hstatus : before.status = after.status <;> by_cases hauth : before.auth = after.auth <;>
    by_cases hhandler : before.handler = after.handler <;>
    simp [hstatus, hauth, hhandler, eq_comm]

theorem change?_eq_none_iff {before after : Route} :
    before.change? after = none ↔ ¬ before.Differs after := by
  rw [Option.eq_none_iff_forall_ne_some]
  simp only [ne_eq, change?_eq_some_iff, not_and]
  exact ⟨fun h hd => h _ hd rfl, fun h _ hd => absurd hd h⟩

end Route

/-! ## Columns and tables -/

/-- Whether two columns of one name differ. -/
def Column.Differs (before after : Column) : Prop :=
  before.type ≠ after.type ∨ before.nullable ≠ after.nullable

theorem Column.Differs.symm {before after : Column} (h : before.Differs after) :
    after.Differs before := by
  unfold Column.Differs at h ⊢
  rcases h with h | h
  · exact .inl h.symm
  · exact .inr h.symm

theorem Column.change?_eq_some_iff {before after : Column} {text : String}
    (hname : before.name = after.name) :
    before.change? after = some text ↔
      before.Differs after ∧ text = s!"{before.describe} -> {after.describe}" := by
  have hdiffers : before.Differs after ↔ before ≠ after := by
    obtain ⟨name, type, nullable⟩ := before
    obtain ⟨name', type', nullable'⟩ := after
    obtain rfl : name = name' := hname
    simp [Differs, Classical.or_iff_not_imp_left]
  rw [hdiffers, change?]
  by_cases h : before = after
  · simp [h]
  · simp [h, eq_comm]

theorem Column.change?_eq_none_iff {before after : Column} (hname : before.name = after.name) :
    before.change? after = none ↔ ¬ before.Differs after := by
  rw [Option.eq_none_iff_forall_ne_some]
  simp only [ne_eq, Column.change?_eq_some_iff hname, not_and]
  exact ⟨fun h hd => h _ hd rfl, fun h _ hd => absurd hd h⟩

/-- What has to be reported about a table that was there before and after. -/
structure TableChange.Reports (c : TableChange) (before after : Table) : Prop where
  /-- The names of new columns. -/
  added : ListsKeys
    (fun k => k ∈ after.columns.map Column.name ∧ k ∉ before.columns.map Column.name) c.added
  /-- The names of columns that are gone. -/
  removed : ListsKeys
    (fun k => k ∈ before.columns.map Column.name ∧ k ∉ after.columns.map Column.name) c.removed
  /-- The columns that differ, as they were and as they are. -/
  altered : ListsItems
    (fun k text => ∃ b a, standing? Column.name before.columns k = some b ∧
      standing? Column.name after.columns k = some a ∧ b.Differs a ∧
      text = s!"{b.describe} -> {a.describe}") c.altered

theorem TableChange.Reports.unique {c d : TableChange} {before after : Table}
    (hc : c.Reports before after) (hd : d.Reports before after) (hname : c.name = d.name) :
    c = d := by
  have hadded := hc.added.unique hd.added
  have hremoved := hc.removed.unique hd.removed
  have haltered : c.altered = d.altered := by
    refine hc.altered.unique ?_ hd.altered
    rintro k x y ⟨b, a, hb, ha, -, rfl⟩ ⟨b', a', hb', ha', -, rfl⟩
    obtain rfl : b = b' := Option.some.inj (hb.symm.trans hb')
    obtain rfl : a = a' := Option.some.inj (ha.symm.trans ha')
    rfl
  cases c
  cases d
  congr

/-- All that a comparison finds between two tables, were it nothing. -/
def Table.changes (before after : Table) : TableChange where
  name := after.name
  added := (Index.ofList Column.name after.columns).keysMissingIn
    (Index.ofList Column.name before.columns)
  removed := (Index.ofList Column.name before.columns).keysMissingIn
    (Index.ofList Column.name after.columns)
  altered := (Index.ofList Column.name before.columns).compareShared
    (Index.ofList Column.name after.columns) Column.change?

theorem Table.reports_changes (before after : Table) :
    (before.changes after).Reports before after where
  added := Index.listsKeys_keysMissingIn Column.name after.columns before.columns
  removed := Index.listsKeys_keysMissingIn Column.name before.columns after.columns
  altered := by
    refine (ListsItems.congr fun k text => ?_).1
      (Index.listsItems_compareShared Column.name before.columns after.columns Column.change?)
    refine exists_congr fun b => exists_congr fun a => and_congr_right fun hb =>
      and_congr_right fun ha => ?_
    exact Column.change?_eq_some_iff ((key_of_standing hb).trans (key_of_standing ha).symm)

theorem Table.change?_eq (before after : Table) : before.change? after =
    if (before.changes after).added.isEmpty && (before.changes after).removed.isEmpty &&
      (before.changes after).altered.isEmpty then none else some (before.changes after) :=
  rfl

theorem Table.change?_eq_some_iff_changes {before after : Table} {c : TableChange} :
    before.change? after = some c ↔
      c = before.changes after ∧ (c.added ≠ [] ∨ c.removed ≠ [] ∨ c.altered ≠ []) := by
  rw [change?_eq]
  constructor
  · intro h
    split at h
    · cases h
    · next hsome =>
      obtain rfl := Option.some.inj h
      refine ⟨rfl, ?_⟩
      simpa only [Bool.and_eq_true, List.isEmpty_iff, not_and_or, or_assoc] using hsome
  · rintro ⟨rfl, hsome⟩
    rw [if_neg]
    simpa only [Bool.and_eq_true, List.isEmpty_iff, not_and_or, or_assoc] using hsome

theorem Table.change?_eq_some_iff {before after : Table} {c : TableChange} :
    before.change? after = some c ↔ c.name = after.name ∧ c.Reports before after ∧
      (c.added ≠ [] ∨ c.removed ≠ [] ∨ c.altered ≠ []) := by
  rw [change?_eq_some_iff_changes]
  constructor
  · rintro ⟨rfl, hsome⟩
    exact ⟨rfl, before.reports_changes after, hsome⟩
  · rintro ⟨hname, hc, hsome⟩
    exact ⟨hc.unique (before.reports_changes after) hname, hsome⟩

/-- Whether two tables have the same columns, in any order and however often they are listed. -/
def Table.SameColumns (before after : Table) : Prop :=
  AgreeByKey (fun b a => ¬ b.Differs a) Column.name before.columns after.columns

theorem Table.SameColumns.symm {before after : Table} (h : before.SameColumns after) :
    after.SameColumns before :=
  AgreeByKey.symm (fun _ _ hsame hdiffers => hsame hdiffers.symm) h

theorem Table.change?_eq_none_iff {before after : Table} :
    before.change? after = none ↔ before.SameColumns after := by
  have hsame : before.SameColumns after ↔ (before.changes after).added = [] ∧
      (before.changes after).removed = [] ∧ (before.changes after).altered = [] :=
    agreeByKey_iff fun _ _ => Column.change?_eq_none_iff
  rw [change?_eq, hsame]
  split
  · next h =>
    simpa only [Bool.and_eq_true, List.isEmpty_iff, and_assoc, true_iff] using h
  · next h =>
    simpa only [Bool.and_eq_true, List.isEmpty_iff, and_assoc, reduceCtorEq, false_iff] using h

/-! ## Snapshots -/

/-- What has to be reported about two snapshots. -/
structure Diff.Reports (d : Diff) (old new : Snapshot) : Prop where
  addedRoutes : ListsKeys
    (fun k => k ∈ new.routes.map Route.key ∧ k ∉ old.routes.map Route.key) d.addedRoutes
  removedRoutes : ListsKeys
    (fun k => k ∈ old.routes.map Route.key ∧ k ∉ new.routes.map Route.key) d.removedRoutes
  changedRoutes : ListsItems
    (fun k c => ∃ before after, standing? Route.key old.routes k = some before ∧
      standing? Route.key new.routes k = some after ∧ before.Differs after ∧
      c = ⟨k, before.fieldChanges after⟩) d.changedRoutes
  addedTables : ListsKeys
    (fun k => k ∈ new.tables.map Table.name ∧ k ∉ old.tables.map Table.name) d.addedTables
  removedTables : ListsKeys
    (fun k => k ∈ old.tables.map Table.name ∧ k ∉ new.tables.map Table.name) d.removedTables
  changedTables : ListsItems
    (fun k c => ∃ before after, standing? Table.name old.tables k = some before ∧
      standing? Table.name new.tables k = some after ∧ c.name = k ∧ c.Reports before after ∧
      (c.added ≠ [] ∨ c.removed ≠ [] ∨ c.altered ≠ [])) d.changedTables
  addedModules : ListsKeys
    (fun k => k ∈ new.modules.map AdminModule.slug ∧ k ∉ old.modules.map AdminModule.slug)
    d.addedModules
  removedModules : ListsKeys
    (fun k => k ∈ old.modules.map AdminModule.slug ∧ k ∉ new.modules.map AdminModule.slug)
    d.removedModules

theorem Diff.Reports.unique {d e : Diff} {old new : Snapshot} (hd : d.Reports old new)
    (he : e.Reports old new) : d = e := by
  have hroutes : d.changedRoutes = e.changedRoutes := by
    refine hd.changedRoutes.unique ?_ he.changedRoutes
    rintro k x y ⟨b, a, hb, ha, -, rfl⟩ ⟨b', a', hb', ha', -, rfl⟩
    obtain rfl : b = b' := Option.some.inj (hb.symm.trans hb')
    obtain rfl : a = a' := Option.some.inj (ha.symm.trans ha')
    rfl
  have htables : d.changedTables = e.changedTables := by
    refine hd.changedTables.unique ?_ he.changedTables
    rintro k x y ⟨b, a, hb, ha, hx, hxr, -⟩ ⟨b', a', hb', ha', hy, hyr, -⟩
    obtain rfl : b = b' := Option.some.inj (hb.symm.trans hb')
    obtain rfl : a = a' := Option.some.inj (ha.symm.trans ha')
    exact hxr.unique hyr (hx.trans hy.symm)
  have haddedRoutes := hd.addedRoutes.unique he.addedRoutes
  have hremovedRoutes := hd.removedRoutes.unique he.removedRoutes
  have haddedTables := hd.addedTables.unique he.addedTables
  have hremovedTables := hd.removedTables.unique he.removedTables
  have haddedModules := hd.addedModules.unique he.addedModules
  have hremovedModules := hd.removedModules.unique he.removedModules
  cases d
  cases e
  congr

theorem Diff.eq_empty_iff (d : Diff) : d = Diff.empty ↔
    (d.addedRoutes = [] ∧ d.removedRoutes = [] ∧ d.changedRoutes = []) ∧
      (d.addedTables = [] ∧ d.removedTables = [] ∧ d.changedTables = []) ∧
      d.addedModules = [] ∧ d.removedModules = [] := by
  cases d
  simp [Diff.empty, and_assoc]

namespace Snapshot

variable {old new old' new' : Snapshot}

theorem reports_diff (old new : Snapshot) : (old.diff new).Reports old new where
  addedRoutes := Index.listsKeys_keysMissingIn _ _ _
  removedRoutes := Index.listsKeys_keysMissingIn _ _ _
  changedRoutes := by
    refine (ListsItems.congr fun k c => ?_).1
      (Index.listsItems_compareShared Route.key old.routes new.routes Route.change?)
    refine exists_congr fun b => exists_congr fun a => and_congr_right fun hb =>
      and_congr_right fun ha => ?_
    rw [Route.change?_eq_some_iff, key_of_standing ha]
  addedTables := Index.listsKeys_keysMissingIn _ _ _
  removedTables := Index.listsKeys_keysMissingIn _ _ _
  changedTables := by
    refine (ListsItems.congr fun k c => ?_).1
      (Index.listsItems_compareShared Table.name old.tables new.tables Table.change?)
    refine exists_congr fun b => exists_congr fun a => and_congr_right fun hb =>
      and_congr_right fun ha => ?_
    rw [Table.change?_eq_some_iff, key_of_standing ha]
  addedModules := Index.listsKeys_keysMissingIn _ _ _
  removedModules := Index.listsKeys_keysMissingIn _ _ _

/-- Two snapshots have the same keys, and nothing that is compared differs between the entries that
stand for them. -/
structure Agree (old new : Snapshot) : Prop where
  routes : AgreeByKey (fun before after => ¬ before.Differs after) Route.key old.routes new.routes
  tables : AgreeByKey Table.SameColumns Table.name old.tables new.tables
  modules : ∀ k, k ∈ old.modules.map AdminModule.slug ↔ k ∈ new.modules.map AdminModule.slug

theorem isEmpty_diff_iff : (old.diff new).isEmpty = true ↔ old.Agree new := by
  have hroutes : AgreeByKey (fun before after => ¬ before.Differs after) Route.key old.routes
      new.routes ↔ (old.diff new).addedRoutes = [] ∧ (old.diff new).removedRoutes = [] ∧
        (old.diff new).changedRoutes = [] :=
    agreeByKey_iff fun _ _ _ => Route.change?_eq_none_iff
  have htables : AgreeByKey Table.SameColumns Table.name old.tables new.tables ↔
      (old.diff new).addedTables = [] ∧ (old.diff new).removedTables = [] ∧
        (old.diff new).changedTables = [] :=
    agreeByKey_iff fun _ _ _ => Table.change?_eq_none_iff
  have hmodules : (∀ k, k ∈ old.modules.map AdminModule.slug ↔
      k ∈ new.modules.map AdminModule.slug) ↔
      (old.diff new).addedModules = [] ∧ (old.diff new).removedModules = [] := by
    rw [(reports_diff old new).addedModules.eq_nil_iff,
      (reports_diff old new).removedModules.eq_nil_iff, ← forall_and]
    exact forall_congr' fun k => by tauto
  rw [Diff.isEmpty, beq_iff_eq, Diff.eq_empty_iff, ← hmodules]
  constructor
  · rintro ⟨hr, ht, hm⟩
    exact ⟨hroutes.2 hr, htables.2 ht, hm⟩
  · rintro ⟨hr, ht, hm⟩
    exact ⟨hroutes.1 hr, htables.1 ht, hm⟩

/-! ## The order of the lists -/

/-- No key is repeated. Modules are left out: of them only the keys are compared. -/
structure DistinctKeys (s : Snapshot) : Prop where
  routes : (s.routes.map Route.key).Nodup
  tables : (s.tables.map Table.name).Nodup
  columns : ∀ t ∈ s.tables, (t.columns.map Column.name).Nodup

/-- The same entries in another order, also the columns of a table. -/
structure Reordered (s t : Snapshot) : Prop where
  routes : s.routes.Perm t.routes
  tables : ∃ listed, s.tables.Perm listed ∧
    List.Forall₂ (fun a b => a.name = b.name ∧ a.columns.Perm b.columns) listed t.tables
  modules : s.modules.Perm t.modules

/-- Two tables that list the same distinct columns change alike. -/
theorem change?_of_agreeByKey {before before' after after' : Table}
    (hbefore : AgreeByKey Eq Column.name before.columns before'.columns)
    (hafter : AgreeByKey Eq Column.name after.columns after'.columns)
    (hname : after.name = after'.name) : before.change? after = before'.change? after' := by
  have hchanges : before.changes after = before'.changes after' := by
    rw [Table.changes, Table.changes, hname, keysMissingIn_eq hbefore.mem_iff hafter.mem_iff,
      keysMissingIn_eq hafter.mem_iff hbefore.mem_iff,
      hbefore.compareShared_eq (fun hb ha => by rw [hb, ha]) hafter]
  rw [Table.change?_eq, Table.change?_eq, hchanges]

theorem Reordered.agreeByKey_tables {s t : Snapshot} (h : s.Reordered t) (hs : s.DistinctKeys) :
    AgreeByKey (fun a b => a.name = b.name ∧ AgreeByKey Eq Column.name a.columns b.columns)
      Table.name s.tables t.tables := by
  obtain ⟨listed, hperm, hlisted⟩ := h.tables
  intro k
  rw [standing?_of_perm hperm hs.tables]
  refine agreeByKey_of_forall₂ (fun a b hab => hab.1) ?_ k
  have hdistinct : ∀ a ∈ listed, (a.columns.map Column.name).Nodup :=
    fun a ha => hs.columns a (hperm.mem_iff.2 ha)
  have hboth := (List.forall₂_and_left listed t.tables).2 ⟨hdistinct, hlisted⟩
  refine hboth.imp ?_
  rintro a b ⟨ha, hname, hcolumns⟩
  exact ⟨hname, agreeByKey_of_perm hcolumns ha⟩

theorem diff_reordered (hold : old.DistinctKeys) (hnew : new.DistinctKeys)
    (hold' : old.Reordered old') (hnew' : new.Reordered new') :
    old'.diff new' = old.diff new := by
  have hroutes := agreeByKey_of_perm hold'.routes hold.routes
  have hroutes' := agreeByKey_of_perm hnew'.routes hnew.routes
  have htables := hold'.agreeByKey_tables hold
  have htables' := hnew'.agreeByKey_tables hnew
  have hmodules : ∀ k, k ∈ old.modules.map AdminModule.slug ↔
      k ∈ old'.modules.map AdminModule.slug :=
    fun _ => (hold'.modules.map AdminModule.slug).mem_iff
  have hmodules' : ∀ k, k ∈ new.modules.map AdminModule.slug ↔
      k ∈ new'.modules.map AdminModule.slug :=
    fun _ => (hnew'.modules.map AdminModule.slug).mem_iff
  unfold diff
  dsimp only
  rw [keysMissingIn_eq hroutes.mem_iff hroutes'.mem_iff,
    keysMissingIn_eq hroutes'.mem_iff hroutes.mem_iff,
    hroutes.compareShared_eq (fun hb ha => by rw [hb, ha]) hroutes',
    keysMissingIn_eq htables.mem_iff htables'.mem_iff,
    keysMissingIn_eq htables'.mem_iff htables.mem_iff,
    htables.compareShared_eq (fun hb ha => change?_of_agreeByKey hb.2 ha.2 ha.1) htables',
    keysMissingIn_eq hmodules hmodules', keysMissingIn_eq hmodules' hmodules]

/-- A comparison reports what has to be reported and nothing else. It is empty just if the snapshots
agree, and where no key is repeated the order of the lists does not matter. -/
theorem diff_exact (old new : Snapshot) :
    (∀ d, d = old.diff new ↔ d.Reports old new) ∧
      ((old.diff new).isEmpty = true ↔ old.Agree new) ∧
      ∀ old' new' : Snapshot, old.DistinctKeys → new.DistinctKeys → old.Reordered old' →
        new.Reordered new' → old'.diff new' = old.diff new := by
  refine ⟨fun d => ⟨?_, ?_⟩, isEmpty_diff_iff, fun old' new' hold hnew hold' hnew' => ?_⟩
  · rintro rfl
    exact reports_diff old new
  · intro hd
    exact hd.unique (reports_diff old new)
  · exact diff_reordered hold hnew hold' hnew'

/-- Two routes and the columns of a table in another order, with a route that changed. -/
theorem diff_exact_reordered :
    let a : Route := ⟨.get, "/a", 200, .anyone, "r.py", "a"⟩
    let b : Route := ⟨.get, "/b", 200, .anyone, "r.py", "b"⟩
    let c : Route := { b with status := 201 }
    let id : Column := ⟨"id", "int", false⟩
    let day : Column := ⟨"day", "date", true⟩
    let old : Snapshot := ⟨Instant.epoch, [a, b], [⟨"t", [id, day]⟩], [], []⟩
    let new : Snapshot := ⟨Instant.epoch, [c, a], [⟨"t", [day, id]⟩], [], []⟩
    let old' : Snapshot := ⟨Instant.epoch, [b, a], [⟨"t", [day, id]⟩], [], []⟩
    let new' : Snapshot := ⟨Instant.epoch, [a, c], [⟨"t", [id, day]⟩], [], []⟩
    (old.DistinctKeys ∧ new.DistinctKeys ∧ old.Reordered old' ∧ new.Reordered new') ∧
      old'.diff new' = old.diff new ∧
      (old.diff new).changedRoutes = [⟨"GET /b (r.py)", ["status: 200 -> 201"]⟩] := by
  intro a b c id day old new old' new'
  have hcolumns : [id, day].Perm [day, id] := .swap _ _ _
  have hold : old.DistinctKeys := ⟨by decide +kernel, by decide +kernel, by decide +kernel⟩
  have hnew : new.DistinctKeys := ⟨by decide +kernel, by decide +kernel, by decide +kernel⟩
  have hold' : old.Reordered old' :=
    ⟨.swap _ _ _, ⟨_, .refl _, .cons ⟨rfl, hcolumns⟩ .nil⟩, .refl _⟩
  have hnew' : new.Reordered new' :=
    ⟨.swap _ _ _, ⟨_, .refl _, .cons ⟨rfl, hcolumns.symm⟩ .nil⟩, .refl _⟩
  refine ⟨⟨hold, hnew, hold', hnew'⟩, ?_, by decide +kernel⟩
  exact (diff_exact old new).2.2 old' new' hold hnew hold' hnew'

end Snapshot

end Cadastre
