import Cadastre.Proofs.Snapshot.Narrowed
import Cadastre.Proofs.Text.Occurrence

/-!
# One search after another

Searches made one after the other leave what all of them leave, in whatever order they are made. If
the needle of one occurs in the needle of another one, all that contains the longer needle contains
the shorter one, so the shorter one may be left out. For routes, modules and warnings both are laws
of filters. A table is not kept or dropped as a whole: it keeps all columns where its name matches,
else those that match, and goes with the last of them.
-/

namespace Cadastre

variable {sought first second : List Char}

/-! ## Needles -/

theorem anyContains_iff {fields : List String} : anyContains sought fields = true ↔
    ∃ field ∈ fields, sought <:+: Text.lower field.toList := by
  simp only [anyContains, List.any_eq_true, Text.occursIn_iff]

theorem anyContains_of_isInfix {fields : List String} (h : first <:+: second)
    (hsecond : anyContains second fields = true) : anyContains first fields = true := by
  obtain ⟨field, hfield, hoccurs⟩ := anyContains_iff.1 hsecond
  exact anyContains_iff.2 ⟨field, hfield, h.trans hoccurs⟩

theorem anyContains_nil (field : String) (fields : List String) :
    anyContains [] (field :: fields) = true :=
  anyContains_iff.2 ⟨field, List.mem_cons_self, List.nil_infix⟩

theorem filter_anyContains_of_isInfix {α : Type} (h : first <:+: second)
    (searched : α → List String) (entries : List α) :
    (entries.filter fun e => anyContains first (searched e)).filter
        (fun e => anyContains second (searched e)) =
      entries.filter fun e => anyContains second (searched e) := by
  rw [List.filter_filter]
  refine List.filter_congr fun e _ => ?_
  cases hsecond : anyContains second (searched e) with
  | false => rfl
  | true => rw [anyContains_of_isInfix h hsecond, Bool.true_and]

/-! ## Tables -/

namespace Table

variable {t : Table}

/-- A table with other columns, unless there are none. -/
def withColumns? (t : Table) : List Column → Option Table
  | [] => none
  | columns => some { t with columns }

theorem narrow?_of_name (h : anyContains sought [t.name] = true) : t.narrow? sought = some t := by
  rw [narrow?, if_pos h]

theorem narrow?_of_not_name (h : ¬ anyContains sought [t.name] = true) : t.narrow? sought =
    t.withColumns? (t.columns.filter fun c => anyContains sought c.searched) := by
  rw [narrow?, if_neg h]
  cases t.columns.filter fun c => anyContains sought c.searched <;> rfl

/-- A table that matches by its name keeps the columns that it has. -/
theorem withColumns?_bind_of_name (h : anyContains sought [t.name] = true)
    (columns : List Column) :
    (t.withColumns? columns).bind (narrow? sought) = t.withColumns? columns := by
  cases columns with
  | nil => rfl
  | cons c rest =>
    have hname : anyContains sought [({ t with columns := c :: rest } : Table).name] = true := h
    exact narrow?_of_name hname

/-- Any other table keeps those of the columns it has that match. -/
theorem withColumns?_bind_of_not_name (h : ¬ anyContains sought [t.name] = true)
    (columns : List Column) :
    (t.withColumns? columns).bind (narrow? sought) =
      t.withColumns? (columns.filter fun c => anyContains sought c.searched) := by
  cases columns with
  | nil => rfl
  | cons c rest =>
    have hname : ¬ anyContains sought [({ t with columns := c :: rest } : Table).name] = true := h
    refine (narrow?_of_not_name hname).trans ?_
    cases (c :: rest).filter fun c => anyContains sought c.searched <;> rfl

theorem narrow?_bind_of_isInfix (h : first <:+: second) (t : Table) :
    (t.narrow? first).bind (narrow? second) = t.narrow? second := by
  by_cases hfirst : anyContains first [t.name] = true
  · rw [narrow?_of_name hfirst, Option.bind_some]
  · have hsecond : ¬ anyContains second [t.name] = true := fun hs =>
      hfirst (anyContains_of_isInfix h hs)
    rw [narrow?_of_not_name hfirst, withColumns?_bind_of_not_name hsecond,
      filter_anyContains_of_isInfix h, narrow?_of_not_name hsecond]

theorem narrow?_bind_comm (first second : List Char) (t : Table) :
    (t.narrow? first).bind (narrow? second) = (t.narrow? second).bind (narrow? first) := by
  by_cases hfirst : anyContains first [t.name] = true
  · rw [narrow?_of_name hfirst, Option.bind_some]
    by_cases hsecond : anyContains second [t.name] = true
    · rw [narrow?_of_name hsecond, Option.bind_some, narrow?_of_name hfirst]
    · rw [narrow?_of_not_name hsecond, withColumns?_bind_of_name hfirst]
  · rw [narrow?_of_not_name hfirst]
    by_cases hsecond : anyContains second [t.name] = true
    · rw [withColumns?_bind_of_name hsecond, narrow?_of_name hsecond, Option.bind_some,
        narrow?_of_not_name hfirst]
    · rw [withColumns?_bind_of_not_name hsecond, narrow?_of_not_name hsecond,
        withColumns?_bind_of_not_name hfirst, List.filter_comm]

end Table

/-! ## Snapshots -/

namespace Snapshot

/-- Every field contains the empty needle, so a search for it keeps everything. -/
theorem narrow_nil (s : Snapshot) : s.narrow [] = s := by
  have htables : s.tables.filterMap (Table.narrow? []) = s.tables := by
    have hsome : Table.narrow? [] = some :=
      funext fun t => Table.narrow?_of_name (anyContains_nil t.name [])
    rw [hsome, List.filterMap_some]
  have hroutes : ∀ r ∈ s.routes, anyContains [] r.searched = true := fun _ _ => anyContains_nil _ _
  have hmodules : ∀ m ∈ s.modules, anyContains [] m.searched = true := fun _ _ =>
    anyContains_nil _ _
  have hwarnings : ∀ w ∈ s.warnings, anyContains [] w.searched = true := fun _ _ =>
    anyContains_nil _ _
  rw [narrow, List.filter_eq_self.2 hroutes, htables, List.filter_eq_self.2 hmodules,
    List.filter_eq_self.2 hwarnings]

/-- A blank query is no exception among queries. -/
theorem filter_eq_narrow (s : Snapshot) (query : String) :
    s.filter query = s.narrow (needle query) := by
  rw [filter]
  cases needle query with
  | nil => exact s.narrow_nil.symm
  | cons c rest => rfl

theorem narrow_narrow_of_isInfix (h : first <:+: second) (s : Snapshot) :
    (s.narrow first).narrow second = s.narrow second := by
  have htables : (s.tables.filterMap (Table.narrow? first)).filterMap (Table.narrow? second) =
      s.tables.filterMap (Table.narrow? second) := by
    rw [List.filterMap_filterMap]
    exact List.filterMap_congr fun t _ => t.narrow?_bind_of_isInfix h
  simp only [narrow, htables, filter_anyContains_of_isInfix h]

theorem narrow_comm (s : Snapshot) (first second : List Char) :
    (s.narrow first).narrow second = (s.narrow second).narrow first := by
  have htables : (s.tables.filterMap (Table.narrow? first)).filterMap (Table.narrow? second) =
      (s.tables.filterMap (Table.narrow? second)).filterMap (Table.narrow? first) := by
    rw [List.filterMap_filterMap, List.filterMap_filterMap]
    exact List.filterMap_congr fun t _ => t.narrow?_bind_comm first second
  unfold narrow
  dsimp only
  rw [htables, List.filter_comm _ _ s.routes, List.filter_comm _ _ s.modules,
    List.filter_comm _ _ s.warnings]

/-- A query whose needle occurs in the needle of a later query may be left out, and what the later
query leaves of a snapshot is a part of what the earlier one leaves of it. -/
theorem filter_absorbs (s : Snapshot) {first second : String}
    (h : needle first <:+: needle second) :
    (s.filter first).filter second = s.filter second ∧
      (s.filter second).PartOf (s.filter first) := by
  have habsorbs : (s.filter first).filter second = s.filter second := by
    rw [filter_eq_narrow, filter_eq_narrow, filter_eq_narrow, narrow_narrow_of_isInfix h]
  refine ⟨habsorbs, ?_⟩
  rw [← habsorbs]
  exact (s.filter first).filter_partOf second

/-- A table that keeps all columns, one that keeps two and then one, and one that is dropped. -/
theorem filter_absorbs_columns :
    let id : Column := ⟨"id", "int", false⟩
    let user : Column := ⟨"user_id", "int", false⟩
    let day : Column := ⟨"day", "date", true⟩
    let s : Snapshot :=
      ⟨.epoch, [], [⟨"User_IDs", [day]⟩, ⟨"leases", [id, user, day]⟩, ⟨"units", [id]⟩], [], []⟩
    needle "ID" <:+: needle " USER_id " ∧
      (s.filter "ID").tables = [⟨"User_IDs", [day]⟩, ⟨"leases", [id, user]⟩, ⟨"units", [id]⟩] ∧
      ((s.filter "ID").filter " USER_id ").tables = [⟨"User_IDs", [day]⟩, ⟨"leases", [user]⟩] ∧
      (s.filter "ID").filter " USER_id " = s.filter " USER_id " ∧
      (s.filter " USER_id ").PartOf (s.filter "ID") := by
  intro id user day s
  have hneedle : needle "ID" <:+: needle " USER_id " :=
    ⟨"user_".toList, [], by decide +kernel⟩
  exact ⟨hneedle, by decide +kernel, by decide +kernel, s.filter_absorbs hneedle⟩

/-- Two queries may be made in either order. -/
theorem filter_filter_comm (s : Snapshot) (first second : String) :
    (s.filter first).filter second = (s.filter second).filter first := by
  rw [filter_eq_narrow, filter_eq_narrow, filter_eq_narrow, filter_eq_narrow, narrow_comm]

end Snapshot

end Cadastre
