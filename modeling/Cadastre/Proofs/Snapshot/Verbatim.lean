import Cadastre.Proofs.Snapshot.Searches
import Cadastre.Proofs.Text.Lower

/-!
# Fields that hold a query as it is written

A search compares lower cases, and a field and a query come to theirs apart from each other. An
entry is found by what stands in one of its fields character for character, unless the query begins
or ends with a capital sigma that has another form in the field. The main statement says that this
is the only exception.
-/

namespace Cadastre

variable {sought : List Char} {query field : String}

/-! ## Holding a query -/

/-- A field contains the trimmed query, character for character. -/
def ContainsQuery (query field : String) : Prop := Text.trim query.toList <:+: field.toList

/-- A field contains the trimmed query in a place where the query keeps its sigmas. -/
def HoldsQuery (query field : String) : Prop :=
  ∃ before after, field.toList = before ++ (Text.trim query.toList ++ after) ∧
    Text.KeepsSigmas before (Text.trim query.toList) after

theorem HoldsQuery.needle_isInfix (h : HoldsQuery query field) :
    needle query <:+: Text.lower field.toList := by
  obtain ⟨before, after, hfield, hkeeps⟩ := h
  rw [hfield]
  exact hkeeps.isInfix

/-- A query without a capital sigma is held wherever it is contained. -/
theorem ContainsQuery.holdsQuery (h : ContainsQuery query field) (hsigma : 'Σ' ∉ query.toList) :
    HoldsQuery query field := by
  obtain ⟨before, after, hfield⟩ := h
  rw [List.append_assoc] at hfield
  refine ⟨before, after, hfield.symm, Text.keepsSigmas_of_notMem fun hmem => ?_⟩
  exact hsigma ((Text.trim_isInfix query.toList).subset hmem)

/-! ## Keeping entries -/

theorem Table.exists_narrow? {t : Table} {c : Column} (hc : c ∈ t.columns)
    (h : anyContains sought c.searched = true) : ∃ part, t.narrow? sought = some part ∧
      ∀ d ∈ t.columns, anyContains sought d.searched = true → d ∈ part.columns := by
  by_cases hname : anyContains sought [t.name] = true
  · exact ⟨t, narrow?_of_name hname, fun d hd _ => hd⟩
  · rw [narrow?_of_not_name hname]
    have hkept : c ∈ t.columns.filter fun c => anyContains sought c.searched :=
      List.mem_filter.2 ⟨hc, h⟩
    cases hcolumns : t.columns.filter fun c => anyContains sought c.searched with
    | nil =>
      rw [hcolumns] at hkept
      cases hkept
    | cons first rest =>
      refine ⟨{ t with columns := first :: rest }, rfl, fun d hd hmatch => ?_⟩
      show d ∈ first :: rest
      rw [← hcolumns]
      exact List.mem_filter.2 ⟨hd, hmatch⟩

namespace Snapshot

/-- What is found in a snapshot has all entries with a field of some kind. A table with such a
column may have lost columns, but none of that kind. -/
structure Keeps (s : Snapshot) (kind : String → Prop) (found : Snapshot) : Prop where
  routes : ∀ r ∈ s.routes, (∃ field ∈ r.searched, kind field) → r ∈ found.routes
  tables : ∀ t ∈ s.tables, kind t.name → t ∈ found.tables
  columns : ∀ t ∈ s.tables, ∀ c ∈ t.columns, (∃ field ∈ c.searched, kind field) →
    ∃ part ∈ found.tables, part.PartOf t ∧
      ∀ d ∈ t.columns, (∃ field ∈ d.searched, kind field) → d ∈ part.columns
  modules : ∀ m ∈ s.modules, (∃ field ∈ m.searched, kind field) → m ∈ found.modules
  warnings : ∀ w ∈ s.warnings, (∃ field ∈ w.searched, kind field) → w ∈ found.warnings

theorem narrow_keeps {kind : String → Prop}
    (h : ∀ field, kind field → sought <:+: Text.lower field.toList) (s : Snapshot) :
    s.Keeps kind (s.narrow sought) := by
  have hmatch : ∀ {fields : List String}, (∃ field ∈ fields, kind field) →
      anyContains sought fields = true := by
    rintro fields ⟨field, hfield, hkind⟩
    exact anyContains_iff.2 ⟨field, hfield, h field hkind⟩
  refine ⟨?_, ?_, ?_, ?_, ?_⟩
  · exact fun r hr hfield => List.mem_filter.2 ⟨hr, hmatch hfield⟩
  · intro t ht hname
    have hmatched : anyContains sought [t.name] = true :=
      hmatch ⟨t.name, List.mem_singleton_self _, hname⟩
    exact List.mem_filterMap.2 ⟨t, ht, Table.narrow?_of_name hmatched⟩
  · intro t ht c hc hfield
    obtain ⟨part, hpart, hcolumns⟩ := Table.exists_narrow? hc (hmatch hfield)
    refine ⟨part, List.mem_filterMap.2 ⟨t, ht, hpart⟩, Table.partOf_of_narrow? hpart, ?_⟩
    exact fun d hd hother => hcolumns d hd (hmatch hother)
  · exact fun m hm hfield => List.mem_filter.2 ⟨hm, hmatch hfield⟩
  · exact fun w hw hfield => List.mem_filter.2 ⟨hw, hmatch hfield⟩

/-- A search keeps the entries with a field that holds the query, so it keeps all those with a field
that contains a query without capital sigmas. Where the query does not keep its sigmas, the lower
case of the field has something else than the needle in that place. -/
theorem filter_keeps_held (s : Snapshot) (query : String) :
    s.Keeps (HoldsQuery query) (s.filter query) ∧
      ('Σ' ∉ query.toList → s.Keeps (ContainsQuery query) (s.filter query)) ∧
      ∀ before after : List Char,
        needle query <+:
            (Text.lower (before ++ (Text.trim query.toList ++ after))).drop
              (Text.lower before).length ↔
          Text.KeepsSigmas before (Text.trim query.toList) after := by
  rw [filter_eq_narrow]
  refine ⟨?_, fun hsigma => ?_, fun before after => ?_⟩
  · exact s.narrow_keeps fun field h => h.needle_isInfix
  · exact s.narrow_keeps fun field h => (h.holdsQuery hsigma).needle_isInfix
  · exact Text.lower_isPrefix_iff before (Text.trim query.toList) after

/-- A word at the end of a segment, where its last sigma is final as in the query, and a column. -/
theorem filter_keeps_held_street :
    let street : Route := ⟨.get, "/ΟΔΟΣ/1", 200, .anyone, "r.py", "h"⟩
    let day : Column := ⟨"starts_on", "Date", true⟩
    let leases : Table := ⟨"leases", [⟨"id", "int", false⟩, day]⟩
    let s : Snapshot := ⟨.epoch, [street], [leases], [], []⟩
    (HoldsQuery " ΟΔΟΣ " street.path ∧ street ∈ (s.filter " ΟΔΟΣ ").routes) ∧
      ('Σ' ∉ "Date".toList ∧ ContainsQuery "Date" day.type ∧
        ∃ part ∈ (s.filter "Date").tables, part.PartOf leases ∧ day ∈ part.columns) := by
  intro street day leases s
  have hholds : HoldsQuery " ΟΔΟΣ " street.path :=
    ⟨['/'], ['/', '1'], by decide +kernel,
      Text.keepsSigmas_of_no_letters (by decide +kernel) (by decide +kernel)⟩
  have hsigma : 'Σ' ∉ "Date".toList := by decide +kernel
  have hcontains : ContainsQuery "Date" day.type := ⟨[], [], by decide +kernel⟩
  have hday : day ∈ leases.columns := by simp [leases]
  have hfield : ∃ field ∈ day.searched, ContainsQuery "Date" field :=
    ⟨day.type, by simp [Column.searched], hcontains⟩
  obtain ⟨part, hpart, hpartOf, hcolumns⟩ :=
    ((s.filter_keeps_held "Date").2.1 hsigma).columns leases (by simp [s]) day hday hfield
  refine ⟨⟨hholds, ?_⟩, hsigma, hcontains, part, hpart, hpartOf, hcolumns day hday hfield⟩
  exact (s.filter_keeps_held " ΟΔΟΣ ").1.routes street (by simp [s])
    ⟨street.path, by simp [Route.searched], hholds⟩

/-- The sigma that ends the query has its final form there and not within the word of the path, so
the search misses the route. -/
theorem filter_misses_sigma :
    let rise : Route := ⟨.get, "/ΑΣΑ", 200, .anyone, "r.py", "h"⟩
    let s : Snapshot := ⟨.epoch, [rise], [], [], []⟩
    ¬ s.Keeps (ContainsQuery "ΑΣ") (s.filter "ΑΣ") := by
  intro rise s h
  have hcontains : ContainsQuery "ΑΣ" rise.path := ⟨['/'], ['Α'], by decide +kernel⟩
  have hfound : rise ∈ (s.filter "ΑΣ").routes :=
    h.routes rise (by simp [s]) ⟨rise.path, by simp [Route.searched], hcontains⟩
  exact absurd hfound (by decide +kernel)

end Snapshot

end Cadastre
