import Cadastre.Proofs.Json.Texts
import Cadastre.Proofs.Time.RoundTrip
import Cadastre.Proofs.Yaml.Record
import Cadastre.Saved.Snapshot

/-!
# Saved snapshots are records

A saved snapshot is a record. Its strings are the names of methods, requirements and stages, the
text of its time, and the strings in its routes, tables, modules and warnings, which may be any
strings.
-/

namespace Cadastre

open Yaml

variable {α : Type} {kind : String → Prop}

/-! ## The strings of a snapshot -/

/-- The strings of a route that may be any strings. -/
def Route.strings (r : Route) : List String := [r.path, r.sourceFile, r.handler]

/-- The strings of a column. -/
def Column.strings (c : Column) : List String := [c.name, c.type]

/-- The strings of a table. -/
def Table.strings (t : Table) : List String := t.name :: t.columns.flatMap Column.strings

/-- The strings of a module. -/
def AdminModule.strings (m : AdminModule) : List String :=
  [m.slug, m.label, m.labelEn, m.endpoint, m.description, m.descriptionEn]

/-- The strings of a warning that may be any strings. -/
def Warning.strings (w : Warning) : List String := w.message :: w.detail.toList

/-- The strings of a snapshot that may be any strings. -/
def Snapshot.strings (s : Snapshot) : List String :=
  s.routes.flatMap Route.strings ++ s.tables.flatMap Table.strings ++
    s.modules.flatMap AdminModule.strings ++ s.warnings.flatMap Warning.strings

section

variable {v : String}

open Json (texts memberTexts itemTexts_map)

theorem Route.mem_texts {r : Route} (h : v ∈ r.strings) : v ∈ texts r.toJson := by
  simp only [Route.strings, List.mem_cons, List.not_mem_nil, or_false] at h
  simp only [Route.toJson, texts, memberTexts, List.mem_append, List.mem_cons, List.not_mem_nil]
  tauto

theorem Column.mem_texts {c : Column} (h : v ∈ c.strings) : v ∈ texts c.toJson := by
  simp only [Column.strings, List.mem_cons, List.not_mem_nil, or_false] at h
  simp only [Column.toJson, texts, memberTexts, List.mem_append, List.mem_cons, List.not_mem_nil]
  tauto

theorem Table.mem_texts {t : Table} (h : v ∈ t.strings) : v ∈ texts t.toJson := by
  simp only [Table.toJson, texts, memberTexts, itemTexts_map, List.mem_append, List.mem_flatMap,
    List.mem_singleton]
  rcases List.mem_cons.1 h with h | h
  · exact .inl h
  · obtain ⟨c, hc, hv⟩ := List.mem_flatMap.1 h
    exact .inr (.inl ⟨c, hc, Column.mem_texts hv⟩)

theorem AdminModule.mem_texts {m : AdminModule} (h : v ∈ m.strings) : v ∈ texts m.toJson := by
  simp only [AdminModule.strings, List.mem_cons, List.not_mem_nil, or_false] at h
  simp only [AdminModule.toJson, texts, memberTexts, List.mem_append, List.mem_cons,
    List.not_mem_nil]
  tauto

theorem Warning.mem_texts {w : Warning} (h : v ∈ w.strings) : v ∈ texts w.toJson := by
  obtain ⟨source, message, detail⟩ := w
  cases detail with
  | none =>
    obtain rfl : v = message := by simpa [Warning.strings] using h
    simp [Warning.toJson, texts, memberTexts]
  | some d =>
    have hv : v = message ∨ v = d := by simpa [Warning.strings] using h
    simp only [Warning.toJson, Option.toList_some, List.map_cons, List.map_nil, List.cons_append,
      List.nil_append, texts, memberTexts, List.mem_cons, List.not_mem_nil]
    tauto

/-- The strings of a snapshot are saved. -/
theorem Snapshot.mem_texts {s : Snapshot} (h : v ∈ s.strings) : v ∈ texts s.toJson := by
  simp only [Snapshot.strings, List.mem_append, List.mem_flatMap] at h
  simp only [Snapshot.toJson, texts, memberTexts, itemTexts_map, List.mem_append, List.mem_flatMap]
  obtain ((⟨r, hr, hv⟩ | ⟨t, ht, hv⟩) | ⟨m, hm, hv⟩) | ⟨w, hw, hv⟩ := h
  · exact .inr (.inl ⟨r, hr, Route.mem_texts hv⟩)
  · exact .inr (.inr (.inl ⟨t, ht, Table.mem_texts hv⟩))
  · exact .inr (.inr (.inr (.inl ⟨m, hm, AdminModule.mem_texts hv⟩)))
  · exact .inr (.inr (.inr (.inr (.inl ⟨w, hw, Warning.mem_texts hv⟩))))

end

/-! ## Names and times -/

/-- A character of the names and times in a snapshot. -/
def isStampChar (c : Char) : Bool :=
  c.isAlphanum || c == '-' || c == ':' || c == '.' || c == '+' || c == '_'

theorem isStampChar_of_isDigit {c : Char} (h : c.isDigit = true) : isStampChar c = true := by
  simp [isStampChar, Char.isAlphanum, h]

theorem all_padded (width n : Nat) : (Instant.padded width n).all isStampChar = true :=
  List.all_eq_true.2 fun c hc => isStampChar_of_isDigit (Instant.isDigit_of_mem_padded width n c hc)

theorem all_fractionText (n : Nat) : (Instant.fractionText n).all isStampChar = true := by
  rw [Instant.fractionText]
  split_ifs <;> simp [all_padded] <;> rfl

theorem all_yearText (year : Int) : (Instant.yearText year).all isStampChar = true := by
  rw [Instant.yearText]
  split_ifs <;> simp [all_padded] <;> rfl

theorem Instant.all_text (t : Instant) : t.text.toList.all isStampChar = true := by
  have hsigns : isStampChar '-' = true ∧ isStampChar ':' = true ∧ isStampChar 'T' = true ∧
      isStampChar 'Z' = true := by decide
  obtain ⟨hdash, hcolon, hT, hZ⟩ := hsigns
  simp [Instant.text, Instant.localText, all_padded, all_yearText, all_fractionText, hdash, hcolon,
    hT, hZ]

/-- The names of the members in a saved snapshot are words. -/
theorem isWord_names : ∀ k ∈ ["generatedAt", "routes", "tables", "modules", "warnings", "method",
    "path", "statusCode", "authHint", "sourceFile", "handler", "name", "type", "nullable",
    "columns", "slug", "label", "labelEn", "endpoint", "description", "descriptionEn", "source",
    "message", "detail"], isWord k = true := by
  decide +kernel

/-! ## Records -/

theorem areRecords_map {f : α → Json} {as : List α} (h : ∀ a ∈ as, IsRecord kind (f a)) :
    AreRecords kind (as.map f) := by
  induction as with
  | nil => trivial
  | cons a as ih =>
    obtain ⟨ha, has⟩ := List.forall_mem_cons.1 h
    exact ⟨ha, ih has⟩

theorem Column.isRecord (c : Column) (h : ∀ v ∈ c.strings, kind v) : IsRecord kind c.toJson := by
  simp only [Column.strings, List.forall_mem_cons] at h
  obtain ⟨hname, htype, -⟩ := h
  exact ⟨isWord_names _ (by decide), hname, isWord_names _ (by decide), htype,
    isWord_names _ (by decide), trivial, trivial⟩

theorem Table.isRecord (t : Table) (h : ∀ v ∈ t.strings, kind v) : IsRecord kind t.toJson := by
  simp only [Table.strings, List.forall_mem_cons, List.mem_flatMap] at h
  obtain ⟨hname, hcolumns⟩ := h
  refine ⟨isWord_names _ (by decide), hname, isWord_names _ (by decide), ?_, trivial⟩
  exact areRecords_map fun c hc => c.isRecord fun v hv => hcolumns v ⟨c, hc, hv⟩

theorem AdminModule.isRecord (m : AdminModule) (h : ∀ v ∈ m.strings, kind v) :
    IsRecord kind m.toJson := by
  simp only [AdminModule.strings, List.forall_mem_cons] at h
  obtain ⟨hslug, hlabel, hlabelEn, hendpoint, hdescription, hdescriptionEn, -⟩ := h
  exact ⟨isWord_names _ (by decide), hslug, isWord_names _ (by decide), hlabel,
    isWord_names _ (by decide), hlabelEn, isWord_names _ (by decide), hendpoint,
    isWord_names _ (by decide), hdescription, isWord_names _ (by decide), hdescriptionEn, trivial⟩

section

variable (hstamp : ∀ v : String, v.toList.all isStampChar = true → kind v)

include hstamp

theorem Route.isRecord (r : Route) (h : ∀ v ∈ r.strings, kind v) : IsRecord kind r.toJson := by
  have hmethod : r.method.name.toList.all isStampChar = true := by cases r.method <;> rfl
  have hauth : r.auth.name.toList.all isStampChar = true := by cases r.auth <;> rfl
  simp only [Route.strings, List.forall_mem_cons] at h
  obtain ⟨hpath, hfile, hhandler, -⟩ := h
  exact ⟨isWord_names _ (by decide), hstamp _ hmethod, isWord_names _ (by decide), hpath,
    isWord_names _ (by decide), Int.natCast_nonneg _, isWord_names _ (by decide), hstamp _ hauth,
    isWord_names _ (by decide), hfile, isWord_names _ (by decide), hhandler, trivial⟩

theorem Warning.isRecord (w : Warning) (h : ∀ v ∈ w.strings, kind v) : IsRecord kind w.toJson := by
  have hsource : w.source.name.toList.all isStampChar = true := by cases w.source <;> rfl
  obtain ⟨source, message, detail⟩ := w
  simp only [Warning.strings, List.forall_mem_cons] at h
  obtain ⟨hmessage, hdetail⟩ := h
  cases detail with
  | none =>
    exact ⟨isWord_names _ (by decide), hstamp _ hsource, isWord_names _ (by decide), hmessage,
      trivial⟩
  | some d =>
    exact ⟨isWord_names _ (by decide), hstamp _ hsource, isWord_names _ (by decide), hmessage,
      isWord_names _ (by decide), hdetail d (by simp), trivial⟩

/-- A snapshot is saved as a record. Its strings are of some kind if those that may be any strings
are, and all names and times are of that kind. -/
theorem Snapshot.isRecord (s : Snapshot) (h : ∀ v ∈ s.strings, kind v) :
    IsRecord kind s.toJson := by
  simp only [Snapshot.strings, List.forall_mem_append, List.mem_flatMap] at h
  obtain ⟨⟨⟨hroutes, htables⟩, hmodules⟩, hwarnings⟩ := h
  refine ⟨isWord_names _ (by decide), hstamp _ s.generatedAt.all_text,
    isWord_names _ (by decide), ?_, isWord_names _ (by decide), ?_,
    isWord_names _ (by decide), ?_, isWord_names _ (by decide), ?_, trivial⟩
  · exact areRecords_map fun r hr => r.isRecord hstamp fun v hv => hroutes v ⟨r, hr, hv⟩
  · exact areRecords_map fun t ht => t.isRecord fun v hv => htables v ⟨t, ht, hv⟩
  · exact areRecords_map fun m hm => m.isRecord fun v hv => hmodules v ⟨m, hm, hv⟩
  · exact areRecords_map fun w hw => w.isRecord hstamp fun v hv => hwarnings v ⟨w, hw, hv⟩

end

end Cadastre
