import Cadastre.Proofs.Schema.Grammar
import Cadastre.Proofs.Snapshot.Order
import Cadastre.Proofs.Text.Places

/-!
# The statements of a schema

Where a schema has a statement is said by headers and closing marks alone: a statement begins with a
header and ends with the first closing mark after it. The main statement is that the tables of a
schema are those of its statements, found one after another, in stable order of their names.
-/

namespace Cadastre.Schema

open Text

variable {cs rest body name : List Char} {s : Statement} {p q : Nat}

/-! ## Places of statements -/

/-- What ends a statement. -/
def closing : List Char := [')', ';']

/-- A header with the name of its table stands between two places. -/
def HeaderAt (cs : List Char) (p : Nat) (name : List Char) (q : Nat) : Prop :=
  ∃ w, IsHeader name w ∧ Stands cs w p q

/-- A statement stands between two places: a header, the body, and the first closing mark at or
after the end of the header. -/
inductive StatementAt (cs : List Char) : Nat → Statement → Nat → Prop where
  /-- The header ends where the body begins, and the closing mark begins where it ends. -/
  | mk {p h b q : Nat} {name : List Char} (hheader : HeaderAt cs p name h) (hle : h ≤ b)
      (hclosing : Stands cs closing b q) (hfirst : ∀ i r, h ≤ i → i < b → ¬ Stands cs closing i r) :
      StatementAt cs p ⟨name, (cs.drop h).take (b - h)⟩ q

/-- The statement at the start of a text, and all that follows it. -/
def block? (cs : List Char) : Option (Statement × List Char) :=
  (header? cs).bind fun (name, cs) => (cut? closing cs).map fun (body, rest) => (⟨name, body⟩, rest)

theorem statement?_eq : statement? cs = (block? cs).map fun (s, rest) => (s, trimStart rest) := by
  simp only [statement?, block?, Option.bind_eq_bind]
  cases header? cs with
  | none => rfl
  | some found =>
    simp only [Option.bind_some, closing]
    cases cut? [')', ';'] found.2 <;> rfl

theorem headerAt_iff :
    HeaderAt cs p name q ↔ header? (cs.drop p) = some (name, cs.drop q) ∧ q ≤ cs.length := by
  rw [header?_eq_some_iff]
  exact exists_stands_iff fun _ hw => hw.ne_nil

/-- The reader of statements reads, at every place, the statement that stands there. -/
theorem statementAt_iff :
    StatementAt cs p s q ↔ block? (cs.drop p) = some (s, cs.drop q) ∧ q ≤ cs.length := by
  have hne : closing ≠ [] := by simp [closing]
  simp only [block?, cut?_eq, Option.bind_eq_some_iff, Option.map_eq_some_iff]
  constructor
  · rintro ⟨hheader, hle, hclosing, hfirst⟩
    rename_i h b name
    obtain ⟨i, rfl⟩ := Nat.exists_eq_add_of_le hle
    obtain ⟨hh, -⟩ := headerAt_iff.1 hheader
    obtain ⟨hb, hq⟩ := (stands_iff hne).1 hclosing
    have hread : firstRead? closing.isPrefixOf? (cs.drop h) = some (i, cs.drop q) :=
      firstRead?_drop_eq_some_iff.2 ⟨List.isPrefixOf?_eq_some_iff_append_eq.2 hb.symm,
        fun j hj hji => isPrefixOf?_eq_none_iff.2 fun r => hfirst j r hj hji⟩
    exact ⟨⟨_, hh, _, ⟨_, hread, rfl⟩, by simp⟩, hq⟩
  · rintro ⟨⟨⟨name, a⟩, hh, ⟨body, rest⟩, ⟨⟨i, r⟩, hb, hbody⟩, he⟩, hq⟩
    obtain ⟨w, hw, hdrop⟩ := header?_eq_some_iff.1 hh
    obtain ⟨hstands, rfl⟩ := stands_of_drop_eq hdrop
    obtain ⟨hb, hnone⟩ := firstRead?_drop_eq_some_iff.1 hb
    obtain ⟨rfl, rfl⟩ := by simpa using hbody
    obtain ⟨rfl, rfl⟩ : ⟨name, _⟩ = s ∧ r = cs.drop q := by simpa using he
    have hclosing := (stands_iff hne).2 ⟨(List.isPrefixOf?_eq_some_iff_append_eq.1 hb).symm, hq⟩
    have hat := StatementAt.mk ⟨w, hw, hstands⟩ (Nat.le_add_right _ i) hclosing
      fun j r hj hji => isPrefixOf?_eq_none_iff.1 (hnone j hj hji) r
    rwa [Nat.add_sub_cancel_left] at hat

/-- A statement begins at every header that is followed by a closing mark, however far away. -/
theorem exists_statementAt_iff :
    (∃ s q, StatementAt cs p s q) ↔
      ∃ name h b q, HeaderAt cs p name h ∧ h ≤ b ∧ Stands cs closing b q := by
  constructor
  · rintro ⟨_, q, hheader, hle, hclosing, -⟩
    exact ⟨_, _, _, q, hheader, hle, hclosing⟩
  · rintro ⟨name, h, b, q, hheader, hle, hclosing⟩
    obtain ⟨b, hle, ⟨q, hclosing⟩, hfirst⟩ :=
      exists_first (P := fun b => ∃ q, Stands cs closing b q) ⟨b, hle, q, hclosing⟩
    exact ⟨_, q, .mk hheader hle hclosing fun i r hi hib hi' => hfirst i hi hib ⟨r, hi'⟩⟩

/-! ## Statements one after another -/

theorem exists_append_of_block? (h : block? cs = some (s, rest)) :
    ∃ w, w ≠ [] ∧ cs = w ++ rest := by
  simp only [block?, cut?_eq, Option.bind_eq_some_iff, Option.map_eq_some_iff] at h
  obtain ⟨⟨name, a⟩, hh, ⟨body, r⟩, ⟨⟨b, r'⟩, hb, hbody⟩, he⟩ := h
  obtain ⟨w, hw, rfl⟩ := header?_eq_some_iff.1 hh
  obtain ⟨hdrop, -⟩ := firstRead?_eq_some_iff.1 hb
  obtain ⟨-, rfl⟩ := Prod.mk.inj hbody
  obtain ⟨-, rfl⟩ := Prod.mk.inj he
  refine ⟨w ++ (a.take b ++ closing), by simp [closing], ?_⟩
  have ha : a = a.take b ++ (closing ++ r') := by
    rw [List.isPrefixOf?_eq_some_iff_append_eq.1 hdrop, List.take_append_drop]
  conv_lhs => rw [ha]
  simp

theorem firstStatement?_eq :
    firstStatement? cs = (firstRead? block? cs).map fun (_, s, rest) => (s, trimStart rest) := by
  induction cs with
  | nil => rfl
  | cons c cs ih =>
    cases hc : block? (c :: cs) with
    | some found => simp [firstStatement?, statement?_eq, firstRead?_cons_of_some hc, hc]
    | none =>
      simp [firstStatement?, statement?_eq, firstRead?_cons_of_none hc, hc, ih, Function.comp_def]

/-- No statement begins in the blank characters at the start of a text. -/
theorem firstStatement?_trimStart (cs : List Char) :
    firstStatement? (trimStart cs) = firstStatement? cs := by
  induction cs with
  | nil => rfl
  | cons c cs ih =>
    by_cases hc : isBlank c = true
    · have htrim : trimStart (c :: cs) = trimStart cs := List.dropWhile_cons_of_pos hc
      rw [htrim, ih]
      simp [firstStatement?, statement?, header?_cons_of_isBlank hc]
    · rw [trimStart, List.dropWhile_cons_of_neg hc]

theorem statements_of_none (h : firstStatement? cs = none) : statements cs = [] := by
  rw [statements]
  split
  · rfl
  · next hs => rw [h] at hs; simp at hs

theorem statements_of_some (h : firstStatement? cs = some (s, rest)) :
    statements cs = s :: statements rest := by
  rw [statements]
  split
  · next hs => rw [h] at hs; simp at hs
  · next hs =>
    rw [h] at hs
    obtain ⟨rfl, rfl⟩ := by simpa using hs
    rfl

theorem statements_trimStart (cs : List Char) : statements (trimStart cs) = statements cs := by
  cases hf : firstStatement? cs with
  | none => rw [statements_of_none hf, statements_of_none ((firstStatement?_trimStart cs).trans hf)]
  | some found =>
    rw [statements_of_some hf, statements_of_some ((firstStatement?_trimStart cs).trans hf)]

/-- The statements that are found one after another are those of the schema. -/
theorem successive_statementAt_iff {found : List Statement} :
    Successive (StatementAt cs) 0 found ↔ found = statements cs := by
  refine successive_iff_of_firstRead? statements (fun _ _ _ => statementAt_iff)
    exists_append_of_block? ?_ ?_
  · intro cs h
    exact statements_of_none (by rw [firstStatement?_eq, h, Option.map_none])
  · intro cs p s rest h
    have hfirst : firstStatement? cs = some (s, trimStart rest) := by
      rw [firstStatement?_eq, h, Option.map_some]
    rw [statements_of_some hfirst, statements_trimStart]

/-! ## Tables -/

/-- The table of a statement: its name without quotes and default schema, and what the lines of its
body declare. -/
def Statement.table (s : Statement) : Table :=
  ⟨String.ofList (normalize s.name), (s.body.splitOn '\n').filterMap column?⟩

theorem filterMap_table? (found : List Statement) :
    found.filterMap Statement.table? =
      (found.filter fun s => normalize s.name ≠ []).map Statement.table := by
  induction found with
  | nil => rfl
  | cons s found ih =>
    cases hname : normalize s.name with
    | nil =>
      have hnone : s.table? = none := by simp [Statement.table?, hname]
      rw [List.filterMap_cons_none hnone, ih, List.filter_cons_of_neg (by simp [hname])]
    | cons c name =>
      have hsome : s.table? = some s.table := by
        simp [Statement.table?, Statement.table, hname, lines_eq_splitOn]
      rw [List.filterMap_cons_some hsome, ih, List.filter_cons_of_pos (by simp [hname]),
        List.map_cons]

/-- A schema has one list of statements, each with a header and the first closing mark after it and
found from the end of the one before, and its tables are those of the statements of which a name is
left, in stable order of these names. -/
theorem tables_exact (content : String) :
    (∀ p, (∃ s q, StatementAt content.toList p s q) ↔
      ∃ name h b q, HeaderAt content.toList p name h ∧ h ≤ b ∧
        Stands content.toList closing b q) ∧
      ∃ found, (∀ other, Successive (StatementAt content.toList) 0 other ↔ other = found) ∧
        ∀ sorted, StablySorted Table.name
            ((found.filter fun s => normalize s.name ≠ []).map Statement.table) sorted ↔
          sorted = tables content := by
  have hsorted : StablySorted Table.name
      (((statements content.toList).filter fun s => normalize s.name ≠ []).map Statement.table)
      (tables content) := by
    rw [← filterMap_table?]
    exact stablySorted_sortByKey _ _
  refine ⟨fun p => exists_statementAt_iff, statements content.toList,
    fun other => successive_statementAt_iff, fun sorted => ⟨fun h => h.unique hsorted, ?_⟩⟩
  rintro rfl
  exact hsorted

end Cadastre.Schema
