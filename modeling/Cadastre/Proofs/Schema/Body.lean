import Cadastre.Proofs.Schema.Exact
import Cadastre.Proofs.Schema.Line

/-!
# What the body of a statement takes in

The body of a statement reaches to the first closing mark, and a parenthesis with a semicolon after
a space is none: the body goes on behind it and takes in the header of the next statement, which is
not found then. No body does so where every header has a closing mark before the next one, and then
every statement outside comments is found.
-/

namespace Cadastre.Schema

open Text

variable {cs name : List Char} {s : Statement} {h i n p q : Nat} {x : Placed Statement}
  {found : List (Placed Statement)}

/-! ## Headers and closing marks -/

theorem HeaderAt.unique {name' : List Char} {r : Nat} (hheader : HeaderAt cs p name q)
    (hheader' : HeaderAt cs p name' r) : name = name' ∧ q = r :=
  read_drop_unique (headerAt_iff.1 hheader) (headerAt_iff.1 hheader')

theorem HeaderAt.lt (hheader : HeaderAt cs p name q) : p < q := by
  obtain ⟨w, hw, -, rfl⟩ := hheader
  have hpos := List.length_pos_of_ne_nil hw.ne_nil
  omega

theorem StatementAt.unique {s' : Statement} {r : Nat} (hat : StatementAt cs p s q)
    (hat' : StatementAt cs p s' r) : s = s' ∧ q = r :=
  read_drop_unique (statementAt_iff.1 hat) (statementAt_iff.1 hat')

/-- A statement ends with the first closing mark after its header. -/
theorem StatementAt.exists_closing (hat : StatementAt cs p s q) :
    ∃ name h b, HeaderAt cs p name h ∧ h ≤ b ∧ Stands cs closing b q ∧
      ∀ i r, h ≤ i → i < b → ¬ Stands cs closing i r := by
  obtain ⟨hheader, hle, hclosing, hfirst⟩ := hat
  exact ⟨_, _, _, hheader, hle, hclosing, hfirst⟩

/-! ## Bodies that take in headers -/

/-- A comment begins before a place on the same line. -/
def Commented (cs : List Char) (i : Nat) : Prop :=
  ∃ c r, Stands cs commentMark c r ∧ r ≤ i ∧ ∀ k, c ≤ k → k < i → cs[k]? ≠ some '\n'

/-- A further header stands in the body of a statement, outside comments. -/
def TakesIn (cs : List Char) (x : Placed Statement) : Prop :=
  ∃ name h b i name' n, HeaderAt cs x.start name h ∧ Stands cs closing b x.stop ∧
    h ≤ i ∧ HeaderAt cs i name' n ∧ n ≤ b ∧ ¬ Commented cs i

/-- A further header stands behind the header at a place, outside comments, and no closing mark
begins before the further header ends. -/
def Interrupted (cs : List Char) (p : Nat) : Prop :=
  ∃ name h i name' n, HeaderAt cs p name h ∧ h ≤ i ∧ HeaderAt cs i name' n ∧ ¬ Commented cs i ∧
    ∀ t r, h ≤ t → t < n → ¬ Stands cs closing t r

/-- Every header has a closing mark before the next header outside comments. -/
def ClosedDirectly (cs : List Char) : Prop :=
  ∀ p name h i name' n, HeaderAt cs p name h → h ≤ i → HeaderAt cs i name' n → ¬ Commented cs i →
    ∃ t r, h ≤ t ∧ Stands cs closing t r ∧ r ≤ i

/-- A body takes in a header just if its statement is interrupted by one. -/
theorem StatementAt.takesIn_iff (hat : StatementAt cs x.start s x.stop) :
    TakesIn cs x ↔ Interrupted cs x.start := by
  obtain ⟨name, h, b, hheader, hle, hclosing, hfirst⟩ := hat.exists_closing
  constructor
  · rintro ⟨_, _, b', i, name', n, hheader', hclosing', hi, hsecond, hn, hcomment⟩
    obtain ⟨-, rfl⟩ := hheader.unique hheader'
    have hb : b = b' := by
      have hstop := hclosing.2.symm.trans hclosing'.2
      omega
    exact ⟨name, h, i, name', n, hheader, hi, hsecond, hcomment,
      fun t r ht htn => hfirst t r ht (by omega)⟩
  · rintro ⟨_, _, i, name', n, hheader', hi, hsecond, hcomment, hnone⟩
    obtain ⟨-, rfl⟩ := hheader.unique hheader'
    refine ⟨name, h, b, i, name', n, hheader, hclosing, hi, hsecond, ?_, hcomment⟩
    by_contra hlt
    exact hnone b x.stop hle (by omega) hclosing

/-- With a closing mark before every next header, a statement ends before it. -/
theorem ClosedDirectly.stop_le (hclosed : ClosedDirectly cs) (hat : StatementAt cs p s q)
    (hheader : HeaderAt cs p name h) (hle : h ≤ i) {name' : List Char}
    (hnext : HeaderAt cs i name' n) (hcomment : ¬ Commented cs i) : q ≤ i := by
  obtain ⟨t, r, ht, hbetween, hr⟩ := hclosed p name h i name' n hheader hle hnext hcomment
  obtain ⟨_, _, b, hheader', -, hclosing, hfirst⟩ := hat.exists_closing
  obtain ⟨-, rfl⟩ := hheader.unique hheader'
  -- the statement ends with the first mark, which is not behind the one between the headers
  have hbt : b ≤ t := by
    by_contra htb
    exact hfirst t r ht (by omega) hbetween
  have hq := hclosing.2
  have hr' := hbetween.2
  omega

theorem ClosedDirectly.not_takesIn (hclosed : ClosedDirectly cs)
    (hat : StatementAt cs x.start s x.stop) : ¬ TakesIn cs x := by
  rintro ⟨name, h, b, i, name', n, hheader, hclosing, hi, hnext, hn, hcomment⟩
  have hstop := hclosed.stop_le hat hheader hi hnext hcomment
  have hin := hnext.lt
  have hb := hclosing.2
  omega

/-! ## Statements that are found -/

theorem statementAt_of_mem (hfound : Successive (PlacedAt (StatementAt cs)) n found)
    (hx : x ∈ found) : StatementAt cs x.start x.value x.stop := by
  obtain ⟨_, _, rfl, rfl, hat⟩ := hfound.exists_of_mem hx
  exact hat

/-- With a closing mark before every next header, a statement is found if it begins neither in a
comment nor in the header of another one. -/
theorem ClosedDirectly.mem_of_statementAt (hclosed : ClosedDirectly cs)
    (hfound : Successive (PlacedAt (StatementAt cs)) 0 found) (hat : StatementAt cs p s q)
    (hcomment : ¬ Commented cs p)
    (hapart : ∀ i name n, HeaderAt cs i name n → i < p → n ≤ p) : ⟨p, s, q⟩ ∈ found := by
  have hplaced : PlacedAt (StatementAt cs) p ⟨p, s, q⟩ q := ⟨rfl, rfl, hat⟩
  obtain ⟨y, hy, _, _, ⟨rfl, rfl, hat'⟩, hplace⟩ := hfound.exists_mem hplaced (Nat.zero_le p)
  rcases hplace with rfl | ⟨hlt, hstop⟩
  · obtain ⟨rfl, rfl⟩ := hat.unique hat'
    exact hy
  · obtain ⟨name, h, -, hheader, -⟩ := hat'.exists_closing
    obtain ⟨name', h', -, hnext, -⟩ := hat.exists_closing
    have hend := hclosed.stop_le hat' hheader (hapart _ _ _ hheader hlt) hnext hcomment
    omega

/-- The statements of a schema with their places. -/
theorem exists_placed_statements (cs : List Char) :
    ∃ found, (∀ other, Successive (PlacedAt (StatementAt cs)) 0 other ↔ other = found) ∧
      found.map Placed.value = statements cs := by
  have hunique : ∀ p s q s' r, StatementAt cs p s q → StatementAt cs p s' r → s = s' ∧ q = r :=
    fun _ _ _ _ _ => StatementAt.unique
  obtain ⟨found, hfound, hvalues⟩ :=
    Successive.exists_placed (successive_statementAt_iff.2 (Eq.refl (statements cs)))
  refine ⟨found, fun other => ⟨fun h => ?_, ?_⟩, hvalues⟩
  · exact h.unique (PlacedAt.unique hunique) hfound
  · rintro rfl
    exact hfound

/-- The tables of a schema are those of the statements that are found in it. A body takes in the
header of a further statement just if no closing mark comes before that header, and where every
header has its closing mark before the next one, no body does, and every statement is found that
begins neither in a comment nor in the header of another one. -/
theorem tables_apart (content : String) :
    ∃ found, (∀ other, Successive (PlacedAt (StatementAt content.toList)) 0 other ↔
        other = found) ∧
      StablySorted Table.name ((found.filter fun x => normalize x.value.name ≠ []).map
        fun x => x.value.table) (tables content) ∧
      (∀ x ∈ found, TakesIn content.toList x ↔ Interrupted content.toList x.start) ∧
      (ClosedDirectly content.toList → (∀ x ∈ found, ¬ TakesIn content.toList x) ∧
        ∀ p s q, StatementAt content.toList p s q → ¬ Commented content.toList p →
          (∀ i name n, HeaderAt content.toList i name n → i < p → n ≤ p) →
          ⟨p, s, q⟩ ∈ found ∧ (normalize s.name ≠ [] → s.table ∈ tables content)) := by
  obtain ⟨found, hfound, hvalues⟩ := exists_placed_statements content.toList
  have hsuccessive := (hfound found).2 rfl
  have htables : StablySorted Table.name ((found.filter fun x => normalize x.value.name ≠ []).map
      fun x => x.value.table) (tables content) := by
    have hlist : (found.filter fun x => normalize x.value.name ≠ []).map (fun x => x.value.table) =
        (statements content.toList).filterMap Statement.table? := by
      rw [filterMap_table?, ← hvalues, List.filter_map, List.map_map]
      rfl
    rw [hlist]
    exact stablySorted_sortByKey _ _
  refine ⟨found, hfound, htables, fun x hx => ?_, fun hclosed => ⟨fun x hx => ?_, ?_⟩⟩
  · exact (statementAt_of_mem hsuccessive hx).takesIn_iff
  · exact hclosed.not_takesIn (statementAt_of_mem hsuccessive hx)
  · intro p s q hat hcomment hapart
    have hmem := hclosed.mem_of_statementAt hsuccessive hat hcomment hapart
    refine ⟨hmem, fun hname => htables.perm.mem_iff.2 ?_⟩
    exact List.mem_map.2 ⟨_, List.mem_filter.2 ⟨hmem, decide_eq_true hname⟩, rfl⟩

/-- A schema with two tables, each closed by a mark. -/
def twoTables : String :=
  "CREATE TABLE a (\n  id int\n);\n" ++ "CREATE TABLE b (\n  id int\n);\n"

theorem closedDirectly_twoTables : ClosedDirectly twoTables.toList := by
  intro p name h i name' n hheader hle hnext _
  -- the schema has headers at two places only
  have hplaces : ∀ k < 58, (header? (twoTables.toList.drop k)).isSome = true → k = 0 ∨ k = 29 := by
    decide +kernel
  have hplace : ∀ {k name q}, HeaderAt twoTables.toList k name q → k = 0 ∨ k = 29 := by
    intro k name q hat
    obtain ⟨hread, hq⟩ := headerAt_iff.1 hat
    have hlength : twoTables.toList.length = 58 := by decide +kernel
    have hkq := hat.lt
    exact hplaces k (by omega) (by rw [hread]; rfl)
  have hfirst : HeaderAt twoTables.toList 0 ['a'] 16 := headerAt_iff.2 (by decide +kernel)
  have hclosing : Stands twoTables.toList closing 26 28 := ⟨by decide +kernel, rfl⟩
  have hp := hplace hheader
  have hi := hplace hnext
  have hph := hheader.lt
  obtain ⟨rfl, rfl⟩ : p = 0 ∧ i = 29 := by omega
  obtain ⟨-, rfl⟩ := hheader.unique hfirst
  exact ⟨26, 28, by decide, hclosing, by decide⟩

theorem tables_apart_two_tables :
    ClosedDirectly twoTables.toList ∧
      ∃ found, Successive (PlacedAt (StatementAt twoTables.toList)) 0 found ∧
        ∀ x ∈ found, ¬ TakesIn twoTables.toList x := by
  obtain ⟨found, hfound, -, -, hclosed⟩ := tables_apart twoTables
  exact ⟨closedDirectly_twoTables, found, (hfound found).2 rfl,
    (hclosed closedDirectly_twoTables).1⟩

/-- A schema whose first table has a space between its closing parenthesis and the semicolon. -/
def spacedClosing : String :=
  "CREATE TABLE a (\n  id int\n) ;\n" ++ "CREATE TABLE b (\n  name text\n);\n"

/-- The second table is gone, and its header is a column of the first one. -/
example : tables spacedClosing = [⟨"a", [⟨"id", "int", true⟩, ⟨"CREATE", "TABLE b (", true⟩,
    ⟨"name", "text", true⟩]⟩] := by
  decide +kernel

theorem takesIn_spacedClosing :
    ¬ ∀ (content : String) (found : List (Placed Statement)),
      Successive (PlacedAt (StatementAt content.toList)) 0 found →
        ∀ x ∈ found, normalize x.value.name ≠ [] → ¬ TakesIn content.toList x := by
  intro hnone
  have hlater : ∀ p x q, 61 ≤ p → ¬ PlacedAt (StatementAt spacedClosing.toList) p x q := by
    rintro p x q hp ⟨-, -, hat⟩
    have hend : firstRead? block? (spacedClosing.toList.drop 61) = none := by decide +kernel
    have hread := (statementAt_iff.1 hat).1
    rw [firstRead?_drop_eq_none_iff.1 hend p hp] at hread
    cases hread
  have hfound : Successive (PlacedAt (StatementAt spacedClosing.toList)) 0
      [⟨0, ⟨['a'], (spacedClosing.toList.drop 16).take 43⟩, 61⟩] :=
    .step (Nat.le_refl 0) (fun i _ _ _ hi => absurd hi (Nat.not_lt_zero i))
      ⟨rfl, rfl, statementAt_iff.2 (by decide +kernel)⟩ (.done hlater)
  refine hnone spacedClosing _ hfound _ List.mem_cons_self (by decide +kernel) ?_
  have hheader : HeaderAt spacedClosing.toList 0 ['a'] 16 := headerAt_iff.2 (by decide +kernel)
  have hsecond : HeaderAt spacedClosing.toList 30 ['b'] 46 := headerAt_iff.2 (by decide +kernel)
  have hclosing : Stands spacedClosing.toList closing 59 61 := ⟨by decide +kernel, rfl⟩
  have hcomment : ¬ Commented spacedClosing.toList 30 := by
    rintro ⟨c, r, hstands, -⟩
    have hlt : c < r := by simp [hstands.2, commentMark]
    obtain ⟨d, hd, hmem⟩ := getElem?_of_stands hstands (Nat.le_refl c) hlt
    obtain rfl : d = '-' := by simpa [commentMark] using hd
    exact absurd (List.mem_of_getElem? hmem) (by decide +kernel)
  exact ⟨_, _, _, _, _, _, hheader, hclosing, by decide, hsecond, by decide, hcomment⟩

end Cadastre.Schema
