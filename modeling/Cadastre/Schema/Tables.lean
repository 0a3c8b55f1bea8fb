import Cadastre.Schema.Column
import Cadastre.Snapshot.Order

/-!
# Tables of a schema

A table is a statement `CREATE TABLE name (…);`. Its header is read in any letter case; its name has
one part or two, each a word or a text between double quotes; its body reaches to the first closing
parenthesis with a semicolon right behind it. Every line of the body is read on its own. Statements
are looked for from left to right, each from the end of the one before.
-/

namespace Cadastre.Schema

/-- A statement that creates a table, as it is written. -/
structure Statement where
  /-- The name, with its quotes and schema. -/
  name : List Char
  /-- The text between the parentheses. -/
  body : List Char
deriving DecidableEq

/-- The part of a name at the start of a text, and the rest. -/
def namePart? : List Char → Option (List Char × List Char)
  | [] => none
  | c :: cs =>
    if c == '"' then
      match cs.takeWhile (· != '"'), cs.dropWhile (· != '"') with
      | d :: part, q :: rest => some (c :: d :: part ++ [q], rest)
      | _, _ => none
    else if Text.isWord c then
      some (c :: cs.takeWhile Text.isWord, cs.dropWhile Text.isWord)
    else none

/-- The name at the start of a text, of one part or of two with a point between them, and the
rest. -/
def tableName? (cs : List Char) : Option (List Char × List Char) :=
  (namePart? cs).map fun (first, rest) =>
    match rest with
    | '.' :: after =>
      match namePart? after with
      | some (second, rest) => (first ++ '.' :: second, rest)
      | none => (first, '.' :: after)
    | rest => (first, rest)

/-- The words of a header, in small letters. -/
def headerWords : List Char :=
  ['c', 'r', 'e', 'a', 't', 'e', ' ', 't', 'a', 'b', 'l', 'e']

/-- The name in the header at the start of a text, and the rest. -/
def header? (cs : List Char) : Option (List Char × List Char) := do
  let cs ← Text.dropWord? headerWords cs
  let cs ← Text.dropBlanks? cs
  let (name, cs) ← tableName? cs
  let cs ← ['('].isPrefixOf? (Text.trimStart cs)
  some (name, cs)

/-- The statement at the start of a text, and the rest. -/
def statement? (cs : List Char) : Option (Statement × List Char) := do
  let (name, cs) ← header? cs
  let (body, rest) ← Text.cut? [')', ';'] cs
  some (⟨name, body⟩, Text.trimStart rest)

/-- The first statement in a text, and the rest. -/
def firstStatement? : List Char → Option (Statement × List Char)
  | [] => none
  | c :: cs => (statement? (c :: cs)).or (firstStatement? cs)

theorem length_lt_of_statement? {cs rest : List Char} {s : Statement}
    (h : statement? cs = some (s, rest)) : rest.length < cs.length := by
  simp only [statement?, Option.bind_eq_bind, Option.bind_eq_some_iff] at h
  obtain ⟨⟨n, a⟩, ha, ⟨b, r⟩, hr, he⟩ := h
  obtain ⟨-, rfl⟩ := Prod.mk.inj (Option.some.inj he)
  simp only [header?, Option.bind_eq_bind, Option.bind_eq_some_iff] at ha
  obtain ⟨c, hc, d, hd, ⟨m, e⟩, hm, f, hf, hx⟩ := ha
  obtain ⟨rfl, rfl⟩ : m = n ∧ f = a := by simpa using hx
  have h1 := Text.length_le_of_dropWord? hc
  have h2 := Text.length_lt_of_dropBlanks? hd
  have h3 : e.length ≤ d.length := by
    obtain ⟨⟨p, q⟩, hp, hq⟩ := Option.map_eq_some_iff.1 hm
    have hpart : ∀ {xs part more : List Char}, namePart? xs = some (part, more) →
        more.length ≤ xs.length := by
      intro xs part more hxs
      cases xs with
      | nil => simp [namePart?] at hxs
      | cons x xs =>
        simp only [namePart?] at hxs
        split at hxs
        · split at hxs
          · next y ys z zs _ hz =>
            obtain ⟨-, rfl⟩ := Prod.mk.inj (Option.some.inj hxs)
            have := Text.length_dropWhile_le (· != '"') xs
            rw [hz] at this
            simp only [List.length_cons] at *
            omega
          · simp at hxs
        · split at hxs
          · obtain ⟨-, rfl⟩ := Prod.mk.inj (Option.some.inj hxs)
            exact Nat.le_succ_of_le (Text.length_dropWhile_le _ xs)
          · simp at hxs
    have hq1 := hpart hp
    simp only at hq
    split at hq
    · next after =>
      split at hq
      · next second more hs =>
        obtain ⟨-, rfl⟩ := Prod.mk.inj hq
        have := hpart hs
        simp only [List.length_cons] at hq1
        omega
      · obtain ⟨-, rfl⟩ := Prod.mk.inj hq
        exact hq1
    · obtain ⟨-, rfl⟩ := Prod.mk.inj hq
      exact hq1
  have h4 := Text.length_of_isPrefixOf? hf
  have h5 := Text.length_trimStart_le e
  have h6 := Text.length_of_cut? hr
  have h7 := Text.length_trimStart_le r
  simp only [List.length_cons, List.length_nil] at h4 h6 ⊢
  omega

theorem length_lt_of_firstStatement? {cs rest : List Char} {s : Statement}
    (h : firstStatement? cs = some (s, rest)) : rest.length < cs.length := by
  induction cs with
  | nil => simp [firstStatement?] at h
  | cons c cs ih =>
    simp only [firstStatement?, Option.or_eq_some_iff] at h
    rcases h with h | ⟨-, h⟩
    · exact length_lt_of_statement? h
    · exact Nat.lt_succ_of_lt (ih h)

/-- The statements of a schema, in the order of the text. -/
def statements (cs : List Char) : List Statement :=
  match h : firstStatement? cs with
  | none => []
  | some (s, rest) =>
    have : rest.length < cs.length := length_lt_of_firstStatement? h
    s :: statements rest
termination_by cs.length

/-- The table that a statement creates, unless nothing is left of its name. -/
def Statement.table? (s : Statement) : Option Table :=
  match normalize s.name with
  | [] => none
  | name => some ⟨String.ofList name, (Text.lines s.body).filterMap column?⟩

/-- The tables of a schema, by name. -/
def tablesOf (content : List Char) : List Table :=
  Table.sort ((statements content).filterMap Statement.table?)

/-- The tables of a schema, by name. -/
def tables (content : String) : List Table := tablesOf content.toList

end Cadastre.Schema
