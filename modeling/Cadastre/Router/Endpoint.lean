import Cadastre.Snapshot.Basic
import Cadastre.Text.Blank
import Cadastre.Text.Search
import Cadastre.Text.Word

/-!
# Endpoints in router sources

An endpoint is a decorator `@router.get("/path", …)` with a function below it. Its head names the
method and the path, the text between the head and the closing parenthesis holds the further
arguments, and its tail is that parenthesis, a line break, and the function's name and opening
parenthesis. A head takes the first tail that comes after it. Endpoints are looked for from left to
right, each from the end of the one before.
-/

namespace Cadastre.Router

/-- An endpoint as it is written. -/
structure Endpoint where
  /-- The method that the decorator names. -/
  method : Method
  /-- The path between its quotes. -/
  path : List Char
  /-- The text between head and tail. -/
  arguments : List Char
  /-- The name of the function. -/
  handler : List Char
deriving DecidableEq

/-! ## Heads -/

/-- Whether a character is a quote around a path. -/
def isQuote (c : Char) : Bool := c == '"' || c == '\''

/-- The method at the start of a text, and the rest. -/
def method? (cs : List Char) : Option (Method × List Char) :=
  Method.all.findSome? fun m => (m.keyword.toList.isPrefixOf? cs).map fun rest => (m, rest)

/-- The path between quotes at the start of a text, and the rest. It is not empty, and either quote
may stand at either end. -/
def quotedPath? : List Char → Option (List Char × List Char)
  | [] => none
  | q :: cs =>
    if isQuote q then
      match cs.takeWhile (fun c => !isQuote c), cs.dropWhile fun c => !isQuote c with
      | c :: path, _ :: rest => some (c :: path, rest)
      | _, _ => none
    else none

/-- What stands before the method of a decorator. -/
def marker : List Char := ['@', 'r', 'o', 'u', 't', 'e', 'r', '.']

/-- The method and path of the head at the start of a text, and the rest. -/
def head? (cs : List Char) : Option (Method × List Char × List Char) := do
  let cs ← marker.isPrefixOf? cs
  let (method, cs) ← method? cs
  let cs ← ['('].isPrefixOf? cs
  let (path, cs) ← quotedPath? (Text.trimStart cs)
  some (method, path, cs)

/-! ## Tails -/

/-- The text after a run of blank characters that ends with a newline. -/
def lineEnd? (cs : List Char) : Option (List Char) :=
  if (cs.takeWhile Text.isBlank).getLast? == some '\n' then some (Text.trimStart cs) else none

/-- The text after a word and the blank characters that follow it. -/
def keyword? (word : List Char) (cs : List Char) : Option (List Char) :=
  (word.isPrefixOf? cs).bind Text.dropBlanks?

/-- The name at the start of a text, and the rest. -/
def name? : List Char → Option (List Char × List Char)
  | [] => none
  | c :: cs =>
    if Text.isNameStart c then
      some (c :: cs.takeWhile Text.isNameChar, cs.dropWhile Text.isNameChar)
    else none

/-- The name of the function in the tail at the start of a text, and the rest. -/
def tail? (cs : List Char) : Option (List Char × List Char) := do
  let cs ← [')'].isPrefixOf? cs
  let cs ← lineEnd? cs
  let cs := (keyword? ['a', 's', 'y', 'n', 'c'] cs).getD cs
  let cs ← keyword? ['d', 'e', 'f'] cs
  let (name, cs) ← name? cs
  let cs ← ['('].isPrefixOf? (Text.trimStart cs)
  some (name, cs)

/-- The text up to the first tail, the name of its function, and the rest. -/
def firstTail? : List Char → Option (List Char × List Char × List Char)
  | [] => none
  | c :: cs =>
    match tail? (c :: cs) with
    | some (name, rest) => some ([], name, rest)
    | none => (firstTail? cs).map fun (before, name, rest) => (c :: before, name, rest)

/-! ## Endpoints -/

/-- The endpoint at the start of a text, and the rest. -/
def endpoint? (cs : List Char) : Option (Endpoint × List Char) := do
  let (method, path, cs) ← head? cs
  let (arguments, handler, rest) ← firstTail? cs
  some (⟨method, path, arguments, handler⟩, rest)

/-- The text before the first endpoint, the endpoint, the text it is written in, and the rest. -/
def search? : List Char → Option (List Char × Endpoint × List Char × List Char)
  | [] => none
  | c :: cs =>
    match endpoint? (c :: cs) with
    | some (e, rest) => some ([], e, (c :: cs).take (cs.length + 1 - rest.length), rest)
    | none => (search? cs).map fun (before, e, written, rest) => (c :: before, e, written, rest)

theorem length_lt_of_method? {cs rest : List Char} {m : Method}
    (h : method? cs = some (m, rest)) : rest.length ≤ cs.length := by
  obtain ⟨n, -, hn⟩ := List.exists_of_findSome?_eq_some h
  obtain ⟨r, hr, he⟩ := Option.map_eq_some_iff.1 hn
  obtain ⟨-, rfl⟩ := Prod.mk.inj he
  have := Text.length_of_isPrefixOf? hr
  omega

theorem length_lt_of_quotedPath? {cs path rest : List Char}
    (h : quotedPath? cs = some (path, rest)) : rest.length < cs.length := by
  cases cs with
  | nil => simp [quotedPath?] at h
  | cons q cs =>
    simp only [quotedPath?] at h
    split at h
    · split at h
      · next c p d r _ hd =>
        obtain ⟨-, rfl⟩ := Prod.mk.inj (Option.some.inj h)
        have := Text.length_dropWhile_le (fun c => !isQuote c) cs
        rw [hd] at this
        simp only [List.length_cons] at *
        omega
      · simp at h
    · simp at h

theorem length_lt_of_head? {cs path rest : List Char} {m : Method}
    (h : head? cs = some (m, path, rest)) : rest.length < cs.length := by
  simp only [head?, Option.bind_eq_bind, Option.bind_eq_some_iff] at h
  obtain ⟨a, ha, ⟨n, b⟩, hb, c, hc, ⟨p, d⟩, hd, he⟩ := h
  obtain ⟨rfl, rfl, rfl⟩ : n = m ∧ p = path ∧ d = rest := by simpa using he
  have h1 := Text.length_of_isPrefixOf? ha
  have h2 := length_lt_of_method? hb
  have h3 := Text.length_of_isPrefixOf? hc
  have h4 := length_lt_of_quotedPath? hd
  have h5 := Text.length_trimStart_le c
  simp only [marker, List.length_cons, List.length_nil] at h1 h3
  omega

theorem length_le_of_keyword? {w cs rest : List Char} (h : keyword? w cs = some rest) :
    rest.length < cs.length := by
  obtain ⟨a, ha, hb⟩ := Option.bind_eq_some_iff.1 h
  have h1 := Text.length_of_isPrefixOf? ha
  have h2 := Text.length_lt_of_dropBlanks? hb
  omega

theorem length_lt_of_tail? {cs name rest : List Char} (h : tail? cs = some (name, rest)) :
    rest.length < cs.length := by
  simp only [tail?, Option.bind_eq_bind, Option.bind_eq_some_iff] at h
  obtain ⟨a, ha, b, hb, c, hc, ⟨n, d⟩, hd, e, he, hf⟩ := h
  obtain ⟨rfl, rfl⟩ : n = name ∧ e = rest := by simpa using hf
  have h1 := Text.length_of_isPrefixOf? ha
  have h2 : b.length ≤ a.length := by
    simp only [lineEnd?] at hb
    split at hb
    · cases hb
      exact Text.length_trimStart_le a
    · simp at hb
  have h3 : ((keyword? ['a', 's', 'y', 'n', 'c'] b).getD b).length ≤ b.length := by
    cases hk : keyword? ['a', 's', 'y', 'n', 'c'] b with
    | none => simp
    | some r => exact Nat.le_of_lt (length_le_of_keyword? hk)
  have h4 := length_le_of_keyword? hc
  have h5 : d.length ≤ c.length := by
    cases c with
    | nil => simp [name?] at hd
    | cons x xs =>
      simp only [name?] at hd
      split at hd
      · obtain ⟨-, rfl⟩ := Prod.mk.inj (Option.some.inj hd)
        exact Nat.le_succ_of_le (Text.length_dropWhile_le _ xs)
      · simp at hd
  have h6 := Text.length_of_isPrefixOf? he
  have h7 := Text.length_trimStart_le d
  simp only [List.length_cons, List.length_nil] at h1 h6
  omega

theorem length_lt_of_firstTail? {cs before name rest : List Char}
    (h : firstTail? cs = some (before, name, rest)) : rest.length < cs.length := by
  induction cs generalizing before with
  | nil => simp [firstTail?] at h
  | cons c cs ih =>
    simp only [firstTail?] at h
    split at h
    · next n r ht =>
      obtain ⟨-, -, rfl⟩ : [] = before ∧ n = name ∧ r = rest := by simpa using h
      exact length_lt_of_tail? ht
    · obtain ⟨⟨b, n, r⟩, hr, he⟩ := Option.map_eq_some_iff.1 h
      obtain ⟨-, rfl, rfl⟩ : c :: b = before ∧ n = name ∧ r = rest := by simpa using he
      exact Nat.lt_succ_of_lt (ih hr)

theorem length_lt_of_endpoint? {cs rest : List Char} {e : Endpoint}
    (h : endpoint? cs = some (e, rest)) : rest.length < cs.length := by
  simp only [endpoint?, Option.bind_eq_bind, Option.bind_eq_some_iff] at h
  obtain ⟨⟨m, p, a⟩, ha, ⟨x, n, r⟩, hr, he⟩ := h
  obtain ⟨-, rfl⟩ := Prod.mk.inj (Option.some.inj he)
  exact Nat.lt_trans (length_lt_of_firstTail? hr) (length_lt_of_head? ha)

theorem length_lt_of_search? {cs before written rest : List Char} {e : Endpoint}
    (h : search? cs = some (before, e, written, rest)) : rest.length < cs.length := by
  induction cs generalizing before with
  | nil => simp [search?] at h
  | cons c cs ih =>
    simp only [search?] at h
    split at h
    · next e r he =>
      have hx := length_lt_of_endpoint? he
      simp only [Option.some.injEq, Prod.mk.injEq] at h
      obtain ⟨-, -, -, rfl⟩ := h
      exact hx
    · obtain ⟨⟨b, f, w, r⟩, hr, he⟩ := Option.map_eq_some_iff.1 h
      simp only [Prod.mk.injEq] at he
      obtain ⟨-, rfl, rfl, rfl⟩ := he
      exact Nat.lt_succ_of_lt (ih hr)

/-- The text before the first endpoint, and every endpoint with its span: the text from where it
begins to where the next one does, or to the end. -/
def spans (cs : List Char) : List Char × List (Endpoint × List Char) :=
  match h : search? cs with
  | none => (cs, [])
  | some (before, e, written, rest) =>
    have : rest.length < cs.length := length_lt_of_search? h
    let (gap, later) := spans rest
    (before, (e, written ++ gap) :: later)
termination_by cs.length

end Cadastre.Router
