/-!
# Looking for a text within a text

Occurrence, the first place of a separator, and splitting at a separator.
-/

namespace Cadastre.Text

/-- Whether `needle` occurs in a text, character for character. -/
def occursIn (needle : List Char) : List Char → Bool
  | [] => needle.isEmpty
  | c :: cs => needle.isPrefixOf (c :: cs) || occursIn needle cs

/-- The text before the first occurrence of `mark`, or all of it. -/
def before (mark : List Char) : List Char → List Char
  | [] => []
  | c :: cs => if mark.isPrefixOf (c :: cs) then [] else c :: before mark cs

/-- The text before and after the first occurrence of `mark`. -/
def cut? (mark : List Char) : List Char → Option (List Char × List Char)
  | [] => if mark.isEmpty then some ([], []) else none
  | c :: cs =>
    match mark.isPrefixOf? (c :: cs) with
    | some rest => some ([], rest)
    | none => (cut? mark cs).map fun (a, b) => (c :: a, b)

/-- The pieces between the characters that satisfy `p`; there is always at least one. -/
def splitAt (p : Char → Bool) : List Char → List (List Char)
  | [] => [[]]
  | c :: cs =>
    if p c then [] :: splitAt p cs
    else
      match splitAt p cs with
      | [] => [[c]]
      | piece :: pieces => (c :: piece) :: pieces

/-- The lines of a text: the pieces between its newlines. -/
def lines (cs : List Char) : List (List Char) := splitAt (· == '\n') cs

/-- The last piece between the characters that satisfy `p`. -/
def lastPiece (p : Char → Bool) (cs : List Char) : List Char :=
  (cs.reverse.takeWhile fun c => !p c).reverse

/-- Pieces put together with a separator between them. -/
def joinWith (separator : List Char) : List (List Char) → List Char
  | [] => []
  | [piece] => piece
  | piece :: pieces => piece ++ separator ++ joinWith separator pieces

theorem length_of_isPrefixOf? {mark cs rest : List Char} (h : mark.isPrefixOf? cs = some rest) :
    cs.length = mark.length + rest.length := by
  induction mark generalizing cs with
  | nil =>
    have e : some cs = some rest := h
    cases e
    exact (Nat.zero_add _).symm
  | cons m ms ih =>
    cases cs with
    | nil =>
      have e : none = some rest := h
      cases e
    | cons c cs =>
      have e : (if m == c then ms.isPrefixOf? cs else none) = some rest := h
      split at e
      · have := ih e
        simp only [List.length_cons]
        omega
      · cases e

theorem length_of_cut? {mark cs a b : List Char} (h : cut? mark cs = some (a, b)) :
    a.length + mark.length + b.length = cs.length := by
  fun_induction cut? mark cs generalizing a b with
  | case1 hm => simp_all
  | case2 => simp at h
  | case3 c cs rest hr =>
    obtain ⟨rfl, rfl⟩ : [] = a ∧ rest = b := by simpa using h
    have := length_of_isPrefixOf? hr
    simp only [List.length_cons, List.length_nil] at *
    omega
  | case4 c cs hr ih =>
    obtain ⟨⟨x, y⟩, hxy, he⟩ := Option.map_eq_some_iff.1 h
    obtain ⟨rfl, rfl⟩ : c :: x = a ∧ y = b := by simpa using he
    have := ih hxy
    simp only [List.length_cons]
    omega

end Cadastre.Text
