import Cadastre.Text.CaseTable
import Cadastre.Text.WordTable

/-!
# Letter case

The full lower case of a text, the capitals of its ASCII letters, and words that are compared
without regard to case.
-/

namespace Cadastre.Text

/-! ## Lower case

Every character has a lower case of its own, with one exception: the capital sigma becomes the final
form at the end of a word, that is when a letter stands before it and none after it, marks and other
case-ignorable characters left aside. -/

/-- The lower case of a character whatever stands around it. -/
def lowerChar (c : Char) : List Char :=
  let n := c.toNat
  if n < 0x80 then [c.toLower]
  else if c == 'İ' then ['i', '\u0307']
  else
    match lowerRows.find? fun (first, last, step, _) =>
        first ≤ n && n ≤ last && (n - first) % step == 0 with
    | some (first, _, _, image) => [Char.ofNat (image + (n - first))]
    | none => [c]

/-- Whether a character is a cased letter. -/
def isCased (c : Char) : Bool := inRanges casedRanges c.toNat

/-- Whether a character is looked through when the letters around a sigma are asked for. -/
def isCaseIgnorable (c : Char) : Bool := inRanges caseIgnorableRanges c.toNat

/-- Whether the first character that is not looked through is a cased letter. -/
def meetsLetter (cs : List Char) : Bool :=
  match cs.dropWhile isCaseIgnorable with
  | [] => false
  | c :: _ => isCased c

/-- The lower case of a text that follows the characters `before`, the nearest one first. -/
def lowerAfter (before : List Char) : List Char → List Char
  | [] => []
  | c :: cs =>
    (if c == 'Σ' then
      if meetsLetter before && !meetsLetter cs then ['ς'] else ['σ']
    else lowerChar c) ++ lowerAfter (c :: before) cs

/-- The lower case of a text. -/
def lower (cs : List Char) : List Char := lowerAfter [] cs

/-! ## Capitals of ASCII letters

A line of a table body is compared in capitals with the words that open a constraint. Those words
are ASCII, so only capitals that begin with an ASCII letter matter: those of the small ASCII
letters, and those of the few other characters that are written with ASCII letters in capitals,
such as the sharp s and the ligatures. Every other character stands for itself. -/

/-- The capital form of a character as far as ASCII letters are concerned. -/
def capital (c : Char) : List Char :=
  match c with
  | 'ß' => ['S', 'S']
  | 'ı' => ['I']
  | 'ſ' => ['S']
  | 'ǰ' => ['J', '\u030c']
  | 'ẖ' => ['H', '\u0331']
  | 'ẗ' => ['T', '\u0308']
  | 'ẘ' => ['W', '\u030a']
  | 'ẙ' => ['Y', '\u030a']
  | 'ẚ' => ['A', '\u02be']
  | 'ﬀ' => ['F', 'F']
  | 'ﬁ' => ['F', 'I']
  | 'ﬂ' => ['F', 'L']
  | 'ﬃ' => ['F', 'F', 'I']
  | 'ﬄ' => ['F', 'F', 'L']
  | 'ﬅ' => ['S', 'T']
  | 'ﬆ' => ['S', 'T']
  | c => [c.toUpper]

/-- The capital form of a text as far as ASCII letters are concerned. -/
def capitals (cs : List Char) : List Char := cs.flatMap capital

/-! ## Words without their case

Keywords are recognised in any letter case. Two letters of other blocks share a case with an ASCII
letter and count as that letter: the long s and the kelvin sign. -/

/-- The small ASCII letter that a character stands for when case is disregarded; other characters
stand for themselves. -/
def foldLetter (c : Char) : Char :=
  if c == 'ſ' then 's' else if c == '\u212a' then 'k' else c.toLower

/-- What follows `word`, a word of small ASCII letters and other caseless characters, at the start
of a text, in any letter case. -/
def dropWord? : List Char → List Char → Option (List Char)
  | [], cs => some cs
  | _ :: _, [] => none
  | w :: ws, c :: cs => if foldLetter c == w then dropWord? ws cs else none

/-- Two strings with equal ASCII letters up to case, and the same other characters. -/
def sameAsciiWord (a b : String) : Bool := a.toList.map Char.toLower == b.toList.map Char.toLower

theorem length_le_of_dropWord? {w cs rest : List Char} (h : dropWord? w cs = some rest) :
    rest.length ≤ cs.length := by
  fun_induction dropWord? w cs with
  | case1 => cases h; exact Nat.le_refl _
  | case2 => simp at h
  | case3 _ _ _ _ _ ih => exact Nat.le_succ_of_le (ih h)
  | case4 => simp at h

end Cadastre.Text
