import Cadastre.Json.Basic
import Cadastre.Number.DoubleText
import Cadastre.Text.Quoted

/-!
# Writing JSON

Two layouts: one line without spaces, and one item or member a line with two spaces of indentation
for each level. Strings escape quotes, backslashes and the controls below the space; every other
character stands for itself.
-/

namespace Cadastre.Json

/-- How one character is written in a string. -/
def escapedChar (c : Char) : List Char :=
  if c == '"' then ['\\', '"']
  else if c == '\\' then ['\\', '\\']
  else if c == '\x08' then ['\\', 'b']
  else if c == '\x0c' then ['\\', 'f']
  else if c == '\n' then ['\\', 'n']
  else if c == '\r' then ['\\', 'r']
  else if c == '\t' then ['\\', 't']
  else if c.toNat < 0x20 then ['\\', 'u'] ++ Text.hexPadded 4 c.toNat
  else [c]

/-- A string between quotes. -/
def stringText (s : String) : List Char := '"' :: s.toList.flatMap escapedChar ++ ['"']

/-- The digits of a whole number. -/
def wholeText (n : Int) : List Char :=
  if n < 0 then '-' :: Nat.toDigits 10 n.natAbs else Nat.toDigits 10 n.natAbs

/-- A number. -/
def numberText : Number → List Char
  | .whole n => wholeText n
  | .real x => (x.text NumberStyle.json).toList

/-- A truth value. -/
def boolText (b : Bool) : List Char := if b then ['t', 'r', 'u', 'e'] else ['f', 'a', 'l', 's', 'e']

/-- A line break and the indentation of a level. -/
def newLine (level : Nat) : List Char := '\n' :: List.replicate (2 * level) ' '

mutual

/-- A value with one item or member a line, at a level of indentation. -/
def prettyAt (level : Nat) : Json → List Char
  | .null => ['n', 'u', 'l', 'l']
  | .bool b => boolText b
  | .number n => numberText n
  | .text s => stringText s
  | .array [] => ['[', ']']
  | .array (x :: xs) =>
    '[' :: newLine (level + 1) ++ prettyAt (level + 1) x ++ prettyItems (level + 1) xs ++
      newLine level ++ [']']
  | .object [] => ['\x7b', '\x7d']
  | .object ((k, x) :: ms) =>
    '\x7b' :: newLine (level + 1) ++ stringText k ++ ':' :: ' ' :: prettyAt (level + 1) x ++
      prettyMembers (level + 1) ms ++ newLine level ++ ['\x7d']

/-- The items after the first one. -/
def prettyItems (level : Nat) : List Json → List Char
  | [] => []
  | x :: xs => ',' :: newLine level ++ prettyAt level x ++ prettyItems level xs

/-- The members after the first one. -/
def prettyMembers (level : Nat) : List (String × Json) → List Char
  | [] => []
  | (k, x) :: ms =>
    ',' :: newLine level ++ stringText k ++ ':' :: ' ' :: prettyAt level x ++
      prettyMembers level ms

end

/-- A value with one item or member a line. -/
def pretty (v : Json) : String := String.ofList (prettyAt 0 v)

mutual

/-- The characters of a value on one line, put before `after`. -/
def compactBefore (after : List Char) : Json → List Char
  | .null => 'n' :: 'u' :: 'l' :: 'l' :: after
  | .bool b => boolText b ++ after
  | .number n => numberText n ++ after
  | .text s => stringText s ++ after
  | .array xs => '[' :: compactItems (']' :: after) true xs
  | .object ms => '\x7b' :: compactMembers ('\x7d' :: after) true ms

/-- Items on one line, put before `after`; `first` says whether no item stands before them. -/
def compactItems (after : List Char) (first : Bool) : List Json → List Char
  | [] => after
  | x :: xs =>
    let item := compactBefore (compactItems after false xs) x
    if first then item else ',' :: item

/-- Members on one line, put before `after`; `first` says whether no member stands before them. -/
def compactMembers (after : List Char) (first : Bool) : List (String × Json) → List Char
  | [] => after
  | (k, x) :: ms =>
    let item := stringText k ++ ':' :: compactBefore (compactMembers after false ms) x
    if first then item else ',' :: item

end

/-- A value on one line. -/
def compact (v : Json) : String := String.ofList (compactBefore [] v)

end Cadastre.Json
