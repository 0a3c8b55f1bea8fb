import Cadastre.Json.Basic
import Cadastre.Number.DoubleText
import Cadastre.Text.Search
import Cadastre.Yaml.Chars
import Cadastre.Yaml.Plain

/-!
# Writing YAML

Values in block layout: an item after a dash, a member after its key and a colon, two columns of
indentation for each level, the items of a list that is a member in the column of its key. Empty
collections stand between brackets. A string with a newline is a literal block if it can be one; a
string that would be read as something else is quoted; any other string is plain if its characters
allow it. Lines are never folded.
-/

namespace Cadastre.Yaml

/-! ## Which style a string has -/

/-- What a string's characters allow. -/
structure Analysis where
  /-- It may stand without quotes. -/
  plain : Bool
  /-- It may stand between single quotes. -/
  single : Bool
  /-- It may be a literal block. -/
  block : Bool
  /-- It has more than one line. -/
  multiline : Bool

/-- Whether some character is followed by one such that `p` holds of the two. -/
def anyPair (p : Char → Char → Bool) : List Char → Bool
  | a :: b :: cs => p a b || anyPair p (b :: cs)
  | _ => false

/-- Whether the first character of a plain scalar would be read as a mark. -/
def startsAsMark : List Char → Bool
  | [] => false
  | c :: rest =>
    c ∈ ['#', ',', '[', ']', '\x7b', '\x7d', '&', '*', '!', '|', '>', '\'', '"', '%', '@',
        '\x60'] ||
      (c ∈ ['?', ':', '-'] && atGapOrEnd rest)

/-- Whether a colon or a number sign inside a plain scalar would be read as a mark. -/
def marksInside : List Char → Bool
  | [] => false
  | [_] => false
  | a :: b :: rest =>
    (b == ':' && atGapOrEnd rest) || (b == '#' && isGapOrBreak a) || marksInside (b :: rest)

/-- Whether a text looks like the border of a document. -/
def startsAsBorder (cs : List Char) : Bool :=
  ['-', '-', '-'].isPrefixOf cs || ['.', '.', '.'].isPrefixOf cs

/-- What the characters of a string allow. -/
def analyse (cs : List Char) : Analysis :=
  let breaks := cs.any isBreak
  let special := cs.any fun c => !isPrintable c
  let breakSpace := anyPair (fun a b => isBreak a && b == ' ') cs
  let spaceBreak := anyPair (fun a b => a == ' ' && isBreak b) cs
  let endsInSpace := cs.getLast? == some ' '
  let edge := cs.head? == some ' ' || endsInSpace
  let spoiled := spaceBreak || special
  { plain := !(cs.isEmpty || spoiled || breakSpace || breaks || edge ||
      startsAsBorder cs || startsAsMark cs || marksInside cs)
    single := !(spoiled || breakSpace)
    block := !(spoiled || endsInSpace)
    multiline := breaks }

/-! ## Strings -/

/-- Line breaks are kept and the line after one is indented; the first newline of a run is doubled,
since a single one would be read as a space. `after` says whether a break stands before. -/
def singleBody (indent : Nat) (after : Bool) : List Char → List Char
  | [] => if after then List.replicate indent ' ' else []
  | c :: cs =>
    if isBreak c then
      (if !after && c == '\n' then ['\n', c] else [c]) ++ singleBody indent true cs
    else
      (if after then List.replicate indent ' ' else []) ++ (if c == '\'' then [c, c] else [c]) ++
        singleBody indent false cs

/-- A string between single quotes. -/
def singleQuoted (indent : Nat) (cs : List Char) : List Char :=
  '\'' :: singleBody indent false cs ++ ['\'']

/-- A number in capital hexadecimal digits, filled up with zeros to a width. -/
def capitalHex (width n : Nat) : List Char :=
  let ds := (Nat.toDigits 16 n).map Char.toUpper
  List.replicate (width - ds.length) '0' ++ ds

/-- How a character is written after a backslash. -/
def doubleEscape (c : Char) : List Char :=
  match c with
  | '\x00' => ['0']
  | '\x07' => ['a']
  | '\x08' => ['b']
  | '\t' => ['t']
  | '\n' => ['n']
  | '\x0b' => ['v']
  | '\x0c' => ['f']
  | '\r' => ['r']
  | '\x1b' => ['e']
  | '"' => ['"']
  | '\\' => ['\\']
  | '\u0085' => ['N']
  | '\u2028' => ['L']
  | '\u2029' => ['P']
  | c =>
    if c.toNat ≤ 0xff then 'x' :: capitalHex 2 c.toNat
    else if c.toNat ≤ 0xffff then 'u' :: capitalHex 4 c.toNat
    else 'U' :: capitalHex 8 c.toNat

/-- How a character is written between double quotes. -/
def doubleChar (c : Char) : List Char :=
  if !isPrintable c || isBreak c || c == '"' || c == '\\' then '\\' :: doubleEscape c else [c]

/-- A string between double quotes. -/
def doubleQuoted (cs : List Char) : List Char := '"' :: cs.flatMap doubleChar ++ ['"']

/-- The mark of what becomes of the breaks at the end of a literal block. -/
def chompMark (cs : List Char) : List Char :=
  match cs.reverse with
  | [] => ['-']
  | c :: before =>
    if !isBreak c then ['-']
    else
      match before with
      | [] => ['+']
      | d :: _ => if isBreak d then ['+'] else []

/-- The lines of a literal block; `after` says whether a break stands before. -/
def literalBody (indent : Nat) (after : Bool) : List Char → List Char
  | [] => []
  | c :: cs =>
    if isBreak c then c :: literalBody indent true cs
    else
      (if after then List.replicate indent ' ' else []) ++ c :: literalBody indent false cs

/-- A string as a literal block, which begins behind the mark. -/
def literal (indent : Nat) (cs : List Char) : List Char :=
  let hint :=
    match cs with
    | c :: _ => if c == ' ' || isBreak c then ['2'] else []
    | [] => []
  '|' :: hint ++ chompMark cs ++ '\n' :: literalBody indent true cs

/-- Whether a string would be read as something else if it stood without quotes. -/
def needsQuotes (s : String) : Bool :=
  Plain.ofString s != .text || Plain.isZeroPadded s.toList

/-- A string; `indent` is the column of its further lines. -/
def stringText (indent : Nat) (s : String) : List Char :=
  let cs := s.toList
  let a := analyse cs
  if cs.any (· == '\n') then
    if a.block then literal indent cs else doubleQuoted cs
  else if a.plain && !needsQuotes s then cs
  else if a.single then singleQuoted indent cs
  else doubleQuoted cs

/-! ## Values -/

/-- The text of a number. -/
def numberText : Number → List Char
  | .whole n => if n < 0 then '-' :: Nat.toDigits 10 n.natAbs else Nat.toDigits 10 n.natAbs
  | .real x => (x.text NumberStyle.yaml).toList

/-- A text followed by a newline, unless it ends with a line break of its own. -/
def endLine (cs : List Char) : List Char :=
  match cs.getLast? with
  | some c => if isBreak c then cs else cs ++ ['\n']
  | none => ['\n']

/-- Whether a key stands on a line of its own: it has more than one line, or more than 128 bytes. -/
def isLongKey (key : String) : Bool := key.utf8ByteSize > 128 || key.toList.any isBreak

/-- The padding of a column. -/
def padding (n : Nat) : List Char := List.replicate n ' '

/-- A key in column `indent` with the colon before its value. -/
def keyText (indent : Nat) (key : String) : List Char :=
  if isLongKey key then
    '?' :: endLine (' ' :: stringText (indent + 2) key) ++ padding indent ++ [':']
  else stringText (indent + 2) key ++ [':']

mutual

/-- A value in column `indent` after its mark. `opens` says whether the mark is the first on its
line, as a dash is; then a collection goes on behind it, and otherwise it begins a new line. -/
def valueText (indent : Nat) (opens : Bool) : Json → List Char
  | .null => [' ', 'n', 'u', 'l', 'l', '\n']
  | .bool b => ' ' :: (if b then "true" else "false").toList ++ ['\n']
  | .number n => ' ' :: numberText n ++ ['\n']
  | .text s => endLine (' ' :: stringText (indent + 2) s)
  | .array [] => [' ', '[', ']', '\n']
  | .array (x :: xs) =>
    let column := if opens then indent + 2 else indent
    (if opens then [' '] else '\n' :: padding column) ++ '-' :: valueText column true x ++
      itemLines column xs
  | .object [] => [' ', '\x7b', '\x7d', '\n']
  | .object ((k, x) :: ms) =>
    (if opens then [' '] else '\n' :: padding (indent + 2)) ++ keyText (indent + 2) k ++
      valueText (indent + 2) (isLongKey k) x ++ memberLines (indent + 2) ms

/-- Items, each on a line of its own. -/
def itemLines (indent : Nat) : List Json → List Char
  | [] => []
  | x :: xs => padding indent ++ '-' :: valueText indent true x ++ itemLines indent xs

/-- Members, each on a line of its own. -/
def memberLines (indent : Nat) : List (String × Json) → List Char
  | [] => []
  | (k, x) :: ms =>
    padding indent ++ keyText indent k ++ valueText indent (isLongKey k) x ++
      memberLines indent ms

end

/-- A value as a document. -/
def write : Json → String
  | .array (x :: xs) => String.ofList (itemLines 0 (x :: xs))
  | .object (m :: ms) => String.ofList (memberLines 0 (m :: ms))
  | v => String.ofList ((valueText 0 true v).drop 1)

end Cadastre.Yaml
