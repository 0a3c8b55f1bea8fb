import Cadastre.Text.LetterTable
import Cadastre.Text.WordTable

/-!
# Words and digits

Which characters belong to a word, and which are decimal digits, letters or numerals, over all of
Unicode. Identifiers of a schema and the bounds of its keywords are made of word characters; a
status code is a run of decimal digits, of which only the ASCII ones have a value here; a variable
is named by letters and numerals where it is used.
-/

namespace Cadastre.Text

/-! ## Kinds of characters -/

/-- Whether a character belongs to a word: a letter, a mark, a decimal digit, a connector such as
the underscore, or a joiner. -/
def isWord (c : Char) : Bool :=
  if c.toNat < 0x80 then c.isAlphanum || c == '_' else inRanges wordRanges c.toNat

/-- Whether a character is a decimal digit of some script. -/
def isDigit (c : Char) : Bool :=
  if c.toNat < 0x80 then c.isDigit else inRanges digitRanges c.toNat

/-- Whether a character is a letter of some script. -/
def isAlphabetic (c : Char) : Bool :=
  if c.toNat < 0x80 then c.isAlpha else inRanges letterRanges c.toNat

/-- Whether a character is a letter or a numeral of some script. -/
def isAlphanumeric (c : Char) : Bool :=
  if c.toNat < 0x80 then c.isAlphanum
  else inRanges letterRanges c.toNat || inRanges numeralRanges c.toNat

/-- Whether a text starts inside a word. -/
def startsWord : List Char → Bool
  | [] => false
  | c :: _ => isWord c

/-- Whether a character may start a name in router sources. -/
def isNameStart (c : Char) : Bool := c.isAlpha || c == '_'

/-- Whether a character may stand in a name in router sources. -/
def isNameChar (c : Char) : Bool := c.isAlphanum || c == '_'

/-! ## Values of digits

The value of a run of ASCII digits, the most significant one first, and of a text that is such a run
and no larger than a machine word; and the value of a hexadecimal digit. -/

/-- The value of a run of ASCII digits. -/
def digitsValue (ds : List Char) : Nat := ds.foldl (fun n d => 10 * n + (d.toNat - 48)) 0

/-- The number in a text of decimal digits, with a plus sign before them or not, if it needs at most
64 bits. -/
def natural64? (cs : List Char) : Option Nat :=
  let digits :=
    match cs with
    | '+' :: ds => ds
    | ds => ds
  if digits.isEmpty || !digits.all Char.isDigit then none
  else
    let n := digitsValue digits
    if n < Nat.pow 2 64 then some n else none

/-- The value of a hexadecimal digit. -/
def hexDigit? (c : Char) : Option Nat :=
  if c.isDigit then some (c.toNat - 48)
  else if 'a' ≤ c && c ≤ 'f' then some (c.toNat - 87)
  else if 'A' ≤ c && c ≤ 'F' then some (c.toNat - 55)
  else none

end Cadastre.Text
