import Cadastre.Text.Position
import Cadastre.Yaml.Chars
import Cadastre.Yaml.Fault

/-!
# Places in a text

A cursor is the rest of a text together with the place where it begins: how many bytes and lines
stand before it, and how many characters before it on its line.
-/

namespace Cadastre.Yaml

open Text (Mark)

/-- A place in a text. -/
structure Cursor where
  /-- The text from this place on. -/
  rest : List Char
  /-- The number of bytes before this place. -/
  index : Nat
  /-- The number of line breaks before this place. -/
  line : Nat
  /-- The number of characters before this place on its line. -/
  column : Nat

/-- A line break as it counts in a scalar: the separators of lines and paragraphs stand for
themselves, every other break for a newline. -/
def breakText : List Char → List Char
  | [] => []
  | c :: _ =>
    if c == '\u2028' || c == '\u2029' then [c] else if isBreak c then ['\n'] else []

/-- Whether a text begins with the border of a document. -/
def startsBorder (cs : List Char) : Bool :=
  match cs with
  | '-' :: '-' :: '-' :: rest => atGapOrEnd rest
  | '.' :: '.' :: '.' :: rest => atGapOrEnd rest
  | _ => false

namespace Cursor

/-- The start of a text. -/
def start (cs : List Char) : Cursor := ⟨cs, 0, 0, 0⟩

/-- The mark of the place. -/
def mark (c : Cursor) : Mark := ⟨c.line, c.column⟩

/-- The place some characters further on the same line. -/
def skip (n : Nat) (c : Cursor) : Cursor :=
  ⟨c.rest.drop n, c.index + Text.byteCount (c.rest.take n), c.line, c.column + n⟩

/-- The place after a line break; a carriage return and a newline are one break. -/
def nextLine (c : Cursor) : Cursor :=
  match c.rest with
  | '\r' :: '\n' :: rest => ⟨rest, c.index + 2, c.line + 1, 0⟩
  | b :: rest => if isBreak b then ⟨rest, c.index + b.utf8Size, c.line + 1, 0⟩ else c
  | [] => c

/-- The characters that satisfy `p`, and the place after them. -/
def span (p : Char → Bool) (c : Cursor) : List Char × Cursor :=
  let taken := c.rest.takeWhile p
  (taken, c.skip taken.length)

/-- The place after the characters that satisfy `p`. -/
def skipWhile (p : Char → Bool) (c : Cursor) : Cursor := (c.span p).2

/-- The place after the rest of a line. -/
def skipToBreak (c : Cursor) : Cursor := c.skipWhile fun ch => !isBreak ch

/-- Whether the text goes on with a character. -/
def at? (ch : Char) (c : Cursor) : Bool := c.rest.head? == some ch

/-- A problem at this place, met while something was being read. -/
def fail {α : Type} (context : Context) (problem : String) (c : Cursor) : Except Fault α :=
  .error { problem, mark := c.mark, context := some context }

/-- The place after spaces, tabs and a comment, if nothing else stands before the end of the line,
and then after the break. -/
def endOfLine (context : Context) (c : Cursor) : Except Fault Cursor :=
  let c := c.skipWhile isGap
  let c := if c.at? '#' then c.skipToBreak else c
  if atBreakOrEnd c.rest then .ok c.nextLine
  else c.fail context "did not find expected comment or line break"

/-- The place after blanks, breaks and comments, where the next token begins, and whether a key may
begin there. A mark of byte order may start a line. Tabs count as blanks where no key may begin, and
between brackets. The number bounds the steps. -/
def toToken (flow : Bool) : Nat → Bool → Cursor → Bool × Cursor
  | 0, keyAllowed, c => (keyAllowed, c)
  | fuel + 1, keyAllowed, c =>
    let c := if c.column == 0 && c.at? '\ufeff' then c.skip 1 else c
    let c := c.skipWhile fun ch => ch == ' ' || ((flow || !keyAllowed) && ch == '\t')
    let c := if c.at? '#' then c.skipToBreak else c
    match c.rest with
    | b :: _ =>
      if isBreak b then toToken flow fuel (keyAllowed || !flow) c.nextLine else (keyAllowed, c)
    | [] => (keyAllowed, c)

end Cursor

end Cadastre.Yaml
