import Cadastre.Text.Blank

/-!
# Lines of an environment file

A line of an environment file ends at a newline that is not between quotes, so that a quoted value
may run over several lines. A hash after a blank character begins a comment, and a line whose first
character is a hash is one. A file that ends between quotes, after a backslash or after a blank
character has no last line.
-/

namespace Cadastre.Environment

/-- Where the reader of lines is. -/
inductive LineState where
  /-- Where a line may end. -/
  | complete
  /-- After a blank character, where a comment may begin. -/
  | blank
  /-- After a backslash. -/
  | escape
  /-- Between single quotes. -/
  | single
  /-- After a backslash between single quotes. -/
  | singleEscape
  /-- Between double quotes. -/
  | double
  /-- After a backslash between double quotes. -/
  | doubleEscape
deriving DecidableEq, Repr

/-- The state that a character opens outside of quotes. -/
def LineState.opened (c : Char) : LineState :=
  if c == '\\' then escape else if c == '"' then double else if c == '\'' then single else complete

/-- The state after a character. -/
def LineState.next (s : LineState) (c : Char) : LineState :=
  match s with
  | complete =>
    if Text.isBlank c && c != '\n' && c != '\r' then blank else opened c
  | blank => opened c
  | escape => complete
  | single => if c == '\\' then singleEscape else if c == '\'' then complete else single
  | singleEscape => single
  | double => if c == '\\' then doubleEscape else if c == '"' then complete else double
  | doubleEscape => double

/-- What stands before a comment, and the state at the end unless there is a comment. -/
def beforeComment : LineState → List Char → List Char × Option LineState
  | s, [] => ([], some s)
  | .blank, '#' :: _ => ([], none)
  | s, c :: cs =>
    let (kept, s) := beforeComment (s.next c) cs
    (c :: kept, s)

/-- The pieces of a text that end in newlines, and what follows the last newline, if anything. -/
def newlinePieces : List Char → List (List Char)
  | [] => []
  | '\n' :: cs => ['\n'] :: newlinePieces cs
  | c :: cs =>
    match newlinePieces cs with
    | [] => [[c]]
    | piece :: pieces => if piece.isEmpty then [c] :: pieces else (c :: piece) :: pieces

/-- A line without its newline, and the carriage return before it. -/
def withoutNewline (cs : List Char) : List Char :=
  match cs.reverse with
  | '\n' :: '\r' :: rest => rest.reverse
  | '\n' :: rest => rest.reverse
  | _ => cs

/-- Whether the first character that is not blank is a hash. -/
def startsWithHash (cs : List Char) : Bool := (Text.trimStart cs).head? == some '#'

/-- The lines of pieces, after what has been read of a line; nothing for a line that does not
end. -/
def linesFrom (read : List Char) (s : LineState) : List (List Char) → List (Option (List Char))
  | [] => if s == .complete then [] else [none]
  | piece :: pieces =>
    let whole := read ++ piece
    if startsWithHash whole then some [] :: linesFrom [] .complete pieces
    else
      match beforeComment s piece with
      | (kept, none) => some (read ++ kept) :: linesFrom [] .complete pieces
      | (_, some .complete) => some (withoutNewline whole) :: linesFrom [] .complete pieces
      | (_, some s) => linesFrom whole s pieces

/-- The lines of a file without their comments; nothing for a line that does not end. -/
def lines (cs : List Char) : List (Option (List Char)) := linesFrom [] .complete (newlinePieces cs)

end Cadastre.Environment
