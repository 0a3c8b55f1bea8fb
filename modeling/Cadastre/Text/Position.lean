/-!
# Places in a text

A place in a text is given by its line and column, or by the number of bytes before it, each
character taking as many bytes as its UTF-8 form has. Not every number of bytes is a place: one that
falls inside a character is none.
-/

namespace Cadastre.Text

/-! ## Lines and columns

Both are counted from zero, and from one where they are named; the start of the text is not named. -/

/-- A place in a text. -/
structure Mark where
  /-- The number of lines before the place. -/
  line : Nat := 0
  /-- The number of characters before the place on its line. -/
  column : Nat := 0
deriving DecidableEq, Repr

namespace Mark

/-- The place of the next character on the same line. -/
def next (m : Mark) : Mark := { m with column := m.column + 1 }

/-- What is put after a message to say where. -/
def suffix (m : Mark) : String :=
  if m == {} then "" else s!" at line {m.line + 1} column {m.column + 1}"

end Mark

/-! ## Bytes -/

/-- The number of bytes of some characters. -/
def byteCount (cs : List Char) : Nat := cs.foldl (fun n c => n + c.utf8Size) 0

/-- The characters after the first `n` bytes. -/
def dropBytes? (n : Nat) : List Char → Option (List Char)
  | [] => if n == 0 then some [] else none
  | c :: cs =>
    if n == 0 then some (c :: cs)
    else if n < c.utf8Size then none
    else dropBytes? (n - c.utf8Size) cs

/-- The characters of the first `n` bytes. -/
def takeBytes? (n : Nat) : List Char → Option (List Char)
  | [] => if n == 0 then some [] else none
  | c :: cs =>
    if n == 0 then some []
    else if n < c.utf8Size then none
    else (takeBytes? (n - c.utf8Size) cs).map (c :: ·)

/-- The characters between two places. -/
def slice? (first last : Nat) (cs : List Char) : Option (List Char) :=
  (dropBytes? first cs).bind (takeBytes? (last - first))

end Cadastre.Text
