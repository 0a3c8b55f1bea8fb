/-!
# Texts in files

The bytes of a file need not be a text. What can be read of it line by line is still there: the
lines before the first one that is no text.
-/

namespace Cadastre

/-- The text of a file, as far as it goes. -/
structure StoredText where
  /-- The text up to the first line that is none. -/
  start : String
  /-- Whether that is all there is. -/
  whole : Bool := true
deriving DecidableEq, Repr

namespace StoredText

/-- The byte that ends a line. -/
def newline : UInt8 := 10

/-- Bytes cut after every newline. -/
def byteLines : List UInt8 → List (List UInt8)
  | [] => []
  | b :: bs =>
    if b == newline then [b] :: byteLines bs
    else
      match byteLines bs with
      | [] => [[b]]
      | line :: lines => (b :: line) :: lines

/-- The text of lines of bytes. -/
def ofLines : List (List UInt8) → StoredText
  | [] => ⟨"", true⟩
  | line :: lines =>
    match String.fromUTF8? ⟨line.toArray⟩ with
    | none => ⟨"", false⟩
    | some text =>
      let rest := ofLines lines
      { rest with start := text ++ rest.start }

/-- The text of bytes. No character but the newline has the byte of the newline in it, so that bytes
which are a text are one line by line. -/
def ofBytes (bytes : ByteArray) : StoredText :=
  match String.fromUTF8? bytes with
  | some text => ⟨text, true⟩
  | none => ofLines (byteLines bytes.toList)

/-- The text, if it is all there is. -/
def text? (t : StoredText) : Option String := if t.whole then some t.start else none

end StoredText

end Cadastre
