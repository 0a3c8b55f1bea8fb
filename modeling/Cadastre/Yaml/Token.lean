import Cadastre.Text.Position

/-!
# Tokens

The tokens of a YAML text. Beside the marks, names and scalars that are written in it there are
tokens for what indentation tells: where a block collection begins and ends. In a text, every token
stands somewhere.
-/

namespace Cadastre.Yaml

open Text (Mark)

/-- How a scalar is written. -/
inductive Style where
  | plain
  | single
  | double
  | literal
  | folded
deriving DecidableEq, Repr

/-- A tag. It can be written by bytes that make no characters; then no name can be read off it. -/
structure Tag where
  /-- The text, with a replacement character for each group of bytes that makes none. -/
  text : String
  /-- Whether all bytes make characters. -/
  legible : Bool := true
deriving DecidableEq, Repr

namespace Tag

/-- Two pieces of a tag together. -/
def append (a b : Tag) : Tag := ⟨a.text ++ b.text, a.legible && b.legible⟩

/-- Whether the tag begins with an exclamation mark, as those of a document's own do. -/
def isLocal (t : Tag) : Bool := t.text.toList.head? == some '!'

/-- The name behind the exclamation mark; the mark alone is its own name. -/
def name? (t : Tag) : Option String :=
  if !t.legible then none
  else
    match t.text.toList with
    | ['!'] => some "!"
    | '!' :: name => some (String.ofList name)
    | _ => none

end Tag

/-- A token. -/
inductive Token where
  | streamEnd
  | version (major minor : Nat)
  | tagHandle (handle : String) (replacement : Tag)
  | documentStart
  | documentEnd
  | blockSequenceStart
  | blockMappingStart
  | blockEnd
  | flowSequenceStart
  | flowSequenceEnd
  | flowMappingStart
  | flowMappingEnd
  | blockEntry
  | flowEntry
  | key
  | value
  | alias (name : String)
  | anchor (name : String)
  | tag (handle : String) (suffix : Tag)
  | scalar (style : Style) (text : String)
deriving DecidableEq, Repr

/-- A token in its text. -/
structure Lexeme where
  /-- The token. -/
  token : Token
  /-- Where it begins. -/
  mark : Mark
deriving DecidableEq, Repr

end Cadastre.Yaml
