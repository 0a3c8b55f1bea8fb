import Cadastre.Number.DoubleText
import Cadastre.Text.Position
import Cadastre.Text.Quoted

/-!
# Why a saved value is refused

A saved value is refused because its text is not well formed, or because its shape is not the one
asked for. A shape error says what was found and what was expected, and in a format that knows it,
where.
-/

namespace Cadastre

/-- What was found in place of something else. -/
inductive Found where
  | bool (b : Bool)
  | integer (n : Int)
  /-- A whole number that needs more than 64 bits, and the name of its width. -/
  | wide (n : Int) (width : String)
  | real (text : String)
  | string (s : String)
  /-- The value that stands for nothing, by the name that its format gives it. -/
  | nothing (name : String)
  | sequence
  | map
  | choice

/-- What was found, in words. -/
def Found.text : Found → String
  | bool b => s!"boolean \x60{b}\x60"
  | integer n => s!"integer \x60{n}\x60"
  | wide n width => s!"integer \x60{n}\x60 as {width}"
  | real text => s!"floating point \x60{text}\x60"
  | string s => "string " ++ Text.quoted s
  | nothing name => name
  | sequence => "sequence"
  | map => "map"
  | choice => "enum"

/-- A wrong shape. -/
inductive Mismatch where
  | missingField (name : String)
  | unknownField (name : String) (expected : List String)
  | duplicateField (name : String)
  | unknownVariant (name : String) (expected : List String)
  | invalidType (found : Found) (expected : String)
  | invalidValue (found : Found) (expected : String)
  | invalidLength (length : Nat) (expected : String)

namespace Mismatch

/-- A name between grave accents. -/
def accented (name : String) : String := "\x60" ++ name ++ "\x60"

/-- The names that could have stood in a place. -/
def oneOf : List String → String
  | [] => "nothing"
  | [a] => accented a
  | [a, b] => s!"{accented a} or {accented b}"
  | names => "one of " ++ ", ".intercalate (names.map accented)

/-- A wrong shape in words. -/
def text : Mismatch → String
  | missingField name => s!"missing field {accented name}"
  | unknownField name expected => s!"unknown field {accented name}, expected {oneOf expected}"
  | duplicateField name => s!"duplicate field {accented name}"
  | unknownVariant name expected => s!"unknown variant {accented name}, expected {oneOf expected}"
  | invalidType found expected => s!"invalid type: {found.text}, expected {expected}"
  | invalidValue found expected => s!"invalid value: {found.text}, expected {expected}"
  | invalidLength length expected => s!"invalid length {length}, expected {expected}"

end Mismatch

/-- A place in a saved text. -/
structure Location where
  /-- The way to it from the root of the document, which is a point. -/
  path : String
  /-- Where it stands in the text. -/
  mark : Text.Mark

/-- Why a saved value is refused. -/
inductive Failure where
  /-- The text is not well formed, or a part of it does not say what it should. -/
  | malformed (problem : String)
  /-- The shape is wrong, at a place if the format knows it. -/
  | shape (place : Option Location) (mismatch : Mismatch)

namespace Failure

/-- A wrong shape at a place that is not yet known. -/
def ofMismatch (m : Mismatch) : Failure := .shape none m

/-- The failure with a place, unless it has one. -/
def locate (place : Location) : Failure → Failure
  | shape none m => .shape (some place) m
  | f => f

/-- The failure in words; neither the root of a document nor the start of a text is named. -/
def text : Failure → String
  | malformed problem => problem
  | shape none m => m.text
  | shape (some ⟨path, mark⟩) m =>
    (if path == "." then "" else path ++ ": ") ++ m.text ++ mark.suffix

end Failure

/-- A value, or why it is refused. -/
abbrev Decoded (α : Type) := Except Failure α

/-- A refusal because of a wrong shape. -/
def refuse {α : Type} (m : Mismatch) : Decoded α := .error (.ofMismatch m)

end Cadastre
