import Cadastre.Text.Position

/-!
# What is wrong with a text

A text that is no YAML is refused because of its first fault: a problem at a mark, and perhaps what
was being read, with the mark where that began.
-/

namespace Cadastre.Yaml

open Text (Mark)

/-- What was being read, and where it began. -/
structure Context where
  /-- What was being read. -/
  text : String
  /-- Where it began. -/
  mark : Mark
deriving DecidableEq, Repr

/-- A fault of a text. -/
structure Fault where
  /-- The problem. -/
  problem : String
  /-- Where it is. -/
  mark : Mark := {}
  /-- What was being read. -/
  context : Option Context := none
deriving DecidableEq, Repr

namespace Fault

/-- What was being read, in words; its mark is named if it is not that of the problem. -/
def contextText (f : Fault) : String :=
  match f.context with
  | none => ""
  | some c => ", " ++ c.text ++ if c.mark == f.mark then "" else c.mark.suffix

/-- The fault in words. -/
def text (f : Fault) : String := f.problem ++ f.mark.suffix ++ f.contextText

end Fault

end Cadastre.Yaml
