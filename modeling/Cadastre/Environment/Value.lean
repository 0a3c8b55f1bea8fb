import Cadastre.Text.Word

/-!
# Values in an environment file

A value may be quoted, in whole or in part. Between single quotes every character stands for itself;
elsewhere a backslash takes the meaning from the character after it, and a dollar sign stands before
the name of a variable whose value is put in its place. A name without braces ends at the first
character that is neither letter nor numeral, and that character is taken as it is, even if it is a
quote. After a blank character outside of quotes only a comment may follow.
-/

namespace Cadastre.Environment

/-- What a value is between. -/
inductive Quote where
  | none
  | single
  | double
deriving DecidableEq, Repr

/-- How far a value has been read. -/
structure Progress where
  /-- The value so far, the last character first. -/
  output : List Char := []
  /-- The quotes that are open. -/
  quote : Quote := .none
  /-- Whether the next character comes after a backslash. -/
  escaped : Bool := false
  /-- Whether the value has ended. -/
  ended : Bool := false
  /-- The name of a variable so far, the last character first, and whether it is in braces. -/
  name : Option (Bool × List Char) := Option.none
deriving DecidableEq, Repr

namespace Progress

/-- A character put to the value. -/
def push (p : Progress) (c : Char) : Progress := { p with output := c :: p.output }

/-- The value of a variable put in the place of its name. -/
def substitute (value? : String → Option String) (p : Progress) (name : List Char) : Progress :=
  { p with
    output := ((value? (String.ofList name.reverse)).getD "").toList.reverse ++ p.output
    name := Option.none }

/-- A character after a backslash. -/
def escape (p : Progress) (c : Char) : Option Progress :=
  let p := { p with escaped := false }
  if c == 'n' then some (p.push '\n')
  else if ['\\', '\'', '"', '$', ' '].contains c then some (p.push c)
  else Option.none

/-- A character after the name of a variable has begun. -/
def continueName (value? : String → Option String) (p : Progress) (braces : Bool)
    (name : List Char) (c : Char) : Progress :=
  if Text.isAlphanumeric c then { p with name := some (braces, c :: name) }
  else if braces then
    if c == '\x7d' then p.substitute value? name else { p with name := some (true, c :: name) }
  else if c == '\x7b' && name.isEmpty then { p with name := some (true, []) }
  else if c == '$' then { p.substitute value? name with name := some (false, []) }
  else (p.substitute value? name).push c

/-- A character between double quotes. -/
def inDouble (p : Progress) (c : Char) : Progress :=
  if c == '"' then { p with quote := .none }
  else if c == '\\' then { p with escaped := true }
  else p.push c

/-- A character outside of quotes. -/
def unquoted (p : Progress) (c : Char) : Progress :=
  if c == '\'' then { p with quote := .single }
  else if c == '"' then { p with quote := .double }
  else if c == '\\' then { p with escaped := true }
  else if c == ' ' || c == '\t' then { p with ended := true }
  else p.push c

/-- The progress after a character that is no comment. -/
def step (value? : String → Option String) (p : Progress) (c : Char) : Option Progress :=
  if p.ended then if c == ' ' || c == '\t' then some p else Option.none
  else if p.escaped then p.escape c
  else if p.quote == .single then
    some (if c == '\'' then { p with quote := .none } else p.push c)
  else
    match p.name with
    | some (braces, name) => some (p.continueName value? braces name c)
    | Option.none =>
      if c == '$' then some { p with name := some (false, []) }
      else if p.quote == .double then some (p.inDouble c)
      else some (p.unquoted c)

/-- The value at its end, if all quotes and braces are closed. -/
def finish? (value? : String → Option String) (p : Progress) : Option (List Char) :=
  if p.quote != .none then Option.none
  else
    match p.name with
    | some (true, _) => Option.none
    | some (false, name) => some (p.substitute value? name).output.reverse
    | Option.none => some p.output.reverse

/-- The value of the characters that follow. -/
def value? (known? : String → Option String) : Progress → List Char → Option (List Char)
  | p, [] => p.finish? known?
  | p, c :: cs =>
    if p.ended && c == '#' then p.finish? known?
    else (p.step known? c).bind fun p => value? known? p cs

end Progress

/-- The value that a text stands for, with the values of variables. -/
def valueOf? (known? : String → Option String) (cs : List Char) : Option String :=
  (({} : Progress).value? known? cs).map String.ofList

end Cadastre.Environment
