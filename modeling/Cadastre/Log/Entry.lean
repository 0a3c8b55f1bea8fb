import Cadastre.Text.Quoted

/-!
# Log entries

What a program says about its own work: a message of some level, from some part of the program, with
named values.
-/

namespace Cadastre.Log

/-- How much an entry matters. -/
inductive Level where
  | error
  | warn
  | info
  | debug
  | trace
deriving DecidableEq, Repr

namespace Level

/-- The name of a level, in capitals. -/
def name : Level → String
  | error => "ERROR"
  | warn => "WARN"
  | info => "INFO"
  | debug => "DEBUG"
  | trace => "TRACE"

/-- How talkative a level is: the larger the number, the less an entry matters. -/
def rank : Level → Nat
  | error => 1
  | warn => 2
  | info => 3
  | debug => 4
  | trace => 5

end Level

/-- An entry of the log. -/
structure Entry where
  /-- The level. -/
  level : Level
  /-- The part of the program that speaks, with colons between the parts of its name. -/
  target : String
  /-- The message. -/
  message : String
  /-- Named values, as they are shown. -/
  fields : List (String × String) := []
deriving DecidableEq, Repr

/-- A control character as it is shown in a message. -/
def shownChar (c : Char) : List Char :=
  let n := c.toNat
  if n == 0x1b || n == 0x07 || n == 0x08 || n == 0x0c || n == 0x7f then
    ['\\', 'x'] ++ Text.hexPadded 2 n
  else if 0x80 ≤ n && n ≤ 0x9f then ['\\', 'u', '\x7b'] ++ Text.hexDigits n ++ ['\x7d']
  else [c]

/-- An entry in one line. -/
def Entry.line (e : Entry) : String :=
  " ".intercalate <|
    e.level.name :: String.ofList (e.message.toList.flatMap shownChar) ::
      e.fields.map fun (name, value) => name ++ "=" ++ value

end Cadastre.Log
