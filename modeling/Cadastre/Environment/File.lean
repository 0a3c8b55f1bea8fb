import Cadastre.Environment.Line
import Cadastre.Environment.Value
import Cadastre.Path
import Cadastre.Plan

/-!
# Environment files

A file sets variables of the environment that are not set yet, line by line. The file is looked for
in the working directory and then in the directories around it. A line that is not well formed, or
is no text, ends the reading; what was set before stays set.
-/

namespace Cadastre

/-- Variables and their values. -/
abbrev Variables := List (String × String)

namespace Environment

/-- What a line says. -/
inductive LineContent where
  /-- Nothing. -/
  | nothing
  /-- The value of a variable. -/
  | setting (name value : String)
deriving DecidableEq, Repr

/-- Whether a character may start the name of a variable. -/
def startsName (c : Char) : Bool := c.isAlpha || c == '_'

/-- Whether a character may stand in the name of a variable. -/
def continuesName (c : Char) : Bool := c.isAlphanum || c == '_' || c == '.'

/-- A name at the start of a text, and what follows it and blank characters. -/
def name? : List Char → Option (List Char × List Char)
  | [] => none
  | c :: cs =>
    if startsName c then
      some ((c :: cs).takeWhile continuesName,
        Text.trimStart ((c :: cs).dropWhile continuesName))
    else none

/-- What follows an equals sign. -/
def afterEquals? : List Char → Option (List Char)
  | '=' :: cs => some cs
  | _ => none

/-- The name that a line sets, and what follows the equals sign; the word `export` may stand before
the name. -/
def assignment? (cs : List Char) : Option (List Char × List Char) := do
  let (name, rest) ← name? cs
  match afterEquals? rest with
  | some value => some (name, value)
  | none =>
    if name == "export".toList then
      let (name, rest) ← name? rest
      let value ← afterEquals? rest
      some (name, value)
    else none

/-- Whether nothing follows but a comment. -/
def isNothing (cs : List Char) : Bool := cs.isEmpty || cs.head? == some '#'

/-- What a line says, if it is well formed. -/
def lineContent? (known? : String → Option String) (line : List Char) :
    Option LineContent := do
  let cs := Text.trim line
  if isNothing cs then some .nothing
  else
    let (name, rest) ← assignment? cs
    let rest := Text.trimStart rest
    let value ← if isNothing rest then some "" else valueOf? known? rest
    some (.setting (String.ofList name) value)

/-- What lines set, in order, up to one that is not well formed, after what was set by earlier ones:
of two lines for one variable both are here, and the first counts. A name in a value stands for a
variable that is set, by the environment or by an earlier line. -/
def settings (environment : Variables) : Variables → List (Option (List Char)) → Variables
  | earlier, [] => earlier
  | earlier, none :: _ => earlier
  | earlier, some line :: rest =>
    let value? := fun name => (List.lookup name environment).or (List.lookup name earlier)
    match lineContent? value? line with
    | none => earlier
    | some .nothing => settings environment earlier rest
    | some (.setting name value) => settings environment (earlier ++ [(name, value)]) rest

/-- The text of a file without the mark of byte order at its start. -/
def withoutMark : List Char → List Char
  | '\ufeff' :: cs => cs
  | cs => cs

/-- What the text of a file sets. -/
def settingsOf (environment : Variables) (text : String) : Variables :=
  settings environment [] (lines (withoutMark text.toList))

/-- A setting that would come into force, but whose value holds the NUL character, which no variable
can. -/
def unfit? (environment set : Variables) : Option (String × String) :=
  set.find? fun (name, value) =>
    value.toList.contains '\x00' && (List.lookup name environment).isNone &&
      List.lookup name set == some value

/-- The name of the file. -/
def fileName : String := ".env"

/-- The file in the first of some directories that has one. -/
def findFile : List String → Plan (Option String)
  | [] => pure none
  | directory :: rest => do
    let path := Path.join directory fileName
    if ← Plan.isFile path then pure (some path) else findFile rest

/-- The variables with those of the file around the working directory after them; a file that is not
there or cannot be read sets nothing. -/
def load (workingDirectory : String) (environment : Variables) : Plan Variables := do
  match ← findFile (Path.ancestors workingDirectory) with
  | none => pure environment
  | some path =>
    match ← Plan.readStart path with
    | .error _ => pure environment
    | .ok text =>
      let set := settingsOf environment text
      match unfit? environment set with
      | some (name, value) =>
        Plan.abort <|
          s!"failed to set environment variable \x60{Text.quoted name}\x60 to " ++
            s!"\x60{Text.quoted value}\x60: file name contained an unexpected NUL byte"
      | none => pure (environment ++ set)

end Environment

end Cadastre
