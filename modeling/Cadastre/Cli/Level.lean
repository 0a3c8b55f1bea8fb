import Cadastre.Text.Search

/-!
# Reading arguments

A command line has levels: the program, and its commands. A level knows settings by long and short
names, may take one more argument without a name, and may know commands. Arguments are read from
left to right. A value that is given to a setting is kept back until the next setting is named, or
the level ends, and only then checked, so that of two mistakes the one that shows first is
reported.
-/

namespace Cadastre.Cli

/-- What can be set by arguments. -/
inductive Setting where
  | config
  | workingDirectory
  | verbose
  | format
  | query
  | output
  | previous
deriving DecidableEq, Repr

/-- Why arguments are refused, or what they ask for in place of a command. -/
inductive ArgumentError where
  /-- The help was asked for. -/
  | help
  /-- The version was asked for. -/
  | version
  /-- Nothing was given. -/
  | nothingGiven
  /-- There is no command. -/
  | missingCommand
  /-- There is no such command. -/
  | unknownCommand
  /-- There is no such argument. -/
  | unknownArgument
  /-- A value is missing, or cannot be had. -/
  | invalidValue
  /-- A value was given to what takes none. -/
  | tooManyValues
  /-- Something was set twice. -/
  | repeated
  /-- An argument that must be given is not. -/
  | missingArgument
deriving DecidableEq, Repr

/-- What naming an option does. -/
inductive Effect where
  /-- It takes a value that must satisfy a condition. -/
  | takesValue (setting : Setting) (allowed : String → Bool)
  /-- It is turned on. -/
  | turnsOn (setting : Setting)
  /-- It asks for the help. -/
  | asksHelp
  /-- It asks for the version. -/
  | asksVersion

/-- An option. -/
structure Parameter where
  /-- The name after two hyphens. -/
  long : String
  /-- The name after one hyphen, if it has one. -/
  short : Option Char
  /-- What naming it does. -/
  effect : Effect

/-- A level of the command line. -/
structure Level where
  /-- The options. -/
  parameters : List Parameter
  /-- What an argument without a name sets, and the condition that it must satisfy. -/
  positional : Option (Setting × (String → Bool)) := none
  /-- The names of the commands. -/
  commands : List String := []

/-- Values that were set. -/
abbrev Matches := List (Setting × String)

/-- A value that is kept back. -/
structure Pending where
  /-- What it sets. -/
  setting : Setting
  /-- The condition that it must satisfy. -/
  allowed : String → Bool
  /-- The value, unless it is still to come. -/
  value : Option String

/-- How far a level has been read. -/
structure Reading where
  /-- The values that were set. -/
  found : Matches := []
  /-- The value that is kept back. -/
  pending : Option Pending := none
  /-- Whether the next argument can be a value. -/
  expecting : Bool := false
  /-- Whether no argument is a name any more. -/
  trailing : Bool := false
  /-- Whether the argument without a name was given. -/
  filled : Bool := false

namespace Reading

/-- Sets a value, once. -/
def store (r : Reading) (setting : Setting) (allowed : String → Bool) (value : String) :
    Except ArgumentError Reading :=
  if (List.lookup setting r.found).isSome then .error .repeated
  else if allowed value then .ok { r with found := r.found ++ [(setting, value)] }
  else .error .invalidValue

/-- The reading when no value is waited for any more. -/
def settle (r : Reading) : Reading := { r with expecting := false }

/-- Sets the value that is kept back. -/
def resolve (r : Reading) : Except ArgumentError Reading :=
  match r.pending with
  | none => .ok r
  | some ⟨_, _, none⟩ => .error .invalidValue
  | some ⟨setting, allowed, some value⟩ => { r with pending := none }.store setting allowed value

/-- Names an option that has no value with it; one that takes a value waits for it. -/
def name (r : Reading) (effect : Effect) : Except ArgumentError Reading := do
  let r ← r.resolve
  match effect with
  | .takesValue setting allowed =>
    .ok { r with pending := some ⟨setting, allowed, none⟩, expecting := true }
  | .turnsOn setting => r.settle.store setting (fun _ => true) "true"
  | .asksHelp => .error .help
  | .asksVersion => .error .version

/-- Names an option with a value. -/
def nameWith (r : Reading) (effect : Effect) (value : String) : Except ArgumentError Reading :=
  match effect with
  | .takesValue setting allowed => do
    let r ← r.resolve
    r.settle.store setting allowed value
  | _ => .error .tooManyValues

/-- Reads what follows two hyphens: a name, and a value after an equals sign. -/
def readLong (level : Level) (r : Reading) (rest : List Char) : Except ArgumentError Reading :=
  let name := String.ofList (rest.takeWhile (· != '='))
  match level.parameters.find? fun p => p.long == name, rest.dropWhile (· != '=') with
  | none, _ => .error .unknownArgument
  | some p, [] => r.name p.effect
  | some p, _ :: value => r.nameWith p.effect (String.ofList value)

/-- Reads what follows one hyphen: short names up to one that takes a value, and that value, with an
equals sign before it or not. -/
def readShort (level : Level) (r : Reading) : List Char → Except ArgumentError Reading
  | [] => .ok r
  | c :: rest =>
    match level.parameters.find? fun p => p.short == some c with
    | none => .error .unknownArgument
    | some p =>
      match p.effect, rest with
      | .takesValue _ _, [] => r.name p.effect
      | .takesValue _ _, '=' :: value => r.nameWith p.effect (String.ofList value)
      | .takesValue _ _, value => r.nameWith p.effect (String.ofList value)
      | _, _ => (r.name p.effect).bind fun r => readShort level r rest

/-- Reads an argument that names nothing. -/
def readValue (level : Level) (r : Reading) (argument : String) : Except ArgumentError Reading :=
  match level.positional with
  | some (setting, allowed) =>
    if r.filled then .error .unknownArgument
    else do
      let r ← r.resolve
      .ok { r with pending := some ⟨setting, allowed, some argument⟩, filled := true }
  | none =>
    if level.commands.isEmpty || (r.trailing && level.commands.contains argument) then
      .error .unknownArgument
    else .error .unknownCommand

/-- Gives the option that waits for it its value. -/
def fill (r : Reading) (value : String) : Reading :=
  { r with
    pending := r.pending.map fun p => { p with value := some value }
    expecting := false }

/-- Reads an argument that is no command. -/
def step (level : Level) (r : Reading) (argument : String) : Except ArgumentError Reading :=
  if r.trailing then r.readValue level argument
  else
    match argument.toList with
    | ['-', '-'] => .ok { r with trailing := true }
    | '-' :: '-' :: rest => r.readLong level rest
    | '-' :: c :: rest => r.readShort level (c :: rest)
    | _ => if r.expecting then .ok (r.fill argument) else r.readValue level argument

/-- Reads arguments up to a command, and gives what was read, the command and the arguments after
it. -/
def readAll (level : Level) :
    Reading → List String → Except ArgumentError (Reading × Option (String × List String))
  | r, [] => .ok (r, none)
  | r, argument :: rest =>
    if !r.trailing && !r.expecting && level.commands.contains argument then
      .ok (r, some (argument, rest))
    else (r.step level argument).bind fun r => readAll level r rest

/-- The values that were set when a level ends. -/
def finish (r : Reading) : Except ArgumentError Matches := (r.resolve).map Reading.found

end Reading

end Cadastre.Cli
