import Cadastre.Snapshot.Basic
import Cadastre.Text.Blank
import Cadastre.Text.Case
import Cadastre.Text.Search
import Cadastre.Text.Word

/-!
# Columns

An identifier of a schema may stand between double quotes and carry the name of its schema. Quotes
are dropped, and then the name of the default schema; the names of other schemas are kept.

A line of a table's body declares a column, unless it is blank, holds only a comment, or begins with
one of the words that open a constraint of the table. A column is a name and a definition; its type
is the definition up to the first modifier, and it may be null unless the definition says
`NOT NULL`.
-/

namespace Cadastre.Schema

/-! ## Identifiers -/

/-- The name of the default schema with its point. -/
def defaultSchema : List Char := ['p', 'u', 'b', 'l', 'i', 'c', '.']

/-- An identifier without blank characters at its ends, quotes and the default schema. -/
def normalize (cs : List Char) : List Char :=
  let unquoted := (Text.trim cs).filter (· != '"')
  (defaultSchema.isPrefixOf? unquoted).getD unquoted

/-- `normalize` on strings. -/
def normalizeIdentifier (s : String) : String := String.ofList (normalize s.toList)

/-! ## Modifiers -/

/-- The words that end a type; each is a list of words with blank characters between them. -/
def modifiers : List (List (List Char)) :=
  [ ["not".toList, "null".toList], ["null".toList], ["default".toList], ["references".toList],
    ["check".toList], ["constraint".toList], ["primary".toList, "key".toList], ["unique".toList],
    ["generated".toList] ]

/-- The text after a list of words with blank characters between them, in any letter case. -/
def dropPhrase? : List (List Char) → List Char → Option (List Char)
  | [], cs => some cs
  | [w], cs => Text.dropWord? w cs
  | w :: ws, cs => ((Text.dropWord? w cs).bind Text.dropBlanks?).bind (dropPhrase? ws)

/-- Whether a phrase stands at the start of a text and no word goes on after it. -/
def startsPhrase (phrase : List (List Char)) (cs : List Char) : Bool :=
  (dropPhrase? phrase cs).any fun rest => !Text.startsWord rest

/-- Whether a modifier stands at the start of a text. -/
def startsModifier (cs : List Char) : Bool := modifiers.any fun m => startsPhrase m cs

/-- The text before the first run of blank characters with a modifier after it. -/
def beforeModifier : List Char → List Char
  | [] => []
  | c :: cs =>
    if Text.isBlank c && startsModifier (Text.trimStart cs) then [] else c :: beforeModifier cs

/-- Whether a text holds `NOT NULL` between bounds of words; `inWord` says whether a word character
stands before it. -/
def saysNotNull (inWord : Bool) : List Char → Bool
  | [] => false
  | c :: cs =>
    (!inWord && startsPhrase ["not".toList, "null".toList] (c :: cs)) ||
      saysNotNull (Text.isWord c) cs

/-! ## Lines -/

/-- The openings of constraints, in capitals. -/
def constraintOpenings : List (List Char) :=
  [ "CONSTRAINT ".toList, "PRIMARY KEY".toList, "FOREIGN KEY".toList, "UNIQUE ".toList,
    "CHECK ".toList, "EXCLUDE ".toList ]

/-- A text without one comma at its end. -/
def dropComma (cs : List Char) : List Char :=
  match cs.reverse with
  | ',' :: rest => Text.trim rest.reverse
  | _ => cs

/-- What a line declares: without its comment, blank characters at the ends and the comma. -/
def declaration (line : List Char) : List Char :=
  dropComma (Text.trim (Text.before ['-', '-'] line))

/-- Whether a declaration is a constraint of its table. -/
def isConstraint (cs : List Char) : Bool :=
  constraintOpenings.any fun opening => opening.isPrefixOf (Text.capitals cs)

/-- A text without one quote at its start. -/
def dropQuote : List Char → List Char
  | '"' :: cs => cs
  | cs => cs

/-- The name at the start of a declaration, perhaps with a quote on either side, and the definition
after it, which blank characters separate from the name. -/
def nameAndDefinition? (cs : List Char) : Option (List Char × List Char) :=
  let word := dropQuote cs
  let name := word.takeWhile Text.isWord
  match name, Text.dropBlanks? (dropQuote (word.dropWhile Text.isWord)) with
  | _ :: _, some (c :: definition) => some (name, c :: definition)
  | _, _ => none

/-- The column that a line declares. -/
def column? (line : List Char) : Option Column :=
  let cs := declaration line
  if cs.isEmpty || isConstraint cs then none
  else
    (nameAndDefinition? cs).bind fun (name, definition) =>
      let name := normalize name
      let definition := Text.trim definition
      let type := Text.trim (beforeModifier definition)
      if name.isEmpty || type.isEmpty then none
      else some ⟨String.ofList name, String.ofList type, !saysNotNull false definition⟩

end Cadastre.Schema
