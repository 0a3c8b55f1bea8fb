import Cadastre.Json.Numeral

/-!
# Reading JSON

A text is read into a draft, which holds the value as far as the text is well formed and marks the
place where it is not. A reader of a draft that walks it in the order of the text meets whatever is
wrong with the shape of the value before that place, and only then the mark. Strings and numerals
that are well formed but have no value, because half of a surrogate pair is missing or a number is
too large, are marked apart: they do no harm where a value is skipped.
-/

namespace Cadastre.Json

/-- A value as far as its text is well formed. -/
inductive Draft where
  | null
  | bool (b : Bool)
  | number (n : Number)
  | text (s : String)
  /-- A string or numeral that is well formed but has no value. -/
  | unfit
  /-- The text is not well formed from here on. -/
  | broken
  /-- An array, and whether it is well formed to its end. -/
  | array (items : List Draft) (closed : Bool)
  /-- An object, and whether it is well formed to its end; a key that is no string is the last. -/
  | object (members : List (Draft × Draft)) (closed : Bool)

/-- Whether a character may stand between the parts of a text. -/
def isSpace (c : Char) : Bool := c == ' ' || c == '\n' || c == '\t' || c == '\r'

/-- The text without its leading spaces. -/
def skipSpaces (cs : List Char) : List Char := cs.dropWhile isSpace

/-! ## Strings -/

/-- A part of a string: a character, or a number written with four digits. -/
inductive Piece where
  | char (c : Char)
  | unit (n : Nat)

/-- The value of four hexadecimal digits. -/
def hexQuad? (a b c d : Char) : Option Nat := do
  some (4096 * (← Text.hexDigit? a) + 256 * (← Text.hexDigit? b) + 16 * (← Text.hexDigit? c) +
    (← Text.hexDigit? d))

/-- The character behind a backslash and a letter. -/
def escaped? (c : Char) : Option Char :=
  match c with
  | '"' => some '"'
  | '\\' => some '\\'
  | '/' => some '/'
  | 'b' => some '\x08'
  | 'f' => some '\x0c'
  | 'n' => some '\n'
  | 'r' => some '\r'
  | 't' => some '\t'
  | _ => none

/-- The parts of a string up to its closing quote, and the rest. -/
def pieces? : List Char → Option (List Piece × List Char)
  | [] => none
  | '"' :: rest => some ([], rest)
  | '\\' :: 'u' :: a :: b :: c :: d :: rest =>
    (hexQuad? a b c d).bind fun n => (pieces? rest).map fun (ps, r) => (.unit n :: ps, r)
  | '\\' :: c :: rest =>
    (escaped? c).bind fun e => (pieces? rest).map fun (ps, r) => (.char e :: ps, r)
  | c :: rest =>
    if c.toNat < 0x20 || c == '\\' then none
    else (pieces? rest).map fun (ps, r) => (.char c :: ps, r)

/-- The characters of the parts of a string; a number beyond a lone half of a pair names none. -/
def joinPieces? : List Piece → Option (List Char)
  | [] => some []
  | .char c :: ps => (joinPieces? ps).map (c :: ·)
  | .unit high :: .unit low :: ps =>
    if 0xd800 ≤ high && high < 0xdc00 && 0xdc00 ≤ low && low < 0xe000 then
      (joinPieces? ps).map
        (Char.ofNat (0x10000 + 0x400 * (high - 0xd800) + (low - 0xdc00)) :: ·)
    else if 0xd800 ≤ high && high < 0xe000 then none
    else (joinPieces? (.unit low :: ps)).map (Char.ofNat high :: ·)
  | .unit n :: ps =>
    if 0xd800 ≤ n && n < 0xe000 then none else (joinPieces? ps).map (Char.ofNat n :: ·)

/-- The string after its opening quote, if it has a value, and the rest. -/
def string? (cs : List Char) : Option (Option String × List Char) :=
  (pieces? cs).map fun (ps, rest) => ((joinPieces? ps).map String.ofList, rest)

/-! ## Values -/

/-- What follows a word. -/
def word? (w : String) (cs : List Char) : Option (List Char) := w.toList.isPrefixOf? cs

/-- A value that is a word of the format. -/
def wordDraft (w : String) (d : Draft) (cs : List Char) : Draft × Option (List Char) :=
  match word? w cs with
  | some rest => (d, some rest)
  | none => (.broken, none)

/-- A string as a draft. -/
def stringDraft (cs : List Char) : Draft × Option (List Char) :=
  match string? cs with
  | some (some s, rest) => (.text s, some rest)
  | some (none, rest) => (.unfit, some rest)
  | none => (.broken, none)

/-- A numeral as a draft. -/
def numberDraft (cs : List Char) : Draft × Option (List Char) :=
  match numeral? cs with
  | some (n, rest) =>
    match n.value? with
    | some v => (.number v, some rest)
    | none => (.unfit, some rest)
  | none => (.broken, none)

mutual

/-- The value at the start of a text, and the rest if it is well formed. The number bounds the
steps; the length of the text suffices. -/
def draft : Nat → List Char → Draft × Option (List Char)
  | 0, _ => (.broken, none)
  | fuel + 1, cs =>
    match skipSpaces cs with
    | [] => (.broken, none)
    | '"' :: rest => stringDraft rest
    | '[' :: rest =>
      match skipSpaces rest with
      | ']' :: rest => (.array [] true, some rest)
      | rest =>
        let (items, after) := draftItems fuel rest
        (.array items after.isSome, after)
    | '\x7b' :: rest =>
      match skipSpaces rest with
      | '\x7d' :: rest => (.object [] true, some rest)
      | rest =>
        let (members, after) := draftMembers fuel rest
        (.object members after.isSome, after)
    | c :: rest =>
      if c == 'n' then wordDraft "null" .null (c :: rest)
      else if c == 't' then wordDraft "true" (.bool true) (c :: rest)
      else if c == 'f' then wordDraft "false" (.bool false) (c :: rest)
      else numberDraft (c :: rest)

/-- The items of an array up to its bracket, and the rest if they are well formed. -/
def draftItems : Nat → List Char → List Draft × Option (List Char)
  | 0, _ => ([], none)
  | fuel + 1, cs =>
    let (item, after) := draft fuel cs
    match after.map skipSpaces with
    | some (',' :: rest) =>
      let (items, after) := draftItems fuel rest
      (item :: items, after)
    | some (']' :: rest) => ([item], some rest)
    | _ => ([item], none)

/-- The members of an object up to its brace, and the rest if they are well formed. -/
def draftMembers : Nat → List Char → List (Draft × Draft) × Option (List Char)
  | 0, _ => ([], none)
  | fuel + 1, cs =>
    match skipSpaces cs with
    | '"' :: rest =>
      let (key, after) := stringDraft rest
      match after.map skipSpaces with
      | some (':' :: rest) =>
        let (value, after) := draft fuel rest
        match after.map skipSpaces with
        | some (',' :: rest) =>
          let (members, after) := draftMembers fuel rest
          ((key, value) :: members, after)
        | some ('\x7d' :: rest) => ([(key, value)], some rest)
        | _ => ([(key, value)], none)
      | _ => ([(key, .broken)], none)
    | rest => ([((draft fuel rest).1, .broken)], none)

end

/-- A text as far as it is well formed. -/
structure Document where
  /-- The value. -/
  value : Draft
  /-- Whether nothing but spaces follows the value. -/
  ended : Bool

/-- The document in a text. -/
def Document.ofString (s : String) : Document :=
  let cs := s.toList
  let (value, after) := draft (cs.length + 1) cs
  ⟨value, (after.map skipSpaces) == some []⟩

mutual

/-- The value of a draft that is well formed and has one. -/
def Draft.toJson? : Draft → Option Json
  | .null => some .null
  | .bool b => some (.bool b)
  | .number n => some (.number n)
  | .text s => some (.text s)
  | .unfit => none
  | .broken => none
  | .array items closed =>
    if closed then (itemsToJson? items).map .array else none
  | .object members closed =>
    if closed then (membersToJson? members).map objectOf else none

/-- The values of a list of drafts. -/
def Draft.itemsToJson? : List Draft → Option (List Json)
  | [] => some []
  | d :: ds => d.toJson?.bind fun v => (Draft.itemsToJson? ds).map (v :: ·)

/-- The members of a list of drafts with strings for keys. -/
def Draft.membersToJson? : List (Draft × Draft) → Option (List (String × Json))
  | [] => some []
  | (.text k, d) :: ms => d.toJson?.bind fun v => (Draft.membersToJson? ms).map ((k, v) :: ·)
  | _ :: _ => none

end

/-- The value of a text. -/
def ofString? (s : String) : Option Json :=
  let d := Document.ofString s
  if d.ended then d.value.toJson? else none

end Cadastre.Json
