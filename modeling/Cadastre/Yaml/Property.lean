import Cadastre.Yaml.Scalar
import Cadastre.Yaml.Token

/-!
# Names, tags and directives

The tokens that are neither marks nor scalars: anchors and aliases, tags, and the directives for
the version of the format and for tag handles. The readers are given where the token begins.
-/

namespace Cadastre.Yaml

open Text (Mark)

/-- Whether a text is over or goes on with a character that may follow a name. -/
def endsName : List Char → Bool
  | [] => true
  | c :: _ => isGapOrBreak c || c ∈ ['?', ':', ',', ']', '\x7d', '%', '@', '\x60']

/-- The name after an ampersand or asterisk, and the place after it. -/
def anchorName (context : Context) (c : Cursor) : Except Fault (String × Cursor) :=
  let (name, c) := (c.skip 1).span isNameChar
  if !name.isEmpty && endsName c.rest then .ok (String.ofList name, c)
  else c.fail context "did not find expected alphabetic or numeric character"

/-! ## Tags -/

/-- What a tag is part of: a token of its own, or a directive. -/
inductive TagUse where
  | token
  | directive
deriving DecidableEq, Repr

/-- What is being read while the characters of a tag are. -/
def TagUse.context (use : TagUse) (start : Mark) : Context :=
  match use with
  | token => ⟨"while parsing a tag", start⟩
  | directive => ⟨"while parsing a %TAG directive", start⟩

/-- A character of a tag; between angle brackets and in directives there are a few more. -/
def isTagChar (wide : Bool) (c : Char) : Bool :=
  isNameChar c || c ∈ [';', '/', '?', ':', '@', '&', '=', '+', '$', '.', '%', '!', '~', '*', '\'',
    '(', ')'] || (wide && c ∈ [',', '[', ']'])

/-- A byte written as a percent sign and two hexadecimal digits. -/
def escapedByte (context : Context) (c : Cursor) : Except Fault Nat :=
  match c.rest with
  | '%' :: a :: b :: _ =>
    match hexValue? [a, b] with
    | some n => .ok n
    | none => c.fail context "did not find URI escaped octet"
  | _ => c.fail context "did not find URI escaped octet"

/-- The number of bytes of a character by its first byte, and the bits of that byte that count. -/
def byteForm? (n : Nat) : Option (Nat × Nat) :=
  if n < 0x80 then some (0, n)
  else if n / 32 == 6 then some (1, n % 32)
  else if n / 16 == 14 then some (2, n % 16)
  else if n / 8 == 30 then some (3, n % 8)
  else none

/-- Further bytes of a character, added to the bits before them. -/
def furtherBytes (context : Context) : Nat → Nat → Cursor → Except Fault (Nat × Cursor)
  | 0, bits, c => .ok (bits, c)
  | n + 1, bits, c =>
    (escapedByte context c).bind fun b =>
      if b / 64 == 2 then furtherBytes context n (64 * bits + b % 64) (c.skip 3)
      else c.fail context "found an incorrect trailing UTF-8 octet"

/-- A character written by its bytes after percent signs, none if the bytes make no character or
more of them are used than the character needs. -/
def escapedChar (context : Context) (c : Cursor) : Except Fault (Option Char × Cursor) :=
  (escapedByte context c).bind fun b =>
    match byteForm? b with
    | none => c.fail context "found an incorrect leading UTF-8 octet"
    | some (more, bits) =>
      (furtherBytes context more bits (c.skip 3)).map fun (n, c) =>
        ((charOf? n).filter fun ch => ch.utf8Size == more + 1, c)

/-- The characters of a tag at a place, and the place after them. The number bounds the steps. -/
def tagChars (context : Context) (wide : Bool) :
    Nat → Cursor → Except Fault (List (Option Char) × Cursor)
  | 0, c => .ok ([], c)
  | fuel + 1, c =>
    match c.rest with
    | [] => .ok ([], c)
    | ch :: _ =>
      if !isTagChar wide ch then .ok ([], c)
      else if ch == '%' then
        (escapedChar context c).bind fun (e, c) =>
          (tagChars context wide fuel c).map fun (t, c) => (e :: t, c)
      else (tagChars context wide fuel (c.skip 1)).map fun (t, c) => (some ch :: t, c)

/-- The tag of some characters; a tag ends before the first NUL. -/
def Tag.ofChars (cs : List (Option Char)) : Tag :=
  let cs := cs.takeWhile (· != some '\x00')
  ⟨String.ofList (cs.map (·.getD '\ufffd')), cs.all Option.isSome⟩

/-- The characters of a tag at a place, and the place after them. Where it has no handle before it,
there must be some. -/
def tagText (use : TagUse) (start : Mark) (wide alone : Bool) (c : Cursor) :
    Except Fault (List (Option Char) × Cursor) :=
  (tagChars (use.context start) wide (c.rest.length + 1) c).bind fun (t, c) =>
    if alone && t.isEmpty then c.fail (use.context start) "did not find expected tag URI"
    else .ok (t, c)

/-- A tag handle: an exclamation mark, perhaps a name and a second one. -/
def tagHandle (c : Cursor) : List Char × Cursor :=
  let (name, c) := (c.skip 1).span isNameChar
  if c.at? '!' then ('!' :: name ++ ['!'], c.skip 1) else ('!' :: name, c)

/-- Whether a handle is more than one exclamation mark and ends with one. -/
def isFullHandle (handle : List Char) : Bool :=
  handle.length > 1 && handle.getLast? == some '!'

/-- A tag between angle brackets, which stands for itself. -/
def verbatimTag (start : Mark) (c : Cursor) : Except Fault (Token × Cursor) :=
  (tagText .token start true true (c.skip 2)).bind fun (t, c) =>
    if c.at? '>' then .ok (.tag "" (.ofChars t), c.skip 1)
    else c.fail ⟨"while scanning a tag", start⟩ "did not find the expected '>'"

/-- A tag with a handle; the exclamation mark alone is a tag too. -/
def shortTag (start : Mark) (c : Cursor) : Except Fault (Token × Cursor) :=
  let (handle, c) := tagHandle c
  (tagText .token start false (isFullHandle handle) c).map fun (t, c) =>
    if isFullHandle handle then (.tag (String.ofList handle) (.ofChars t), c)
    else
      let suffix := Tag.ofChars ((handle.drop 1).map some ++ t)
      if suffix.text.isEmpty then (.tag "" ⟨"!", true⟩, c) else (.tag "!" suffix, c)

/-- The tag at a place, and the place after it. A blank must follow, or a comma between brackets. -/
def tag (flow : Bool) (c : Cursor) : Except Fault (Token × Cursor) :=
  let start := c.mark
  (match c.rest with
    | _ :: '<' :: _ => verbatimTag start c
    | _ => shortTag start c).bind fun (t, c) =>
      if (flow && c.at? ',') || atGapOrEnd c.rest then .ok (t, c)
      else
        c.fail ⟨"while scanning a tag", start⟩ "did not find expected whitespace or line break"

/-! ## Directives -/

/-- A number of at most nine digits, and the place after it. -/
def versionNumber (context : Context) (c : Cursor) : Except Fault (Nat × Cursor) :=
  let (ds, after) := c.span Char.isDigit
  if ds.isEmpty then c.fail context "did not find expected version number"
  else if ds.length > 9 then (c.skip 9).fail context "found extremely long version number"
  else .ok (Text.digitsValue ds, after)

/-- The value of a version directive. -/
def versionValue (start : Mark) (c : Cursor) : Except Fault (Token × Cursor) := do
  let context : Context := ⟨"while scanning a %YAML directive", start⟩
  let (major, c) ← versionNumber context (c.skipWhile isGap)
  if c.at? '.' then
    let (minor, c) ← versionNumber context (c.skip 1)
    .ok (.version major minor, c)
  else c.fail context "did not find expected digit or '.' character"

/-- The value of a tag directive: a handle and what it stands for. -/
def tagValue (start : Mark) (c : Cursor) : Except Fault (Token × Cursor) := do
  let context : Context := ⟨"while scanning a %TAG directive", start⟩
  let c := c.skipWhile isGap
  if !c.at? '!' then c.fail ⟨"while scanning a tag directive", start⟩ "did not find expected '!'"
  else
    let (handle, c) := tagHandle c
    if !(isFullHandle handle || handle == ['!']) then
      c.fail ⟨"while parsing a tag directive", start⟩ "did not find expected '!'"
    else if !(c.rest.head?.any isGap) then c.fail context "did not find expected whitespace"
    else
      let (t, c) ← tagText .directive start true true (c.skipWhile isGap)
      if atGapOrEnd c.rest then .ok (.tagHandle (String.ofList handle) (.ofChars t), c)
      else c.fail context "did not find expected whitespace or line break"

/-- The directive at a percent sign, and the place after its line. -/
def directive (c : Cursor) : Except Fault (Token × Cursor) := do
  let start := c.mark
  let context : Context := ⟨"while scanning a directive", start⟩
  let (name, c) := (c.skip 1).span isNameChar
  if name.isEmpty then c.fail context "could not find expected directive name"
  else if !atGapOrEnd c.rest then c.fail context "found unexpected non-alphabetical character"
  else
    let (token, c) ←
      if name == ['Y', 'A', 'M', 'L'] then versionValue start c
      else if name == ['T', 'A', 'G'] then tagValue start c
      else c.fail context "found unknown directive name"
    let c ← c.endOfLine context
    .ok (token, c)

end Cadastre.Yaml
