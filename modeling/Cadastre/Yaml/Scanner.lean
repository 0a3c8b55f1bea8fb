import Cadastre.Yaml.Property

/-!
# From characters to tokens

Tokens are read one after the other. Indentation opens and closes block collections; between
brackets it does not count. A colon may turn what stands before it on its line into a key, so
wherever a key may begin its place is remembered, one for each level of brackets, and when the
colon comes the mark of the key is put there.

A text with a faulty token has the tokens before it, except those that could still become keys when
the fault was met.
-/

namespace Cadastre.Yaml

open Text (Mark)

/-- A place where a key may begin. -/
structure PendingKey where
  /-- Whether it must turn out to be a key, since it stands where keys of a block stand. -/
  required : Bool
  /-- The number of tokens before it. -/
  number : Nat
  /-- Where it begins. -/
  place : Cursor

/-- The state between two tokens. -/
structure Scanner where
  /-- The text that is left. -/
  cursor : Cursor
  /-- The column of the innermost block collection, -1 outside of all. -/
  indent : Int
  /-- The columns of the collections around it. -/
  outer : List Int
  /-- Whether a key may begin here. -/
  keyAllowed : Bool
  /-- The places where keys may begin, the innermost level of brackets first; the last one stands
  outside of all brackets. -/
  pending : List (Option PendingKey)
  /-- The tokens so far, the last one first. -/
  tokens : List Lexeme
  /-- Whether the end of the text is among them. -/
  ended : Bool

namespace Scanner

/-- The state before the first token. -/
def start (cs : List Char) : Scanner := ⟨Cursor.start cs, -1, [], true, [none], [], false⟩

/-- Whether the place is between brackets. -/
def inFlow (s : Scanner) : Bool := s.pending.length > 1

/-- The state with one token more, which begins at a mark. -/
def push (t : Token) (m : Mark) (s : Scanner) : Scanner := { s with tokens := ⟨t, m⟩ :: s.tokens }

/-- The state with a token put after the first `number` ones. -/
def insertAt (number : Nat) (t : Token) (m : Mark) (s : Scanner) : Scanner :=
  let later := s.tokens.length - number
  { s with tokens := s.tokens.take later ++ ⟨t, m⟩ :: s.tokens.drop later }

/-- The state at another place. -/
def moveTo (c : Cursor) (s : Scanner) : Scanner := { s with cursor := c }

/-- The state after a token that ends at another place. -/
def pass (t : Token) (c : Cursor) (s : Scanner) : Scanner := (s.push t s.cursor.mark).moveTo c

/-- A problem that is met while nothing is being read. -/
def fail {α : Type} (problem : String) (s : Scanner) : Except Fault α :=
  .error { problem, mark := s.cursor.mark }

/-- Whether a pending key can no longer be one: it is on another line or too far away. -/
def isStale (c : Cursor) (k : PendingKey) : Bool :=
  k.place.line < c.line || k.place.index + 1024 < c.index

/-- A fault: a place where a key had to be has none. -/
def missKey {α : Type} (k : PendingKey) (s : Scanner) : Except Fault α :=
  s.cursor.fail ⟨"while scanning a simple key", k.place.mark⟩ "could not find expected ':'"

/-- The state without the pending keys that can no longer be keys; a fault if one had to be. -/
def dropStale (s : Scanner) : Except Fault Scanner :=
  match (s.pending.filterMap id).find? fun k => isStale s.cursor k && k.required with
  | some k => s.missKey k
  | none => .ok { s with pending := s.pending.map fun k => k.filter fun k => !isStale s.cursor k }

/-- The state without a pending key on the innermost level; a fault if it had to be one. -/
def dropKey (s : Scanner) : Except Fault Scanner :=
  match s.pending with
  | some k :: outer => if k.required then s.missKey k else .ok { s with pending := none :: outer }
  | _ => .ok s

/-- The state that remembers that a key may begin here. -/
def saveKey (s : Scanner) : Except Fault Scanner :=
  if s.keyAllowed then
    s.dropKey.map fun s =>
      let required := !s.inFlow && s.indent == s.cursor.column
      { s with pending := some ⟨required, s.tokens.length, s.cursor⟩ :: s.pending.tail }
  else .ok s

/-- The state in which a block collection that begins at a mark is open; its token is put after the
first `number` ones. -/
def openBlock (m : Mark) (number : Nat) (t : Token) (s : Scanner) : Scanner :=
  if !s.inFlow && s.indent < m.column then
    insertAt number t m { s with indent := m.column, outer := s.indent :: s.outer }
  else s

/-- The state in which the block collections beyond a column are closed. -/
def closeBlocks (column : Int) (s : Scanner) : Scanner :=
  if s.inFlow then s
  else
    let closed := (s.indent :: s.outer).takeWhile (column < ·)
    match (s.indent :: s.outer).drop closed.length with
    | [] => s
    | indent :: outer =>
      let ends := List.replicate closed.length ⟨.blockEnd, s.cursor.mark⟩
      { s with indent, outer, tokens := ends ++ s.tokens }

/-- The state after a token of some characters. -/
def mark (t : Token) (width : Nat) (s : Scanner) : Scanner := s.pass t (s.cursor.skip width)

/-! ## One token -/

/-- The end of the text. -/
def readEnd (s : Scanner) : Except Fault Scanner :=
  let c := s.cursor
  let c : Cursor := if c.column == 0 then c else { c with line := c.line + 1, column := 0 }
  ((s.moveTo c).closeBlocks (-1)).dropKey.map fun s =>
    { s.mark .streamEnd 0 with keyAllowed := false, ended := true }

/-- A directive. -/
def readDirective (s : Scanner) : Except Fault Scanner := do
  let s ← (s.closeBlocks (-1)).dropKey
  let (t, c) ← directive s.cursor
  .ok ({ s with keyAllowed := false }.pass t c)

/-- The border of a document. -/
def readBorder (t : Token) (s : Scanner) : Except Fault Scanner :=
  (s.closeBlocks (-1)).dropKey.map fun s => { s with keyAllowed := false }.mark t 3

/-- An opening bracket. -/
def readOpen (t : Token) (s : Scanner) : Except Fault Scanner :=
  s.saveKey.map fun s => { s with pending := none :: s.pending, keyAllowed := true }.mark t 1

/-- A closing bracket. -/
def readClose (t : Token) (s : Scanner) : Except Fault Scanner :=
  s.dropKey.map fun s =>
    let pending := if s.inFlow then s.pending.tail else s.pending
    { s with pending, keyAllowed := false }.mark t 1

/-- A comma between brackets. -/
def readComma (s : Scanner) : Except Fault Scanner :=
  s.dropKey.map fun s => { s with keyAllowed := true }.mark .flowEntry 1

/-- The dash of an item. -/
def readDash (s : Scanner) : Except Fault Scanner :=
  if !s.inFlow && !s.keyAllowed then
    s.fail "block sequence entries are not allowed in this context"
  else
    (s.openBlock s.cursor.mark s.tokens.length .blockSequenceStart).dropKey.map fun s =>
      { s with keyAllowed := true }.mark .blockEntry 1

/-- The question mark of a key. -/
def readKey (s : Scanner) : Except Fault Scanner :=
  if !s.inFlow && !s.keyAllowed then s.fail "mapping keys are not allowed in this context"
  else
    (s.openBlock s.cursor.mark s.tokens.length .blockMappingStart).dropKey.map fun s =>
      { s with keyAllowed := !s.inFlow }.mark .key 1

/-- The colon of a value. -/
def readValue (s : Scanner) : Except Fault Scanner :=
  match s.pending with
  | some k :: outer =>
    let s := s.insertAt k.number .key k.place.mark
    let s := s.openBlock k.place.mark k.number .blockMappingStart
    .ok ({ s with pending := none :: outer, keyAllowed := false }.mark .value 1)
  | _ =>
    if !s.inFlow && !s.keyAllowed then s.fail "mapping values are not allowed in this context"
    else
      let s := s.openBlock s.cursor.mark s.tokens.length .blockMappingStart
      .ok ({ s with keyAllowed := !s.inFlow }.mark .value 1)

/-- An anchor. -/
def readAnchor (s : Scanner) : Except Fault Scanner := do
  let s ← s.saveKey
  let (name, c) ← anchorName ⟨"while scanning an anchor", s.cursor.mark⟩ s.cursor
  .ok ({ s with keyAllowed := false }.pass (.anchor name) c)

/-- An alias. -/
def readAlias (s : Scanner) : Except Fault Scanner := do
  let s ← s.saveKey
  let (name, c) ← anchorName ⟨"while scanning an alias", s.cursor.mark⟩ s.cursor
  .ok ({ s with keyAllowed := false }.pass (.alias name) c)

/-- A tag. -/
def readTag (s : Scanner) : Except Fault Scanner := do
  let s ← s.saveKey
  let (t, c) ← tag s.inFlow s.cursor
  .ok ({ s with keyAllowed := false }.pass t c)

/-- A block of lines. -/
def readBlock (folded : Bool) (s : Scanner) : Except Fault Scanner := do
  let s ← s.dropKey
  let (text, c) ← block folded s.indent s.cursor
  let style := if folded then .folded else .literal
  .ok ({ s with keyAllowed := true }.pass (.scalar style (String.ofList text)) c)

/-- A scalar between quotes. -/
def readQuoted (quote : Char) (s : Scanner) : Except Fault Scanner := do
  let s ← s.saveKey
  let (text, c) ← quoted quote s.cursor
  let style := if quote == '"' then .double else .single
  .ok ({ s with keyAllowed := false }.pass (.scalar style (String.ofList text)) c)

/-- A scalar without quotes. -/
def readPlain (s : Scanner) : Except Fault Scanner := do
  let s ← s.saveKey
  let p ← plain s.inFlow (s.indent + 1) s.cursor
  .ok ({ s with keyAllowed := p.brokenOff }.pass (.scalar .plain (String.ofList p.text)) p.after)

/-- Whether a plain scalar may begin with a character that is followed by `rest`. -/
def startsPlain (flow : Bool) (c : Char) (rest : List Char) : Bool :=
  if c ∈ [',', '[', ']', '\x7b', '\x7d', '#', '&', '*', '!', '|', '>', '\'', '"', '%', '@', '\x60']
  then false
  else if c == '-' then !(rest.head?.any isGap)
  else if c == '?' || c == ':' then !flow && !atGapOrEnd rest
  else !isGapOrBreak c

/-- The state after the token that begins at the place. -/
def readToken (s : Scanner) : Except Fault Scanner :=
  match s.cursor.rest with
  | [] => s.readEnd
  | c :: rest =>
    if s.cursor.column == 0 && c == '%' then s.readDirective
    else if s.cursor.column == 0 && startsBorder (c :: rest) then
      s.readBorder (if c == '-' then .documentStart else .documentEnd)
    else if c == '[' then s.readOpen .flowSequenceStart
    else if c == '\x7b' then s.readOpen .flowMappingStart
    else if c == ']' then s.readClose .flowSequenceEnd
    else if c == '\x7d' then s.readClose .flowMappingEnd
    else if c == ',' then s.readComma
    else if c == '-' && atGapOrEnd rest then s.readDash
    else if c == '?' && (s.inFlow || atGapOrEnd rest) then s.readKey
    else if c == ':' && (s.inFlow || atGapOrEnd rest) then s.readValue
    else if c == '*' then s.readAlias
    else if c == '&' then s.readAnchor
    else if c == '!' then s.readTag
    else if c == '|' && !s.inFlow then s.readBlock false
    else if c == '>' && !s.inFlow then s.readBlock true
    else if c == '\'' || c == '"' then s.readQuoted c
    else if startsPlain s.inFlow c rest then s.readPlain
    else
      s.cursor.fail ⟨"while scanning for the next token", s.cursor.mark⟩
        "found character that cannot start any token"

/-- The state after the next token. -/
def next (s : Scanner) : Except Fault Scanner :=
  let (keyAllowed, c) := s.cursor.toToken s.inFlow (s.cursor.rest.length + 1) s.keyAllowed
  ({ s with keyAllowed }.moveTo c).dropStale.bind fun s =>
    (s.closeBlocks s.cursor.column).readToken

/-! ## All tokens -/

/-- The number of tokens that can no longer become part of a key. -/
def settled (s : Scanner) : Nat :=
  s.pending.foldl (fun n k => k.elim n fun k => min n k.number) s.tokens.length

/-- The settled tokens, in their order. -/
def settledTokens (s : Scanner) : List Lexeme := s.tokens.reverse.take s.settled

/-- The tokens up to the end or to the first fault, and the fault. A key that has become stale is a
fault of the step that made it so, even if that step settled tokens before the key. The number
bounds the steps. -/
def run : Nat → Scanner → List Lexeme × Option Fault
  | 0, s => (s.tokens.reverse, none)
  | fuel + 1, s =>
    if s.ended then (s.tokens.reverse, none)
    else
      match s.next.bind dropStale with
      | .error f => (s.settledTokens, some f)
      | .ok s => run fuel s

end Scanner

/-- The fault of a text with a character that may not stand in it, after so many bytes. -/
def forbiddenAt (index : Nat) : Fault where
  problem :=
    "control characters are not allowed" ++ if index == 0 then "" else s!" at position {index}"

/-- The tokens of a text up to the first fault, and the fault if there is one. A character that may
not stand in a text is a fault before all tokens. -/
def tokensOf (cs : List Char) : List Lexeme × Option Fault :=
  if cs.all isAllowed then (Scanner.start cs).run (cs.length + 2)
  else ([], some (forbiddenAt (Text.byteCount (cs.takeWhile isAllowed))))

end Cadastre.Yaml
