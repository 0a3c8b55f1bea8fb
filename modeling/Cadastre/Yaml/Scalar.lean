import Cadastre.Text.Word
import Cadastre.Yaml.Cursor

/-!
# Scalars

How the text of a scalar is read: between quotes, without quotes, and in blocks of lines. Between
quotes and without them, blanks around line breaks are dropped, a single break becomes a space and
of several breaks the first is dropped. In a literal block breaks are kept; in a folded block they
are folded where no line around them begins with a blank.

The readers are given what is being read as the context of faults. Where they are given a number, it
bounds their steps; the length of the text suffices.
-/

namespace Cadastre.Yaml

open Text (Mark)

/-! ## Blanks and breaks inside scalars -/

/-- A run of blanks and line breaks inside a scalar. -/
structure Gap where
  /-- The blanks before the first break. -/
  blanks : List Char
  /-- The first break, if there is one. -/
  first : Option (List Char)
  /-- The further breaks. -/
  further : List Char
  /-- The place after the run. -/
  after : Cursor

/-- What a run of blanks and breaks stands for. -/
def Gap.text (g : Gap) : List Char :=
  match g.first with
  | none => g.blanks
  | some b =>
    if b == ['\n'] then (if g.further.isEmpty then [' '] else g.further) else b ++ g.further

/-- The run of blanks and breaks at a place. A tab is refused after a break in a column before
`limit`. -/
def gap (context : Context) (limit : Int) :
    Nat → List Char → Option (List Char) → List Char → Cursor → Except Fault Gap
  | 0, blanks, first, further, c => .ok ⟨blanks, first, further, c⟩
  | fuel + 1, blanks, first, further, c =>
    match c.rest with
    | [] => .ok ⟨blanks, first, further, c⟩
    | ch :: _ =>
      if isGap ch then
        if first.isSome then
          if ch == '\t' && (c.column : Int) < limit then
            c.fail context "found a tab character that violates indentation"
          else gap context limit fuel blanks first further (c.skip 1)
        else gap context limit fuel (blanks ++ [ch]) first further (c.skip 1)
      else if isBreak ch then
        if first.isSome then
          gap context limit fuel blanks first (further ++ breakText c.rest) c.nextLine
        else gap context limit fuel [] (some (breakText c.rest)) further c.nextLine
      else .ok ⟨blanks, first, further, c⟩

/-- The run of blanks and breaks at a place, after a first break or not. -/
def gapAt (context : Context) (limit : Int) (first : Option (List Char)) (c : Cursor) :
    Except Fault Gap :=
  gap context limit (c.rest.length + 1) [] first [] c

/-! ## Scalars between quotes -/

/-- The value of a run of hexadecimal digits. -/
def hexValue? (ds : List Char) : Option Nat :=
  ds.foldl (fun n d => n.bind fun n => (Text.hexDigit? d).map (16 * n + ·)) (some 0)

/-- The character with a number, if there is one. -/
def charOf? (n : Nat) : Option Char :=
  if n < 0xd800 || (0xdfff < n && n ≤ 0x10ffff) then some (Char.ofNat n) else none

/-- The character that a letter stands for after a backslash. -/
def shortEscape? (c : Char) : Option Char :=
  match c with
  | '0' => some '\x00'
  | 'a' => some '\x07'
  | 'b' => some '\x08'
  | 't' => some '\t'
  | '\t' => some '\t'
  | 'n' => some '\n'
  | 'v' => some '\x0b'
  | 'f' => some '\x0c'
  | 'r' => some '\r'
  | 'e' => some '\x1b'
  | ' ' => some ' '
  | '"' => some '"'
  | '/' => some '/'
  | '\\' => some '\\'
  | 'N' => some '\u0085'
  | '_' => some '\u00a0'
  | 'L' => some '\u2028'
  | 'P' => some '\u2029'
  | _ => none

/-- The number of hexadecimal digits after a letter that announces them. -/
def escapeWidth? (c : Char) : Option Nat :=
  if c == 'x' then some 2 else if c == 'u' then some 4 else if c == 'U' then some 8 else none

/-- The character with a number of some hexadecimal digits, and the place after it. -/
def numberedChar (context : Context) (width : Nat) (c : Cursor) : Except Fault (Char × Cursor) :=
  let ds := c.rest.take width
  match if ds.length == width then hexValue? ds else none with
  | none => c.fail context "did not find expected hexdecimal number"
  | some n =>
    match charOf? n with
    | none => c.fail context "found invalid Unicode character escape code"
    | some ch => .ok (ch, c.skip width)

/-- The character of an escape that begins at a backslash, and the place after it. -/
def escape (context : Context) (c : Cursor) : Except Fault (Char × Cursor) :=
  match c.rest with
  | _ :: letter :: _ =>
    match escapeWidth? letter, shortEscape? letter with
    | some width, _ => numberedChar context width (c.skip 2)
    | none, some ch => .ok (ch, c.skip 2)
    | none, none => c.fail context "found unknown escape character"
  | _ => c.fail context "found unknown escape character"

/-- The text of a scalar that begins at a mark up to its closing quote, and the place after it. -/
def quotedText (start : Mark) (quote : Char) : Nat → Cursor → Except Fault (List Char × Cursor)
  | 0, c => .ok ([], c)
  | fuel + 1, c =>
    let context : Context := ⟨"while scanning a quoted scalar", start⟩
    if c.column == 0 && startsBorder c.rest then
      c.fail context "found unexpected document indicator"
    else
      match c.rest with
      | [] => c.fail context "found unexpected end of stream"
      | ch :: rest =>
        if ch == quote then
          if quote == '\'' && rest.head? == some '\'' then
            (quotedText start quote fuel (c.skip 2)).map fun (t, c) => ('\'' :: t, c)
          else .ok ([], c.skip 1)
        else if isGapOrBreak ch then
          (gapAt context 0 none c).bind fun g =>
            (quotedText start quote fuel g.after).map fun (t, c) => (g.text ++ t, c)
        else if quote == '"' && ch == '\\' then
          if rest.head?.any isBreak then
            (gapAt context 0 (some []) (c.skip 1).nextLine).bind fun g =>
              (quotedText start quote fuel g.after).map fun (t, c) => (g.text ++ t, c)
          else
            (escape ⟨"while parsing a quoted scalar", start⟩ c).bind fun (e, c) =>
              (quotedText start quote fuel c).map fun (t, c) => (e :: t, c)
        else (quotedText start quote fuel (c.skip 1)).map fun (t, c) => (ch :: t, c)

/-- The scalar between quotes that begins at a place, and the place after it. -/
def quoted (quote : Char) (c : Cursor) : Except Fault (List Char × Cursor) :=
  quotedText c.mark quote (c.rest.length + 1) (c.skip 1)

/-! ## Scalars without quotes -/

/-- The characters of a plain scalar up to a blank, a break or a mark that ends it, and whether that
is a fault: between brackets a colon before a bracket, comma or question mark is refused. -/
def plainWord (flow : Bool) : List Char → List Char × Bool
  | [] => ([], false)
  | ch :: rest =>
    if isGapOrBreak ch then ([], false)
    else if flow && ch == ':' && (rest.head?.any fun d => isFlowMark d || d == '?') then ([], true)
    else if ch == ':' && atGapOrEnd rest then ([], false)
    else if flow && isFlowMark ch then ([], false)
    else
      let (word, faulty) := plainWord flow rest
      (ch :: word, faulty)

/-- What is read of a plain scalar. -/
structure PlainText where
  /-- The text. -/
  text : List Char
  /-- Whether a line break stands between the text and the place after it. -/
  brokenOff : Bool
  /-- The place after the scalar. -/
  after : Cursor

/-- A plain scalar from a place on. Outside brackets it goes on only in columns from `indent` on. -/
def plainText (context : Context) (flow : Bool) (indent : Int) : Nat → Cursor →
    Except Fault PlainText
  | 0, c => .ok ⟨[], false, c⟩
  | fuel + 1, c =>
    if (c.column == 0 && startsBorder c.rest) || c.at? '#' then .ok ⟨[], false, c⟩
    else
      let (word, faulty) := plainWord flow c.rest
      let c := c.skip word.length
      if faulty then c.fail context "found unexpected ':'"
      else if atGapOrEnd c.rest && !c.rest.isEmpty then
        (gapAt context indent none c).bind fun g =>
          if !flow && (g.after.column : Int) < indent then .ok ⟨word, g.first.isSome, g.after⟩
          else
            (plainText context flow indent fuel g.after).map fun next =>
              if next.text.isEmpty then ⟨word, g.first.isSome, next.after⟩
              else ⟨word ++ g.text ++ next.text, next.brokenOff, next.after⟩
      else .ok ⟨word, false, c⟩

/-- The plain scalar that begins at a place. -/
def plain (flow : Bool) (indent : Int) (c : Cursor) : Except Fault PlainText :=
  plainText ⟨"while scanning a plain scalar", c.mark⟩ flow indent (c.rest.length + 1) c

/-! ## Blocks of lines -/

/-- What becomes of the breaks at the end of a block. -/
inductive Chomp where
  /-- None is kept. -/
  | strip
  /-- One is kept. -/
  | clip
  /-- All are kept. -/
  | keep
deriving DecidableEq, Repr

/-- The mark of what becomes of the breaks at the end. -/
def chomp? (c : Char) : Option Chomp :=
  if c == '+' then some .keep else if c == '-' then some .strip else none

/-- The digit that gives the indentation of a block, zero if there is none, and the place after it;
the digit zero is refused. -/
def blockIndent (context : Context) (c : Cursor) : Except Fault (Nat × Cursor) :=
  match c.rest with
  | d :: _ =>
    if d == '0' then c.fail context "found an indentation indicator equal to 0"
    else if d.isDigit then .ok (d.toNat - 48, c.skip 1)
    else .ok (0, c)
  | [] => .ok (0, c)

/-- The marks after the bar or angle of a block, in either order. -/
def blockMarks (context : Context) (c : Cursor) : Except Fault (Chomp × Nat × Cursor) :=
  match c.rest.head?.bind chomp? with
  | some chomp => (blockIndent context (c.skip 1)).map fun (n, c) => (chomp, n, c)
  | none =>
    (blockIndent context c).map fun (n, c) =>
      if n == 0 then (.clip, n, c)
      else
        match c.rest.head?.bind chomp? with
        | some chomp => (chomp, n, c.skip 1)
        | none => (.clip, n, c)

/-- The empty lines and the indentation before a line of a block: the widest indentation, the
breaks, and the place after them. An indentation of zero is not yet known; where spaces are asked
for, a tab is refused. -/
def blockBreaks (context : Context) (indent : Nat) :
    Nat → Nat → List Char → Cursor → Except Fault (Nat × List Char × Cursor)
  | 0, widest, breaks, c => .ok (widest, breaks, c)
  | fuel + 1, widest, breaks, c =>
    let spaces := (c.rest.takeWhile (· == ' ')).length
    let c := c.skip (if indent == 0 then spaces else min spaces (indent - c.column))
    let widest := max widest c.column
    if (indent == 0 || c.column < indent) && c.at? '\t' then
      c.fail context "found a tab character where an indentation space is expected"
    else
      match c.rest with
      | b :: _ =>
        if isBreak b then
          blockBreaks context indent fuel widest (breaks ++ breakText c.rest) c.nextLine
        else .ok (widest, breaks, c)
      | [] => .ok (widest, breaks, c)

/-- The state between two lines of a block. -/
structure BlockState where
  /-- The break at the end of the last line. -/
  ended : List Char
  /-- Whether the last line began with a blank. -/
  blank : Bool
  /-- The breaks of the empty lines since. -/
  empty : List Char

/-- The lines of a block from a place on, and the place after them. -/
def blockText (context : Context) (folded : Bool) (indent : Nat) (chomp : Chomp) :
    Nat → BlockState → Cursor → Except Fault (List Char × Cursor)
  | 0, _, c => .ok ([], c)
  | fuel + 1, s, c =>
    if c.column == indent && !c.rest.isEmpty then
      let blank := c.rest.head?.any isGap
      let join :=
        if folded && s.ended == ['\n'] && !s.blank && !blank then
          if s.empty.isEmpty then [' '] else s.empty
        else s.ended ++ s.empty
      let (line, c) := c.span fun ch => !isBreak ch
      let ended := breakText c.rest
      (blockBreaks context indent (c.rest.length + 1) 0 [] c.nextLine).bind fun (_, empty, c) =>
        (blockText context folded indent chomp fuel ⟨ended, blank, empty⟩ c).map fun (t, c) =>
          (join ++ line ++ t, c)
    else
      .ok ((match chomp with
        | .strip => []
        | .clip => s.ended
        | .keep => s.ended ++ s.empty), c)

/-- The block that begins at a bar or angle, inside a collection in column `parent`, and the place
after it. -/
def block (folded : Bool) (parent : Int) (c : Cursor) : Except Fault (List Char × Cursor) := do
  let context : Context := ⟨"while scanning a block scalar", c.mark⟩
  let (chomp, increment, c) ← blockMarks context (c.skip 1)
  let c ← c.endOfLine context
  let known := if increment == 0 then 0 else (max parent 0).toNat + increment
  let (widest, empty, c) ← blockBreaks context known (c.rest.length + 1) 0 [] c
  let indent := if known == 0 then max widest (max (parent + 1) 1).toNat else known
  blockText context folded indent chomp (c.rest.length + 1) ⟨[], false, empty⟩ c

end Cadastre.Yaml
