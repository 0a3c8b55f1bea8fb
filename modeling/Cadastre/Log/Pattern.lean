import Cadastre.Text.Blank
import Cadastre.Text.Word

/-!
# Values that a field can ask for

A field of a directive may ask for a value: a truth value, a number, or whatever fits a regular
expression. Entries have no values that could be asked for; all that matters is whether the text
after the equals sign is well formed. An expression is, if its groups and classes are closed, its
ranges ascend, its escapes mean something, what is repeated is there, and nothing in it nests more
than 250 levels deep. It is meant for a finite automaton that reads UTF-8 byte by byte: the bounds
of words can be asked for only where the expression is about bytes, and there nothing may fit a
single byte beyond ASCII. The text of a field ends at its first closing brace, so no brace is ever
closed.
-/

namespace Cadastre.Log.Pattern

/-- How the characters of an expression are taken. -/
structure Mode where
  /-- Whether blanks and comments between the parts are skipped. -/
  spaced : Bool := false
  /-- Whether the expression is about characters of Unicode, and not about bytes. -/
  unicode : Bool := true
deriving DecidableEq, Repr

/-- A text without its leading blanks and comments; the flag says whether it starts in a comment. -/
def skipBlanks : Bool → List Char → List Char
  | _, [] => []
  | true, c :: cs => skipBlanks (c != '\n') cs
  | false, c :: cs =>
    if Text.isBlank c then skipBlanks false cs
    else if c == '#' then skipBlanks true cs
    else c :: cs

/-- A text from its next character that counts. -/
def Mode.next (m : Mode) (cs : List Char) : List Char :=
  if m.spaced then skipBlanks false cs else cs

/-- The character that decides whether a dash before the text stands for itself. Blanks and the mark
of a comment are left aside, but not what the comment says. -/
def Mode.afterDash? (m : Mode) (cs : List Char) : Option Char :=
  if m.spaced then
    match Text.trimStart cs with
    | '#' :: rest => (Text.trimStart rest).head?
    | rest => rest.head?
  else cs.head?

/-! ## Escapes -/

/-- What a backslash and the characters after it mean. -/
inductive Escape where
  /-- A character by its number, and whether it is written as a byte. -/
  | literal (code : Nat) (isByte : Bool)
  /-- An end of the text. -/
  | border
  /-- A bound of a word. -/
  | wordBound
  /-- The digits, blanks or word characters, or all others. -/
  | sort (negated : Bool)
  /-- A category of characters. -/
  | category
deriving DecidableEq, Repr

/-- A number of some hexadecimal digits, put after the digits before them, and the rest. -/
def hexNumber? (m : Mode) : Nat → Nat → List Char → Option (Nat × List Char)
  | 0, n, cs => some (n, cs)
  | width + 1, n, cs =>
    match m.next cs with
    | [] => none
    | d :: rest => (Text.hexDigit? d).bind fun v => hexNumber? m width (16 * n + v) rest

/-- A character by its number in hexadecimal digits, and the rest. -/
def numbered? (m : Mode) (width : Nat) (cs : List Char) : Option (Escape × List Char) :=
  (hexNumber? m width 0 cs).bind fun (n, rest) =>
    if n < 0xd800 || (0xdfff < n && n < 0x110000) then some (.literal n (width == 2), rest)
    else none

/-- The number of the control character that a letter stands for. -/
def controlCode? (c : Char) : Option Nat :=
  List.lookup c [('a', 7), ('f', 0xc), ('t', 9), ('n', 0xa), ('r', 0xd), ('v', 0xb)]

/-- What the characters after a backslash mean, and the rest. -/
def escape? (m : Mode) : List Char → Option (Escape × List Char)
  | [] => none
  | c :: rest =>
    if c == 'x' then numbered? m 2 rest
    else if c == 'u' then numbered? m 4 rest
    else if c == 'U' then numbered? m 8 rest
    else if c == 'p' || c == 'P' then
      match m.next rest with
      | [] => none
      | name :: rest =>
        if name.toLower ∈ ['c', 'l', 'm', 'n', 'p', 's', 'z'] then some (.category, rest) else none
    else if c ∈ ['d', 's', 'w'] then some (.sort false, rest)
    else if c ∈ ['D', 'S', 'W'] then some (.sort true, rest)
    else if c == 'A' || c == 'z' then some (.border, rest)
    else if c ∈ ['b', 'B', '<', '>'] then some (.wordBound, rest)
    else
      match controlCode? c with
      | some n => some (.literal n false, rest)
      | none =>
        if c.toNat < 0x80 && !c.isAlphanum then some (.literal c.toNat false, rest) else none

/-- Whether an escape may be a part of an expression. -/
def Escape.isPart (m : Mode) : Escape → Bool
  | literal n isByte => m.unicode || !isByte || n < 0x80
  | border => true
  | wordBound => !m.unicode
  | sort negated => m.unicode || !negated
  | category => m.unicode

/-! ## Classes -/

/-- A member of a class: a character by its number, or characters of some sort. -/
inductive Member where
  | literal (code : Nat)
  | sort
deriving DecidableEq, Repr

/-- The member that an escape is, if it may be one. -/
def Escape.member? (m : Mode) : Escape → Option Member
  | literal n _ => if m.unicode || n < 0x80 then some (.literal n) else none
  | border => none
  | wordBound => none
  | sort negated => if m.unicode || !negated then some .sort else none
  | category => if m.unicode then some .sort else none

/-- The member at the start of a text, and the rest. -/
def member? (m : Mode) : List Char → Option (Member × List Char)
  | [] => none
  | '\\' :: rest =>
    (escape? m rest).bind fun (e, rest) => (e.member? m).map fun member => (member, rest)
  | c :: rest => if m.unicode || c.toNat < 0x80 then some (.literal c.toNat, rest) else none

/-- What follows the member or range at the start of a text. -/
def range? (m : Mode) (cs : List Char) : Option (List Char) :=
  (member? m cs).bind fun (first, rest) =>
    match m.next rest with
    | [] => none
    | '-' :: more =>
      if m.afterDash? more == some ']' || m.afterDash? more == some '-' then some ('-' :: more)
      else
        (member? m (m.next more)).bind fun (last, rest) =>
          match first, last with
          | .literal a, .literal b => if a ≤ b then some rest else none
          | _, _ => none
    | rest => some rest

/-- The names of the classes of ASCII characters. -/
def asciiClasses : List String :=
  ["alnum", "alpha", "ascii", "blank", "cntrl", "digit", "graph", "lower", "print", "punct",
    "space", "upper", "word", "xdigit"]

/-- Whether a class by name follows an opening bracket, negated or not, and the rest. -/
def asciiClass? : List Char → Option (Bool × List Char)
  | ':' :: cs =>
    let (negated, cs) :=
      match cs with
      | '^' :: rest => (true, rest)
      | rest => (false, rest)
    let (name, rest) := (cs.takeWhile (· != ':'), cs.dropWhile (· != ':'))
    match rest with
    | ':' :: ']' :: rest =>
      if String.ofList name ∈ asciiClasses then some (negated, rest) else none
    | _ => none
  | _ => none

/-- What has been read of a class: how deep the operations to the left nest, if there are any, how
many members there are after them, and how deep these nest. -/
structure Members where
  /-- The depth of what stands before the last operator. -/
  left : Option Nat := none
  /-- The number of members since. -/
  count : Nat := 0
  /-- The depth of the deepest of them. -/
  deepest : Nat := 0
deriving DecidableEq, Repr

namespace Members

/-- One more member of some depth. -/
def add (depth : Nat) (ms : Members) : Members :=
  { ms with count := ms.count + 1, deepest := max ms.deepest depth }

/-- The depth of all. -/
def depth (ms : Members) : Nat :=
  let union := if ms.count ≤ 1 then ms.deepest else ms.deepest + 1
  ms.left.elim union fun left => max left union + 1

/-- An operator after the members. -/
def operator (ms : Members) : Members := { left := some ms.depth }

end Members

/-- The dashes at the start of a class stand for themselves. The number bounds the steps. -/
def leadingDashes? (m : Mode) : Nat → Members → List Char → Option (Members × List Char)
  | 0, _, _ => none
  | fuel + 1, ms, '-' :: rest =>
    match m.next rest with
    | [] => none
    | rest => leadingDashes? m fuel (ms.add 0) rest
  | _ + 1, ms, cs => some (ms, cs)

/-- The members at the start of a class, after its bracket: a circumflex negates the class, which
only classes of characters can be, and a closing bracket in the first place stands for itself. -/
def classStart? (m : Mode) (cs : List Char) : Option (Members × List Char) :=
  let cs := m.next cs
  let (negated, cs) :=
    match cs with
    | '^' :: rest => (true, m.next rest)
    | rest => (false, rest)
  if negated && !m.unicode then none
  else
    (leadingDashes? m (cs.length + 1) {} cs).map fun (ms, rest) =>
      match rest with
      | ']' :: more => if ms.count == 0 then (ms.add 0, m.next more) else (ms, rest)
      | _ => (ms, rest)

/-- The depth of a class, of which some members have been read and which stands in other ones, and
what follows the outermost. The number bounds the steps. -/
def class? (m : Mode) : Nat → Members → List Members → List Char → Option (Nat × List Char)
  | 0, _, _, _ => none
  | fuel + 1, ms, outer, cs =>
    match m.next cs with
    | [] => none
    | '[' :: rest =>
      match asciiClass? rest with
      | some (negated, rest) =>
        if negated && !m.unicode then none else class? m fuel (ms.add 0) outer rest
      | none =>
        (classStart? m rest).bind fun (inner, rest) => class? m fuel inner (ms :: outer) rest
    | ']' :: rest =>
      match outer with
      | [] => some (ms.depth + 1, rest)
      | o :: os => class? m fuel (o.add (ms.depth + 1)) os rest
    | '&' :: '&' :: rest => class? m fuel ms.operator outer rest
    | '-' :: '-' :: rest => class? m fuel ms.operator outer rest
    | '~' :: '~' :: rest => class? m fuel ms.operator outer rest
    | cs => (range? m cs).bind fun rest => class? m fuel (ms.add 0) outer rest

/-! ## Groups -/

/-- The name of a group up to its closing angle bracket, and the rest. -/
def groupName? (cs : List Char) : Option (List Char × List Char) :=
  let (name, rest) := (cs.takeWhile (· != '>'), cs.dropWhile (· != '>'))
  match name, rest with
  | c :: more, _ :: rest =>
    if (c == '_' || Text.isAlphabetic c) &&
        more.all fun c => c ∈ ['_', '.', '[', ']'] || Text.isAlphanumeric c then
      some (name, rest)
    else none
  | _, _ => none

/-- The flags of a group up to its colon or closing bracket, and the rest from there. No flag may
stand twice, and the dash that unsets flags must have some after it. -/
def flags? (seen : List Char) : List Char → Option (List Char × List Char)
  | [] => none
  | c :: cs =>
    if c == ':' || c == ')' then
      if seen.getLast? == some '-' then none else some (seen, c :: cs)
    else if c ∈ ['i', 'm', 's', 'U', 'u', 'R', 'x', '-'] && !seen.contains c then
      flags? (seen ++ [c]) cs
    else none

/-- What flags say about one of them. -/
def flagState? (flags : List Char) (flag : Char) : Option Bool :=
  if flags.contains flag then some (!(flags.takeWhile (· != flag)).contains '-') else none

/-- The mode after flags. -/
def Mode.set (m : Mode) (flags : List Char) : Mode where
  spaced := (flagState? flags 'x').getD m.spaced
  unicode := (flagState? flags 'u').getD m.unicode

/-- What an opening bracket begins. -/
inductive Opening where
  /-- A group, its mode, and its name if it has one. -/
  | group (mode : Mode) (name : Option (List Char))
  /-- Nothing: the mode is another one from here on. -/
  | setting (mode : Mode)
deriving DecidableEq, Repr

/-- A group with a name. -/
def named? (m : Mode) (cs : List Char) : Option (Opening × List Char) :=
  (groupName? cs).map fun (name, rest) => (.group m (some name), rest)

/-- What an opening bracket begins, and the rest. -/
def opening? (m : Mode) (cs : List Char) : Option (Opening × List Char) :=
  match m.next cs with
  | '?' :: 'P' :: '<' :: rest => named? m rest
  | '?' :: '<' :: rest => named? m rest
  | '?' :: rest =>
    (flags? [] rest).bind fun (flags, rest) =>
      match rest with
      | ':' :: rest => some (.group (m.set flags) none, rest)
      | _ :: rest => if flags.isEmpty then none else some (.setting (m.set flags), rest)
      | [] => none
  | rest => some (.group m none, rest)

/-! ## Expressions -/

/-- What has been read of a group: how deep its parts nest, and whether the last one may be
repeated. -/
structure Parts where
  /-- The depth of the finished alternatives, if there are any. -/
  alternatives : Option Nat := none
  /-- The number of parts of the current alternative. -/
  count : Nat := 0
  /-- The depth of the parts before the last one. -/
  before : Nat := 0
  /-- The depth of the last part. -/
  last : Nat := 0
  /-- Whether the last part may be repeated. -/
  repeatable : Bool := false
deriving DecidableEq, Repr

namespace Parts

/-- One more part of some depth. -/
def add (depth : Nat) (ps : Parts) : Parts :=
  { ps with
    count := ps.count + 1
    before := max ps.before ps.last
    last := depth
    repeatable := true }

/-- One more part that is no expression. -/
def addSetting (ps : Parts) : Parts := { ps.add 0 with repeatable := false }

/-- The last part repeated, if it may be. -/
def repeat? (ps : Parts) : Option Parts :=
  if ps.repeatable then some { ps with last := ps.last + 1 } else none

/-- The depth of the current alternative. -/
def branchDepth (ps : Parts) : Nat :=
  if ps.count ≤ 1 then ps.last else max ps.before ps.last + 1

/-- The end of an alternative. -/
def alternate (ps : Parts) : Parts :=
  { alternatives := some (ps.alternatives.elim ps.branchDepth (max ps.branchDepth)) }

/-- The depth of all. -/
def depth (ps : Parts) : Nat :=
  ps.alternatives.elim ps.branchDepth fun others => max others ps.branchDepth + 1

end Parts

/-- A group that has been opened: the mode around it, and what stands before it in the group
around it. -/
structure Around where
  /-- The mode around the group. -/
  mode : Mode
  /-- What stands before the group. -/
  parts : Parts
deriving DecidableEq, Repr

/-- What follows a sign of repetition; a question mark after it says that few repetitions are
preferred. -/
def dropLazy : List Char → List Char
  | '?' :: rest => rest
  | rest => rest

/-- The depth of an expression, of which some parts have been read in open groups, if it is well
formed; `names` are those of its groups so far. The number bounds the steps. -/
def depth? : Nat → Mode → Parts → List Around → List (List Char) → List Char → Option Nat
  | 0, _, _, _, _, _ => none
  | fuel + 1, m, ps, around, names, cs =>
    match m.next cs with
    | [] => if around.isEmpty then some ps.depth else none
    | c :: rest =>
      if c == '(' then
        (opening? m rest).bind fun (opening, rest) =>
          match opening with
          | .setting mode => depth? fuel mode ps.addSetting around names rest
          | .group mode name =>
            if name.any names.contains then none
            else depth? fuel mode {} (⟨m, ps⟩ :: around) (name.toList ++ names) rest
      else if c == ')' then
        match around with
        | [] => none
        | a :: as => depth? fuel a.mode (a.parts.add (ps.depth + 1)) as names rest
      else if c == '|' then depth? fuel m ps.alternate around names rest
      else if c == '?' || c == '*' || c == '+' then
        ps.repeat?.bind fun ps => depth? fuel m ps around names (dropLazy rest)
      else if c == '[' then
        (classStart? m rest).bind fun (ms, rest) =>
          (class? m (rest.length + 1) ms [] rest).bind fun (depth, rest) =>
            depth? fuel m (ps.add depth) around names rest
      else if c == '\\' then
        (escape? m rest).bind fun (e, rest) =>
          if e.isPart m then depth? fuel m (ps.add 0) around names rest else none
      else if c == '\x7b' || (c == '.' && !m.unicode) then none
      else depth? fuel m (ps.add 0) around names rest

/-- Whether a text is a regular expression. -/
def isExpression (cs : List Char) : Bool :=
  (depth? (cs.length + 1) {} {} [] [] cs).any fun depth => depth ≤ 250

/-! ## Numbers -/

/-- Whether a text is empty or a power of ten after its mark. -/
def isPower : List Char → Bool
  | [] => true
  | c :: cs =>
    let ds :=
      match cs with
      | '+' :: ds => ds
      | '-' :: ds => ds
      | ds => ds
    (c == 'e' || c == 'E') && !ds.isEmpty && ds.all Char.isDigit

/-- Whether a text is a number without a sign: digits with or without a point and a power of ten, or
a word for infinity or no number. -/
def isNumber (cs : List Char) : Bool :=
  let (whole, rest) := (cs.takeWhile Char.isDigit, cs.dropWhile Char.isDigit)
  let (fraction, rest) :=
    match rest with
    | '.' :: ds => (ds.takeWhile Char.isDigit, ds.dropWhile Char.isDigit)
    | ds => ([], ds)
  (!(whole.isEmpty && fraction.isEmpty) && isPower rest) ||
    String.ofList (cs.map Char.toLower) ∈ ["inf", "infinity", "nan"]

/-- Whether a field can ask for what a text says. Truth values and numbers are regular expressions
too, but for numbers with a plus sign. -/
def isValue : List Char → Bool
  | '+' :: cs => isNumber cs
  | cs => isExpression cs

end Cadastre.Log.Pattern
