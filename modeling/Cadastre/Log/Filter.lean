import Cadastre.Log.Entry
import Cadastre.Log.Pattern
import Cadastre.Text.Blank
import Cadastre.Text.Case
import Cadastre.Text.Position
import Cadastre.Text.Search
import Cadastre.Text.Word

/-!
# Choosing what is logged

A filter is a list of directives between commas. A directive says from which level on the entries of
a part of the program are logged: `part=level`, a level alone for all parts, or a part alone for all
of its entries. In brackets a directive can also name a span and fields with their values. The most
specific directive that fits an entry decides: the one with the longest part, and of those the one
with the most fields.
-/

namespace Cadastre.Log

/-- A directive. -/
structure Directive where
  /-- How talkative the entries may be: zero is silence. -/
  rank : Nat
  /-- What the part of the program must begin with, if anything. -/
  target : Option String := none
  /-- Fields that the entry must have. -/
  fields : List String := []
  /-- Whether it holds within spans or for values of fields only, which no entry here has. -/
  narrow : Bool := false
deriving DecidableEq, Repr

/-! ## Reading a directive -/

/-- The rank of a level by its name, in any case of its letters, or by its number. -/
def rankNamed? (name : String) : Option Nat :=
  match Text.natural64? name.toList with
  | some n => if n ≤ Level.trace.rank then some n else none
  | none =>
    if Text.sameAsciiWord name "off" then some 0
    else
      ([Level.error, .warn, .info, .debug, .trace].find? fun l =>
        Text.sameAsciiWord name l.name).map Level.rank

/-- Why a text holds no filter. -/
inductive FilterFault where
  /-- A directive is not well formed. -/
  | malformed
  /-- A piece of a directive would begin or end inside a character. -/
  | torn
deriving DecidableEq, Repr

/-- Which part of a directive is being read, and at which byte it starts. -/
inductive DirectiveState where
  /-- Nothing has been read. -/
  | start
  /-- A level or a part of the program. -/
  | levelOrTarget (first : Nat)
  /-- The name of a span. -/
  | span (first : Nat)
  /-- A field. -/
  | field (first : Nat)
  /-- The end of the fields. -/
  | fields
  /-- The end of the brackets. -/
  | brackets
  /-- A level. -/
  | level (first : Nat)
deriving DecidableEq, Repr

/-- A piece of a directive, if there is one between its places. -/
def pieceOf (chars : Option (List Char)) : Except FilterFault String :=
  match chars with
  | some cs => .ok (String.ofList cs)
  | none => .error .torn

/-- The piece of a text between two places. -/
def piece (text : List Char) (first last : Nat) : Except FilterFault String :=
  pieceOf (Text.slice? first last text)

/-- The piece of a text from a place on. -/
def pieceFrom (text : List Char) (first : Nat) : Except FilterFault String :=
  pieceOf (Text.dropBytes? first text)

/-- Whether a directive can begin with a character. -/
def startsDirective (c : Char) : Bool :=
  c == '-' || c == ':' || c == '_' || Text.isAlphanumeric c

/-- A directive with a span, if one is named. -/
def Directive.withSpan (d : Directive) (name : String) : Directive :=
  { d with narrow := d.narrow || !name.isEmpty }

/-- A directive with a field, which may have a value after an equals sign. -/
def Directive.withField (d : Directive) (text : String) : Except FilterFault Directive :=
  match Text.splitAt (· == '=') text.toList with
  | name :: values =>
    if text.isEmpty || !values.head?.all Pattern.isValue then .error .malformed
    else
      .ok { d with
        fields := d.fields ++ [String.ofList name]
        narrow := d.narrow || !values.isEmpty }
  | [] => .error .malformed

/-- The state and the directive after a character at a place of a text. -/
def Directive.step (text : List Char) (place : Nat) (c : Char) :
    DirectiveState × Directive → Except FilterFault (DirectiveState × Directive)
  | (.start, d) =>
    if c == '[' then .ok (.span (place + 1), d)
    else if startsDirective c then .ok (.levelOrTarget place, d)
    else .error .malformed
  | (.levelOrTarget first, d) =>
    if c == '=' then do
      let target ← piece text first place
      .ok (.level (place + 1), { d with target := some target })
    else if c == '[' then do
      let target ← piece text first place
      .ok (.span (place + 1), { d with target := some target })
    else .ok (.levelOrTarget first, d)
  | (.span first, d) =>
    if c == ']' then do
      let _ ← piece text first place
      .ok (.brackets, { d with narrow := true })
    else if c == '\x7b' then do
      let name ← piece text first place
      .ok (.field (place + 1), d.withSpan name)
    else .ok (.span first, d)
  | (.field first, d) =>
    if c == '\x7d' then do
      let field ← piece text first place
      let d ← d.withField field
      .ok (.fields, d)
    else .ok (.field first, d)
  | (.fields, d) => if c == ']' then .ok (.brackets, d) else .error .malformed
  | (.brackets, d) => if c == '=' then .ok (.level (place + 1), d) else .error .malformed
  | (.level first, d) => .ok (.level first, d)

/-- The state and the directive after characters from a place on. -/
def Directive.steps (text : List Char) :
    Nat → List Char → DirectiveState × Directive → Except FilterFault (DirectiveState × Directive)
  | _, [], s => .ok s
  | place, c :: cs, s =>
    (Directive.step text place c s).bind fun s => Directive.steps text (place + c.utf8Size) cs s

/-- The directive at the end of a text. A level alone holds for all parts, and a part alone for all
levels. -/
def Directive.finish (text : List Char) :
    DirectiveState × Directive → Except FilterFault Directive
  | (.levelOrTarget first, d) => do
    let name ← pieceFrom text first
    match rankNamed? name with
    | some rank => .ok { d with rank := rank }
    | none => .ok (if name.isEmpty then d else { d with target := some name })
  | (.level first, d) => do
    let name ← pieceFrom text first
    match rankNamed? name with
    | some rank => .ok { d with rank := rank }
    | none => if name.isEmpty then .ok d else .error .malformed
  | (.brackets, d) => .ok d
  | _ => .error .malformed

/-- The directive that a text holds. Its characters are read without the blank ones around them,
but their places are counted from the first one that is read, so that blank characters at the
start shift the pieces of the text. -/
def Directive.ofText (text : List Char) : Except FilterFault Directive :=
  (Directive.steps text 0 (Text.trim text) (.start, { rank := Level.trace.rank })).bind
    (Directive.finish text)

/-! ## Filters -/

/-- The order of directives: whether one is more specific than another, with the text of the part
and of the fields deciding between those that are equally specific. -/
def Directive.before (a b : Directive) : Bool :=
  let size := fun d : Directive => d.target.elim 0 fun t => t.utf8ByteSize + 1
  if size a != size b then size b < size a
  else if a.fields.length != b.fields.length then b.fields.length < a.fields.length
  else if a.target != b.target then b.target.getD "" < a.target.getD ""
  else decide (b.fields < a.fields)

/-- Directives with one put in its place; it replaces one that fits the same entries. -/
def insertDirective (d : Directive) : List Directive → List Directive
  | [] => [d]
  | e :: rest =>
    if d.target == e.target && d.fields == e.fields then d :: rest
    else if d.before e then d :: e :: rest
    else e :: insertDirective d rest

/-- A choice of entries. -/
structure Filter where
  /-- The directives, the most specific one first. -/
  directives : List Directive
deriving DecidableEq, Repr

namespace Filter

/-- The filter of all entries up to a level. -/
def upTo (level : Level) : Filter := ⟨[{ rank := level.rank }]⟩

/-- The filter of some directives: those with fields come after those without, and if there are
none at all, only errors are logged. -/
def ofDirectives (directives : List Directive) : Filter :=
  if directives.isEmpty then upTo .error
  else
    let (plain, withFields) :=
      (directives.filter fun d => !d.narrow).partition fun d => d.fields.isEmpty
    ⟨(plain ++ withFields).foldl (fun ds d => insertDirective d ds) []⟩

/-- The filter that a text holds; the first directive with a fault decides what is wrong with it. -/
def ofText (text : String) : Except FilterFault Filter :=
  let pieces := (Text.splitAt (· == ',') text.toList).filter fun piece => !piece.isEmpty
  (pieces.mapM Directive.ofText).map ofDirectives

/-- Whether a directive is about an entry. -/
def concerns (d : Directive) (e : Entry) : Bool :=
  (d.target.all fun t => t.toList.isPrefixOf e.target.toList) &&
    d.fields.all fun name => name == "message" || e.fields.any fun f => f.1 == name

/-- Whether an entry is logged. -/
def admits (f : Filter) (e : Entry) : Bool :=
  (f.directives.find? fun d => concerns d e).any fun d => e.level.rank ≤ d.rank

end Filter

end Cadastre.Log
