import Cadastre.Decode.Failure
import Cadastre.Json.Basic
import Cadastre.Time.Reader

/-!
# Reading values of a known shape

Saved values come in several formats, and what is read from them is the same in all. A format says
how its values present themselves as strings, numbers, lists, choices and records; the functions
here read lists and records from any format. A record is read entry by entry in the order of the
text, and the first thing that is wrong is reported. Where a part of a text can stand for another
part, a reader may follow only so many of these references.
-/

namespace Cadastre

/-- A value that is read, or why it is refused. The state is the number of references that may still
be followed. -/
abbrev Decoding (α : Type) := StateT Nat Decoded α

/-- A value, or a refusal, that needs no reference. -/
def Decoded.plain {α : Type} (d : Decoded α) : Decoding α := fun budget => d.map (·, budget)

/-- The outcome of reading with a number of references that may be followed. -/
def Decoding.within {α : Type} (budget : Nat) (d : Decoding α) : Decoded α :=
  (d budget).map Prod.fst

/-- A refusal because of a wrong shape. -/
def Decoding.refuse {α : Type} (m : Mismatch) : Decoding α := Decoded.plain (Cadastre.refuse m)

/-- A refusal. -/
def Decoding.fail {α : Type} (f : Failure) : Decoding α := Decoded.plain (.error f)

/-- A list as a format presents it. -/
structure Items (σ : Type) where
  /-- The items. -/
  list : List σ
  /-- What is wrong after the last item, if anything. -/
  fault : Option Failure

/-- A record as a format presents it. -/
inductive Entries (σ : Type) where
  /-- Values under keys, and what is wrong after the last one, if anything. -/
  | named (members : List (σ × σ)) (fault : Option Failure)
  /-- Values in the order of the fields, and how it is refused if there are more than fields. -/
  | positional (items : Items σ) (surplus : Failure)

/-- A format of saved values. -/
class Source (σ : Type) where
  /-- A string; the first argument says what was expected. -/
  text : String → σ → Decoding String
  /-- A truth value. -/
  bool : σ → Decoding Bool
  /-- A natural number below a bound; the first argument says what was expected. -/
  natural : String → Nat → σ → Decoding Nat
  /-- The value, unless it stands for nothing. -/
  optional : σ → Decoding (Option σ)
  /-- A list. -/
  items : σ → Decoding (Items σ)
  /-- A record; the first argument says what was expected. -/
  entries : String → σ → Decoding (Entries σ)
  /-- The name that the key of a record is. -/
  key : σ → Decoding String
  /-- One of some names. -/
  choice : List String → σ → Decoding String
  /-- Any value. -/
  any : σ → Decoding Json
  /-- Nothing, if the value is well formed. -/
  ignore : σ → Decoding Unit
  /-- The outcome of reading the value, a failure without a place getting the place of the value. -/
  located : {α : Type} → σ → Decoding α → Decoding α

namespace Decode

variable {σ α β : Type} [Source σ]

/-- The outcome, unless there is a fault. -/
def faultless (fault : Option Failure) (value : α) : Decoding α :=
  match fault with
  | some f => .fail f
  | none => pure value

/-- A string. -/
def string (s : σ) : Decoding String := Source.text "a string" s

/-- A path. -/
def path (s : σ) : Decoding String := Source.text "path string" s

/-- A status of an HTTP answer. -/
def status (s : σ) : Decoding UInt16 := UInt16.ofNat <$> Source.natural "u16" (Nat.pow 2 16) s

/-- An instant. -/
def instant (s : σ) : Decoding Instant := do
  match Instant.ofString? (← Source.text "an RFC 3339 formatted date and time string" s) with
  | some i => pure i
  | none => .fail (.malformed "invalid timestamp")

/-- A value that may stand for nothing. -/
def optional (read : σ → Decoding α) (s : σ) : Decoding (Option α) := do
  match ← Source.optional s with
  | none => pure none
  | some s => some <$> read s

/-- A list. -/
def list (read : σ → Decoding α) (s : σ) : Decoding (List α) := do
  let items ← Source.items s
  Source.located s (items.list.mapM read >>= faultless items.fault)

/-- One of some values by its name. -/
def oneOf (name : α → String) (values : List α) (s : σ) : Decoding α := do
  let n ← Source.choice (values.map name) s
  match values.find? fun v => name v == n with
  | some v => pure v
  | none => .refuse (.unknownVariant n (values.map name))

/-! ## Records -/

/-- A field of a record that is read into values of `α`. -/
structure Field (σ α : Type) where
  /-- The name. -/
  name : String
  /-- Whether it must be there. -/
  required : Bool
  /-- The record with the field read from a saved value. -/
  put : σ → α → Decoding α

/-- A field that must be there. -/
def field (name : String) (read : σ → Decoding β) (set : β → α → α) : Field σ α :=
  ⟨name, true, fun s a => (set · a) <$> read s⟩

/-- A field that may be left out. -/
def optionalField (name : String) (read : σ → Decoding β) (set : β → α → α) : Field σ α :=
  { field name read set with required := false }

/-- A kind of record: its name, its fields, whether other fields are refused, and the record before
any field is read. -/
structure Shape (σ α : Type) where
  /-- The name. -/
  name : String
  /-- The fields. -/
  fields : List (Field σ α)
  /-- Whether other fields are refused. -/
  strict : Bool := false
  /-- The record before any field is read. -/
  blank : α

/-- The record after named values, and the names of the fields that were among them. -/
def putNamed (shape : Shape σ α) (fault : Option Failure) :
    List (σ × σ) → List String → α → Decoding (List String × α)
  | [], seen, a => faultless fault (seen, a)
  | (key, s) :: rest, seen, a => do
    let name ← Source.key key
    match shape.fields.find? fun f => f.name == name with
    | some f =>
      if seen.contains name then .refuse (.duplicateField name)
      else
        let a ← f.put s a
        putNamed shape fault rest (name :: seen) a
    | none =>
      if shape.strict then
        Source.located key (.refuse (.unknownField name (shape.fields.map Field.name)))
      else
        Source.ignore s
        putNamed shape fault rest seen a

/-- The record, if every field that must be there has been seen. -/
def complete (shape : Shape σ α) (seen : List String) (a : α) : Decoding α :=
  match shape.fields.find? fun f => f.required && !seen.contains f.name with
  | some f => .refuse (.missingField f.name)
  | none => pure a

/-- The record after values in the order of the fields; `n` fields have been read before. -/
def putPositional (shape : Shape σ α) (items : Items σ) (surplus : Failure) :
    List (Field σ α) → List σ → Nat → α → Decoding α
  | [], [], _, a => faultless items.fault a
  | [], _ :: _, _, _ => .fail surplus
  | f :: fs, s :: ss, n, a => f.put s a >>= putPositional shape items surplus fs ss (n + 1)
  | f :: fs, [], n, a =>
    match items.fault with
    | some e => .fail e
    | none =>
      if f.required then
        .refuse (.invalidLength n s!"struct {shape.name} with {shape.fields.length} elements")
      else putPositional shape items surplus fs [] (n + 1) a

/-- A record. -/
def record (shape : Shape σ α) (s : σ) : Decoding α := do
  let entries ← Source.entries s!"struct {shape.name}" s
  Source.located s <|
    match entries with
    | .named members fault => do
      let (seen, a) ← putNamed shape fault members [] shape.blank
      complete shape seen a
    | .positional items surplus =>
      putPositional shape items surplus shape.fields items.list 0 shape.blank

end Decode

end Cadastre
