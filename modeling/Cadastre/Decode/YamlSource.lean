import Cadastre.Decode.Source
import Cadastre.Yaml.Node
import Cadastre.Yaml.Plain

/-!
# Reading records from YAML

A node is read together with its place in the document, which failures name: a key after the place
of its mapping and a point, an index in brackets after the place of its sequence. Strings may have
any style, truth values and numbers are plain scalars, a record is a mapping, and one of some names
is a scalar or a tag. An alias is read as the node it stands for, on the way of the alias.
-/

namespace Cadastre.Yaml

/-- A fault as a failure. -/
def Fault.failure (f : Fault) : Failure := .malformed f.text

/-- A node in its document. -/
structure Place where
  /-- The nodes that aliases stand for. -/
  anchored : List Anchored
  /-- Why the document is refused where it is not well formed. -/
  unformed : Failure
  /-- How many levels of collections may still be opened. -/
  depth : Nat
  /-- Where the node stands; the root is a point. -/
  path : String
  /-- The node. -/
  node : Node

/-- The node that an alias stands for: of the nodes with its number the last one. -/
def target (anchored : List Anchored) (number : Nat) : Node :=
  let pick := fun (best : Option Anchored) (a : Anchored) =>
    if a.number == number && best.all fun b => b.serial < a.serial then some a else best
  match anchored.foldl pick none with
  | some a => a.node
  | none => .broken

namespace Place

/-- The place with an alias replaced by the node it stands for. -/
def resolved (p : Place) : Place :=
  match p.node with
  | .alias _ number => { p with node := target p.anchored number }
  | _ => p

/-- The place with an alias replaced by the node it stands for, as one of the references that may be
followed. -/
def follow (p : Place) : Decoding Place := fun budget =>
  match p.node, budget with
  | .alias _ _, 0 => .error (.malformed "repetition limit exceeded")
  | .alias _ _, budget + 1 => .ok (p.resolved, budget)
  | _, budget => .ok (p, budget)

/-- Whether the node is an alias. -/
def isAlias (p : Place) : Bool :=
  match p.node with
  | .alias _ _ => true
  | _ => false

/-- How the node is named in a failure. -/
def location (p : Place) : Location := ⟨p.path, p.node.mark⟩

/-- The failure of a collection that is too deep in others. -/
def tooDeep (p : Place) : Failure := .malformed ("recursion limit exceeded" ++ p.node.mark.suffix)

/-- The place of an item. -/
def item (p : Place) (index : Nat) (node : Node) : Place :=
  { p with path := s!"{p.path}[{index}]", node, depth := p.depth - 1 }

/-- The place of a key. -/
def key (p : Place) (node : Node) : Place := { p with node }

/-- The place of a value under a key; a key that is no scalar is not named. -/
def value (p : Place) (key : Node) (node : Node) : Place :=
  let above := if p.path == "." then "" else p.path ++ "."
  let name :=
    match key with
    | .scalar _ _ _ text => text
    | _ => "?"
  { p with path := above ++ name, node, depth := p.depth - 1 }

end Place

/-! ## Scalars -/

/-- The tag of a truth value. -/
def boolTag : Tag := ⟨"tag:yaml.org,2002:bool", true⟩

/-- The tag of a whole number. -/
def intTag : Tag := ⟨"tag:yaml.org,2002:int", true⟩

/-- The tag of a number with a fraction. -/
def floatTag : Tag := ⟨"tag:yaml.org,2002:float", true⟩

/-- The tag of null. -/
def nullTag : Tag := ⟨"tag:yaml.org,2002:null", true⟩

/-- What a scalar stands for; `none` for its text. A tag that does not fit the text is refused. -/
def scalarMeaning (tag : Option Tag) (style : Style) (text : String) : Decoded Plain :=
  let misfit := fun (expected : String) => refuse (.invalidValue (.string text) expected)
  if tag == some boolTag then
    match Plain.bool? text with
    | some b => .ok (.bool b)
    | none => misfit "a boolean"
  else if tag == some intTag then
    match Plain.whole? text with
    | some p => .ok p
    | none => misfit "an integer"
  else if tag == some floatTag then
    match Plain.float? text with
    | some p => .ok p
    | none => misfit "a float"
  else if tag == some nullTag then
    if Plain.isNull text then .ok .null else misfit "null"
  else if style == .plain && tag.all Tag.isLocal then .ok (Plain.ofString text)
  else .ok .text

/-- What a scalar is called where something else was expected. -/
def foundOf (text : String) : Plain → Found
  | .null => .nothing "unit value"
  | .bool b => .bool b
  | .natural n => .integer n
  | .negative n => .integer n
  | .wideNatural n => .wide n "u128"
  | .wideNegative n => .wide n "i128"
  | .real x => .real (x.text NumberStyle.positional)
  | .infinity negative => .real (if negative then "-inf" else "inf")
  | .notANumber => .real "NaN"
  | .text => .string text

/-- A refusal of the node at a place where something else was expected. -/
def unexpected {α : Type} (expected : String) (p : Place) : Decoded α :=
  match p.node with
  | .scalar _ tag style text =>
    (scalarMeaning tag style text).bind fun p => refuse (.invalidType (foundOf text p) expected)
  | .sequence _ _ _ _ => refuse (.invalidType .sequence expected)
  | .mapping _ _ _ _ => refuse (.invalidType .map expected)
  | .absent _ => .error (.malformed "EOF while parsing a value")
  | _ => .error p.unformed

/-- Whether a scalar may be read as a truth value or number: it is plain, or a literal block with
the tag for it. -/
def isBare (tag : Tag) (given : Option Tag) (style : Style) : Bool :=
  style == .plain || (style == .literal && given == some tag)

/-- A string. -/
def readText (expected : String) (p : Place) : Decoded String :=
  match p.node with
  | .scalar _ _ _ text => .ok text
  | _ => unexpected expected p

/-- A truth value. -/
def readBool (p : Place) : Decoded Bool :=
  match p.node with
  | .scalar _ tag style text =>
    match if isBare boolTag tag style then Plain.bool? text else none with
    | some b => .ok b
    | none => unexpected "a boolean" p
  | _ => unexpected "a boolean" p

/-- A natural number below a bound. -/
def readNatural (expected : String) (bound : Nat) (p : Place) : Decoded Nat :=
  match p.node with
  | .scalar _ tag style text =>
    match if isBare intTag tag style then Plain.natural? text.toList else none with
    | some k =>
      if k < bound then .ok k
      else if k < Nat.pow 2 64 then refuse (.invalidValue (.integer k) expected)
      else unexpected expected p
    | none => unexpected expected p
  | _ => unexpected expected p

/-- Whether a node stands for nothing. -/
def isNothing : Node → Decoded Bool
  | .absent _ => .ok true
  | .scalar _ tag style text =>
    if style != .plain then .ok false
    else if tag == some nullTag then
      if Plain.isNull text then .ok true else refuse (.invalidValue (.string text) "null")
    else if tag.isSome then .ok false
    else .ok (text.isEmpty || Plain.isNull text)
  | _ => .ok false

/-- Whether a node may stand for an empty collection. -/
def isVoid : Node → Bool
  | .absent _ => true
  | .scalar _ _ .plain text => text.isEmpty
  | _ => false

/-! ## Collections and choices -/

/-- The failure after the last part of a collection. -/
def Place.failureOf (closed : Bool) (p : Place) : Option Failure :=
  if closed then none else some p.unformed

/-- The items of a sequence with their places. -/
def itemsAt (p : Place) : Nat → List Node → List Place
  | _, [] => []
  | i, n :: ns => p.item i n :: itemsAt p (i + 1) ns

/-- One of some names. -/
def checkChoice (names : List String) (name : String) : Decoded String :=
  if names.contains name then .ok name else refuse (.unknownVariant name names)

/-- A refusal of the content behind a tag that is one of some names, unless it is nothing. -/
def emptyContent (p : Place) : Decoded Unit :=
  match p.node with
  | .scalar _ _ style text =>
    if style == .plain && (text.isEmpty || Plain.isNull text) then .ok ()
    else refuse (.invalidValue (.string text) "null")
  | _ => unexpected "unit" p

/-- The outcome, a failure without a place getting this one. -/
def locatedAt {α : Type} (place : Location) : Decoded α → Decoded α
  | .ok a => .ok a
  | .error f => .error (f.locate place)

/-- One of some names: the text of a scalar, or the name of a tag with nothing behind it. A tag
that is none of the names has no place yet. -/
def readChoice (names : List String) (p : Place) : Decoded String :=
  let (tag, untagged) : Option Tag × Decoded String :=
    match p.node with
    | .scalar _ tag _ text => (tag, checkChoice names text)
    | .sequence _ tag _ _ =>
      (tag, refuse (.invalidType .sequence "a YAML tag starting with '!'"))
    | .mapping _ tag _ _ => (tag, refuse (.invalidType .map "a YAML tag starting with '!'"))
    | _ => (none, unexpected "one of some names" p)
  match tag.bind Tag.name? with
  | some name =>
    (checkChoice names name).bind fun name =>
      locatedAt p.location ((emptyContent p).map fun () => name)
  | none => locatedAt p.location untagged

/-! ## Any value -/

/-- A refusal of a tag before a value of any kind. -/
def refuseTag (tag : Option Tag) : Decoded Unit :=
  if (tag.bind Tag.name?).isSome then refuse (.invalidType .choice "any valid JSON value")
  else .ok ()

/-- The value of a scalar; infinities and what is no number count as null. -/
def scalarValue (tag : Option Tag) (style : Style) (text : String) : Decoded Json := do
  refuseTag tag
  match ← scalarMeaning tag style text with
  | .null => .ok .null
  | .bool b => .ok (.bool b)
  | .natural n => .ok (.number (.whole n))
  | .negative n => .ok (.number (.whole n))
  | .wideNatural _ => .error (.malformed "JSON number out of range")
  | .wideNegative _ => .error (.malformed "JSON number out of range")
  | .real x => .ok (.number (.real x))
  | .infinity _ => .ok .null
  | .notANumber => .ok .null
  | .text => .ok (.text text)

/-- The outcome of reading, a failure without a place getting that of the node, or of the node that
it stands for. -/
def Place.located {α : Type} (p : Place) (d : Decoding α) : Decoding α := fun budget =>
  locatedAt p.resolved.location (d budget)

/-- The string at a place. -/
def Place.readText (expected : String) (p : Place) : Decoding String := do
  let q ← p.follow
  q.located (Yaml.readText expected q).plain

/-- The values of a list of entries under their keys, which must be scalars. -/
def anyEntries (read : Place → Decoding Json) (p : Place) (expected : String) :
    List (Node × Node) → Decoding (List (String × Json))
  | [] => pure []
  | (k, v) :: rest => do
    let name ← (p.key k).readText expected
    let x ← read (p.value k v)
    let members ← anyEntries read p "a string" rest
    pure ((name, x) :: members)

/-- A value. The number bounds the levels of collections. -/
def anyValue : Nat → Place → Decoding Json
  | 0, p => .fail p.tooDeep
  | fuel + 1, p => do
    let q ← p.follow
    match q.node with
    | .absent _ => pure .null
    | .scalar _ tag style text => q.located (scalarValue tag style text).plain
    | .sequence _ tag items closed =>
      q.located (refuseTag tag).plain
      if q.depth == 0 then .fail q.tooDeep
      else
        let values ← q.located ((itemsAt q 0 items).mapM (anyValue fuel))
        if closed then pure (.array values) else .fail q.unformed
    | .mapping _ tag entries closed =>
      q.located (refuseTag tag).plain
      if q.depth == 0 then .fail q.tooDeep
      else
        let members ← q.located (anyEntries (anyValue fuel) q "a string key" entries)
        if closed then pure (Json.objectOf members) else .fail q.unformed
    | _ => .fail q.unformed

mutual

/-- Whether a node is well formed to its end. -/
def isWhole : Node → Bool
  | .broken => false
  | .sequence _ _ items closed => closed && areWhole items
  | .mapping _ _ entries closed => closed && areWholeEntries entries
  | _ => true

/-- Whether all nodes of a list are well formed to their ends. -/
def areWhole : List Node → Bool
  | [] => true
  | n :: ns => isWhole n && areWhole ns

/-- Whether all entries of a list are well formed to their ends. -/
def areWholeEntries : List (Node × Node) → Bool
  | [] => true
  | (k, v) :: rest => isWhole k && isWhole v && areWholeEntries rest

end

/-- YAML documents. -/
instance : Source Place where
  text := Place.readText
  bool p := do
    let q ← p.follow
    q.located (readBool q).plain
  natural expected bound p := do
    let q ← p.follow
    q.located (readNatural expected bound q).plain
  optional p := do
    let q ← p.follow
    if ← (isNothing q.node).plain then pure none else pure (some q)
  items p := do
    let q ← p.follow
    match q.node with
    | .sequence _ _ items closed => pure ⟨itemsAt q 0 items, q.failureOf closed⟩
    | n => if isVoid n then pure ⟨[], none⟩ else q.located (unexpected "a sequence" q).plain
  entries expected p := do
    let q ← p.follow
    match q.node with
    | .mapping _ _ entries closed =>
      let members := entries.map fun (k, v) => (q.key k, q.value k v)
      pure (.named members (q.failureOf closed))
    | n => if isVoid n then pure (.named [] none) else q.located (unexpected expected q).plain
  key := Place.readText "field identifier"
  choice names p := do
    let q ← p.follow
    let choice := (readChoice names q).plain
    if p.isAlias then fun budget => locatedAt p.location (choice budget) else choice
  any p := anyValue (p.depth + 1) p
  ignore p := if isWhole p.node then pure () else .fail p.unformed
  located := Place.located

/-! ## Documents -/

mutual

/-- The number of scalars and aliases of a node and of beginnings and ends of collections, as far as
it is well formed. -/
def eventCount : Node → Nat
  | .sequence _ _ items closed => 1 + eventCounts items + closed.toNat
  | .mapping _ _ entries closed => 1 + entryCounts entries + closed.toNat
  | .broken => 0
  | _ => 1

/-- The number for a list of nodes. -/
def eventCounts : List Node → Nat
  | [] => 0
  | n :: ns => eventCount n + eventCounts ns

/-- The number for a list of entries. -/
def entryCounts : List (Node × Node) → Nat
  | [] => 0
  | (k, v) :: rest => eventCount k + eventCount v + entryCounts rest

end

/-- The root of a document as a place. -/
def Document.place (d : Document) : Place :=
  { anchored := d.anchored
    unformed := d.fault.failure
    depth := 128
    path := "."
    node := d.root }

/-- How many aliases may be followed in a document. -/
def Document.budget (d : Document) : Nat := 100 * eventCount d.root

/-- The value that a text holds, if nothing follows it. -/
def decodeString {α : Type} (read : Place → Decoding α) (s : String) : Decoded α :=
  let d := Document.ofString s
  ((read d.place).within d.budget).bind fun a =>
    match d.ending with
    | none => .ok a
    | some f => .error f.failure

end Cadastre.Yaml
