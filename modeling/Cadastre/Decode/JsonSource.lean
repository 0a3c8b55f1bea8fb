import Cadastre.Decode.Source
import Cadastre.Json.Reader

/-!
# Reading records from JSON

JSON is read in two ways: from a text, as far as it is well formed, and from a value that is already
held, as a recorded answer is. A record may be an object or an array of its fields. The two ways
differ in what they say of a choice that is neither a string nor an object, and of an array that is
too long for its record.
-/

namespace Cadastre

namespace Json.Draft

/-- The failure of a text that is not well formed. -/
def unformed : Failure := .malformed "the text is not well-formed JSON"

/-- What a draft is called where something else was expected; a draft without a value is
malformed. -/
def found : Draft → Decoded Found
  | .null => .ok (.nothing "null")
  | .bool b => .ok (.bool b)
  | .number (.whole n) => .ok (.integer n)
  | .number (.real x) => .ok (.real (x.text NumberStyle.json))
  | .text s => .ok (.string s)
  | .array _ _ => .ok .sequence
  | .object _ _ => .ok .map
  | .unfit => .error unformed
  | .broken => .error unformed

/-- A refusal of a draft where something else was expected. -/
def unexpected {α : Type} (expected : String) (d : Draft) : Decoded α :=
  d.found.bind fun f => refuse (.invalidType f expected)

/-- A string. -/
def readText (expected : String) : Draft → Decoded String
  | .text s => .ok s
  | d => d.unexpected expected

/-- A truth value. -/
def readBool : Draft → Decoded Bool
  | .bool b => .ok b
  | d => d.unexpected "a boolean"

/-- A natural number below a bound. -/
def readNatural (expected : String) (bound : Nat) : Draft → Decoded Nat
  | .number (.whole n) =>
    if 0 ≤ n && n < bound then .ok n.toNat else refuse (.invalidValue (.integer n) expected)
  | d => d.unexpected expected

/-- Nothing. -/
def readUnit : Draft → Decoded Unit
  | .null => .ok ()
  | d => d.unexpected "unit"

/-- The fault after the last part of a collection. -/
def faultOf (closed : Bool) : Option Failure := if closed then none else some unformed

/-- The name that a key is; a key that is no string is malformed. -/
def readKey : Draft → Decoded String
  | .text s => .ok s
  | _ => .error unformed

/-- One of some names. -/
def checkChoice (names : List String) (name : String) : Decoded String :=
  if names.contains name then .ok name else refuse (.unknownVariant name names)

/-- One of some names, as a string or as an object with that name alone and nothing under it. -/
def readChoice (names : List String) : Draft → Decoded String
  | .text s => checkChoice names s
  | .object ((k, v) :: rest) closed => do
    let name ← k.readText "variant identifier"
    let name ← checkChoice names name
    v.readUnit
    if rest.isEmpty && closed then .ok name else .error unformed
  | _ => .error unformed

mutual

/-- Whether a draft is well formed to its end. -/
def isWhole : Draft → Bool
  | .broken => false
  | .array items closed => closed && areWhole items
  | .object members closed => closed && areWholeMembers members
  | _ => true

/-- Whether all drafts of a list are well formed to their ends. -/
def areWhole : List Draft → Bool
  | [] => true
  | d :: ds => isWhole d && areWhole ds

/-- Whether all members of a list have strings for keys and are well formed to their ends. -/
def areWholeMembers : List (Draft × Draft) → Bool
  | [] => true
  | (.text _, d) :: ds => isWhole d && areWholeMembers ds
  | (.unfit, d) :: ds => isWhole d && areWholeMembers ds
  | _ => false

end

end Json.Draft

open Json (Draft)

/-- JSON texts. -/
instance : Source Draft where
  text expected d := (d.readText expected).plain
  bool d := d.readBool.plain
  natural expected bound d := (d.readNatural expected bound).plain
  optional
    | .null => pure none
    | d => pure (some d)
  items
    | .array items closed => pure ⟨items, Draft.faultOf closed⟩
    | d => (d.unexpected "a sequence").plain
  entries expected
    | .object members closed => pure (.named members (Draft.faultOf closed))
    | .array items closed => pure (.positional ⟨items, Draft.faultOf closed⟩ Draft.unformed)
    | d => (d.unexpected expected).plain
  key d := d.readKey.plain
  choice names d := (d.readChoice names).plain
  any d :=
    match d.toJson? with
    | some v => pure v
    | none => .fail Draft.unformed
  ignore d := if d.isWhole then pure () else .fail Draft.unformed
  located _ outcome := outcome

/-- A held value as far as its outermost part tells what it is. -/
def Json.face : Json → Draft
  | .null => .null
  | .bool b => .bool b
  | .number n => .number n
  | .text s => .text s
  | .array _ => .array [] true
  | .object _ => .object [] true

/-- One of some names in a held value. -/
def Json.readChoice (names : List String) : Json → Decoded String
  | .text s => Draft.checkChoice names s
  | .object [(k, v)] => do
    let name ← Draft.checkChoice names k
    v.face.readUnit
    .ok name
  | .object _ => refuse (.invalidValue .map "map with a single key")
  | v => v.face.unexpected "string or map"

/-- Held JSON values. -/
instance : Source Json where
  text expected v := (v.face.readText expected).plain
  bool v := v.face.readBool.plain
  natural expected bound v := (v.face.readNatural expected bound).plain
  optional
    | .null => pure none
    | v => pure (some v)
  items
    | .array items => pure ⟨items, none⟩
    | v => (v.face.unexpected "a sequence").plain
  entries expected
    | .object members => pure (.named (members.map fun (k, v) => (.text k, v)) none)
    | .array items =>
      pure (.positional ⟨items, none⟩
        (.ofMismatch (.invalidLength items.length "fewer elements in array")))
    | v => (v.face.unexpected expected).plain
  key v := v.face.readKey.plain
  choice names v := (Json.readChoice names v).plain
  any v := pure v
  ignore _ := pure ()
  located _ outcome := outcome

/-- The value that a text holds, if nothing but spaces follows it. -/
def Json.decodeString {α : Type} (read : Draft → Decoding α) (s : String) : Decoded α :=
  let d := Json.Document.ofString s
  ((read d.value).within 0).bind fun a => if d.ended then .ok a else .error Draft.unformed

end Cadastre
