import Cadastre.Number.Double

/-!
# JSON values

Values as they are held after reading and before writing. A number is a whole number or a number of
double precision. The members of an object are in a list, whose order is the order of writing; an
object built from a text has its members in ascending order of their keys, and of members with the
same key the last one.
-/

namespace Cadastre

/-- A number in a JSON value. -/
inductive Number where
  /-- A whole number. -/
  | whole (n : Int)
  /-- A number of double precision. -/
  | real (x : Double)
deriving DecidableEq, Repr

/-- A JSON value. -/
inductive Json where
  | null
  | bool (b : Bool)
  | number (n : Number)
  | text (s : String)
  | array (items : List Json)
  | object (members : List (String × Json))
deriving Repr

namespace Json

/-- Members with one put under its key, in ascending order of the keys. -/
def insertMember (key : String) (value : Json) : List (String × Json) → List (String × Json)
  | [] => [(key, value)]
  | (k, v) :: rest =>
    if key < k then (key, value) :: (k, v) :: rest
    else if key = k then (key, value) :: rest
    else (k, v) :: insertMember key value rest

/-- The object with the given members: in ascending order of the keys, the last one for each. -/
def objectOf (members : List (String × Json)) : Json :=
  .object (members.foldl (fun ms m => insertMember m.1 m.2 ms) [])

/-- The member of an object under a key. -/
def member? (key : String) : Json → Option Json
  | .object members => List.lookup key members
  | _ => none

/-- The text of a string. -/
def text? : Json → Option String
  | .text s => some s
  | _ => none

/-- Equality of numbers: a whole number differs from every number of double precision. -/
def sameNumber : Number → Number → Bool
  | .whole m, .whole n => m == n
  | .real x, .real y => x.same y
  | _, _ => false

mutual

/-- Equality of values; the two zeros of double precision are equal. -/
def same : Json → Json → Bool
  | .null, .null => true
  | .bool a, .bool b => a == b
  | .number m, .number n => sameNumber m n
  | .text s, .text t => s == t
  | .array xs, .array ys => sameItems xs ys
  | .object ms, .object ns => sameMembers ms ns
  | _, _ => false

/-- Equality of lists of values. -/
def sameItems : List Json → List Json → Bool
  | [], [] => true
  | x :: xs, y :: ys => same x y && sameItems xs ys
  | _, _ => false

/-- Equality of lists of members. -/
def sameMembers : List (String × Json) → List (String × Json) → Bool
  | [], [] => true
  | (k, x) :: ms, (l, y) :: ns => k == l && same x y && sameMembers ms ns
  | _, _ => false

end

end Json

end Cadastre
