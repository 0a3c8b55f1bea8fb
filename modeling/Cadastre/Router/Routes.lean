import Cadastre.Router.Endpoint
import Cadastre.Snapshot.Order
import Cadastre.Text.Case
import Cadastre.Text.Word

/-!
# Routes of a router source

Every endpoint with a path that is not blank gives a route. Its status is the number after the
first `status_code =` among the further arguments, and 200 if there is none that fits; what its
handler asks of the caller is read from the text up to the next endpoint.
-/

namespace Cadastre.Router

/-! ## Status -/

/-- The word before the number of a status. -/
def statusWord : List Char := ['s', 't', 'a', 't', 'u', 's', '_', 'c', 'o', 'd', 'e']

/-- The digits of the status at the start of a text. -/
def statusDigits? (cs : List Char) : Option (List Char) := do
  let cs ← Text.dropWord? statusWord cs
  let cs ← ['='].isPrefixOf? (Text.trimStart cs)
  match (Text.trimStart cs).takeWhile Text.isDigit with
  | [] => none
  | ds => some ds

/-- The digits of the first status in a text. -/
def firstStatus? : List Char → Option (List Char)
  | [] => none
  | c :: cs => (statusDigits? (c :: cs)).or (firstStatus? cs)

/-- The value of a status of ASCII digits that is small enough for one. -/
def statusValue? (ds : List Char) : Option UInt16 :=
  if ds.all Char.isDigit then
    let n := Text.digitsValue ds
    if n < Nat.pow 2 16 then some (UInt16.ofNat n) else none
  else none

/-- The status that further arguments declare. -/
def status (arguments : List Char) : UInt16 :=
  ((firstStatus? arguments).bind statusValue?).getD 200

/-! ## What the handler asks -/

/-- Whether a dependency on a function stands at the start of a text. -/
def startsDependency (function : List Char) (cs : List Char) : Bool :=
  match ['D', 'e', 'p', 'e', 'n', 'd', 's', '('].isPrefixOf? cs with
  | none => false
  | some cs =>
    match function.isPrefixOf? (Text.trimStart cs) with
    | none => false
    | some cs => (Text.trimStart cs).head? == some ')'

/-- Whether a text holds a dependency on a function. -/
def hasDependency (function : List Char) : List Char → Bool
  | [] => false
  | c :: cs => startsDependency function (c :: cs) || hasDependency function cs

/-- What a handler asks of its caller, from its span; a full user record comes before a known
user. -/
def auth (span : List Char) : Auth :=
  if hasDependency Auth.fullUser.name.toList span then .fullUser
  else if hasDependency Auth.userId.name.toList span then .userId
  else .anyone

/-! ## Routes -/

/-- The route of an endpoint with its span, unless its path is blank. -/
def Endpoint.route? (sourceFile : String) (e : Endpoint) (span : List Char) : Option Route :=
  match Text.trim e.path with
  | [] => none
  | path =>
    some
      { method := e.method
        path := String.ofList path
        status := status e.arguments
        auth := auth span
        sourceFile
        handler := String.ofList e.handler }

/-- The routes of a router source, in the order of the text. -/
def routesOf (sourceFile : String) (content : List Char) : List Route :=
  (spans content).2.filterMap fun (e, span) => e.route? sourceFile span

/-- The routes of a router source, in the order of the text. -/
def routes (sourceFile content : String) : List Route := routesOf sourceFile content.toList

end Cadastre.Router

namespace Cadastre

/-- The method with a name in any case of ASCII letters, blank characters around it left aside. -/
def Method.ofName? (name : String) : Option Method :=
  let word := (Text.trim name.toList).map Char.toLower
  Method.all.find? fun m => m.keyword.toList == word

end Cadastre
