import Cadastre.Number.Double
import Cadastre.Text.Word

/-!
# What a plain scalar stands for

A scalar without quotes stands for null, a truth value or a number if it is spelled like one, and
for its text otherwise. Whole numbers have a base of ten, or of sixteen, eight or two after `0x`,
`0o` or `0b`; digits after a leading zero are a text.
-/

namespace Cadastre.Yaml

/-- What a plain scalar stands for. -/
inductive Plain where
  | null
  | bool (b : Bool)
  /-- A whole number from zero on, below `2 ^ 64`. -/
  | natural (n : Nat)
  /-- A whole number with a minus sign, from `-2 ^ 63` on. -/
  | negative (n : Int)
  /-- A larger whole number, below `2 ^ 128`. -/
  | wideNatural (n : Nat)
  /-- A larger whole number with a minus sign, from `-2 ^ 127` on. -/
  | wideNegative (n : Int)
  | real (x : Double)
  | infinity (negative : Bool)
  | notANumber
  | text
deriving DecidableEq

namespace Plain

/-- The value of a non-empty run of digits of a base. -/
def digits? (base : Nat) : List Char → Option Nat
  | [] => none
  | ds =>
    ds.foldl (fun n d =>
      n.bind fun n =>
        (Text.hexDigit? d).bind fun v => if v < base then some (base * n + v) else none)
      (some 0)

/-- A text without one leading plus sign. -/
def dropPlus : List Char → List Char
  | '+' :: cs => cs
  | cs => cs

/-- A text without one leading sign. -/
def dropSign : List Char → List Char
  | '+' :: cs => cs
  | '-' :: cs => cs
  | cs => cs

/-- Digits after a leading zero: they spell no number. -/
def isZeroPadded (cs : List Char) : Bool :=
  match dropSign cs with
  | '0' :: d :: ds => (d :: ds).all Char.isDigit
  | _ => false

/-- The value of digits without a sign, after the mark of their base if there is one. -/
def unsigned? : List Char → Option Nat
  | '0' :: 'x' :: ds => digits? 16 ds
  | '0' :: 'o' :: ds => digits? 8 ds
  | '0' :: 'b' :: ds => digits? 2 ds
  | ds => digits? 10 ds

/-- The value of a whole number from zero on. -/
def natural? (cs : List Char) : Option Nat :=
  if isZeroPadded cs then none else unsigned? (dropPlus cs)

/-- The value of a whole number with a minus sign, without the sign. -/
def magnitude? (cs : List Char) : Option Nat :=
  match cs with
  | '-' :: ds => if isZeroPadded cs then none else unsigned? ds
  | _ => none

/-- The digits at the start of a text, and the rest. -/
def spanDigits (cs : List Char) : List Char × List Char :=
  (cs.takeWhile Char.isDigit, cs.dropWhile Char.isDigit)

/-- A power of ten after its mark, to the end of the text; none is the power zero. -/
def power? : List Char → Option Int
  | [] => some 0
  | c :: cs =>
    if c == 'e' || c == 'E' then
      let minus := cs.head? == some '-'
      let ds := dropSign cs
      if !ds.isEmpty && ds.all Char.isDigit then
        some (if minus then -(Text.digitsValue ds : Int) else Text.digitsValue ds)
      else none
    else none

/-- The number nearest to `digits · 10 ^ power`, if it is not too large. -/
def nearest? (minus : Bool) (digits : Nat) (power : Int) : Option Double :=
  if digits == 0 then some (Double.zero minus)
  else
    let lead : Int := (Nat.toDigits 10 digits).length + power
    if lead > 400 then none
    else if lead < -400 then some (Double.zero minus)
    else
      match power with
      | .ofNat k => Double.ofRatio? minus (digits * Nat.pow 10 k) 1
      | .negSucc k => Double.ofRatio? minus digits (Nat.pow 10 (k + 1))

/-- The value of a number with digits before or after a point and perhaps a power of ten. -/
def real? (cs : List Char) : Option Double :=
  let minus := cs.head? == some '-'
  let (whole, cs) := spanDigits (dropSign cs)
  let (fraction, cs) :=
    match cs with
    | '.' :: ds => spanDigits ds
    | ds => ([], ds)
  if whole.isEmpty && fraction.isEmpty then none
  else
    (power? cs).bind fun p =>
      nearest? minus (Text.digitsValue (whole ++ fraction)) (p - fraction.length)

/-- Whether a text begins with a sign. -/
def startsSigned : List Char → Bool
  | '+' :: _ => true
  | '-' :: _ => true
  | _ => false

/-- The number with a fraction or power, infinity or mark of no number that a text spells. -/
def float? (s : String) : Option Plain :=
  let cs := s.toList
  let unplussed := String.ofList (dropPlus cs)
  if cs.head? == some '+' && startsSigned unplussed.toList then none
  else if unplussed ∈ [".inf", ".Inf", ".INF"] then some (.infinity false)
  else if s ∈ ["-.inf", "-.Inf", "-.INF"] then some (.infinity true)
  else if s ∈ [".nan", ".NaN", ".NAN"] then some .notANumber
  else (real? (dropPlus cs)).map .real

/-- The whole number that a text spells. -/
def whole? (s : String) : Option Plain :=
  match natural? s.toList, magnitude? s.toList with
  | some n, _ =>
    if n < Nat.pow 2 64 then some (.natural n)
    else if n < Nat.pow 2 128 then some (.wideNatural n)
    else none
  | none, some n =>
    if n ≤ Nat.pow 2 63 then some (.negative (-(n : Int)))
    else if n ≤ Nat.pow 2 127 then some (.wideNegative (-(n : Int)))
    else none
  | none, none => none

/-- The truth value that a text spells. -/
def bool? (s : String) : Option Bool :=
  if s ∈ ["true", "True", "TRUE"] then some true
  else if s ∈ ["false", "False", "FALSE"] then some false
  else none

/-- Whether a text spells null. -/
def isNull (s : String) : Bool := s ∈ ["~", "null", "Null", "NULL"]

/-- What a plain scalar stands for. -/
def ofString (s : String) : Plain :=
  if s.isEmpty || isNull s then .null
  else
    match bool? s with
    | some b => .bool b
    | none =>
      match whole? s with
      | some p => p
      | none => if isZeroPadded s.toList then .text else (float? s).getD .text

end Plain

end Cadastre.Yaml
