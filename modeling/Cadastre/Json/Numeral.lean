import Cadastre.Json.Basic
import Cadastre.Text.Word

/-!
# Numerals

A numeral is an optional minus sign, digits without a needless leading zero, an optional fraction
and an optional power of ten. Without fraction and power it stands for a whole number, if that lies
between `-2 ^ 63` and `2 ^ 64 - 1`; `-0` and every other numeral stand for a number of double
precision. Such a number is the product or quotient of two rounded factors, a significand of at
most 64 bits and a power of ten, and not always the number nearest to the numeral: digits of the
whole part beyond the significand raise the power, and digits of the fraction beyond it are left
out. A numeral too large for the format has no value.
-/

namespace Cadastre.Json

/-- The largest significand. -/
def maxSignificand : Nat := Nat.pow 2 64 - 1

/-- The significand of a run of digits as far as it fits, and how many digits are left. -/
def accumulate (significand : Nat) : List Char → Nat × Nat
  | [] => (significand, 0)
  | d :: ds =>
    let next := 10 * significand + (d.toNat - 48)
    if next ≤ maxSignificand then accumulate next ds else (significand, ds.length + 1)

/-- A power of ten of the format, for powers up to 308. -/
def tenTo (k : Nat) : Option Double := Double.ofRatio? false (Nat.pow 10 k) 1

/-- A magnitude divided by a negative power of ten in steps of 308. -/
def divideDown : Nat → Double → Nat → Option Double
  | 0, _, _ => some (Double.zero false)
  | fuel + 1, x, k =>
    if k ≤ 308 then (tenTo k).bind x.div?
    else if x.mantissa == 0 then some x
    else ((tenTo 308).bind x.div?).bind fun y => divideDown fuel y (k - 308)

/-- The number of a significand and a power of ten, without its sign. -/
def magnitude? (significand : Nat) (power : Int) : Option Double :=
  (Double.ofRatio? false significand 1).bind fun x =>
    match power with
    | .ofNat k =>
      if k ≤ 308 then (tenTo k).bind x.mul? else if x.mantissa == 0 then some x else none
    | .negSucc k => divideDown 5 x (k + 1)

/-- The parts of a numeral: its sign, the digits of its whole part, of its fraction and of its
power of ten with the sign of that power. -/
structure Numeral where
  /-- Whether there is a minus sign. -/
  negative : Bool
  /-- The digits before the point. -/
  whole : List Char
  /-- The digits after the point, if there is one. -/
  fraction : Option (List Char)
  /-- Whether the power of ten is negative, and its digits, if there is one. -/
  power : Option (Bool × List Char)

/-- The largest power of ten that is added up; larger ones give zero or no value. -/
def maxPower : Nat := Nat.pow 2 31 - 1

/-- The double precision value of a numeral, if it is not too large. -/
def Numeral.real? (n : Numeral) : Option Double :=
  let (s, dropped) := accumulate 0 n.whole
  let (s, power) : Nat × Int :=
    match n.fraction with
    | none => (s, dropped)
    | some ds =>
      let (s, left) := accumulate s ds
      (s, (dropped : Int) - ((ds.length - left : Nat) : Int))
  let x :=
    match n.power with
    | none => magnitude? s power
    | some (negative, ds) =>
      let p := Text.digitsValue ds
      if p > maxPower then
        if s != 0 && !negative then none else some (Double.zero false)
      else magnitude? s (if negative then power - p else power + p)
  x.map fun x => if n.negative then x.neg else x

/-- The value of a numeral, if it is not too large. -/
def Numeral.value? (n : Numeral) : Option Number :=
  match n.fraction, n.power with
  | none, none =>
    let m := Text.digitsValue n.whole
    if n.negative then
      if m != 0 && m ≤ Nat.pow 2 63 then some (.whole (-(m : Int))) else n.real?.map .real
    else if m ≤ maxSignificand then some (.whole m)
    else n.real?.map .real
  | _, _ => n.real?.map .real

/-- The fraction at the start of a text; the outer option fails on a point without digits. -/
def fractionPart? : List Char → Option (Option (List Char) × List Char)
  | '.' :: cs =>
    match cs.takeWhile Char.isDigit with
    | [] => none
    | d :: ds => some (some (d :: ds), cs.dropWhile Char.isDigit)
  | cs => some (none, cs)

/-- The sign of a power of ten: whether it is negative. -/
def powerSign : List Char → Bool × List Char
  | '+' :: cs => (false, cs)
  | '-' :: cs => (true, cs)
  | cs => (false, cs)

/-- The power of ten at the start of a text; the outer option fails on a mark without digits. -/
def powerPart? : List Char → Option (Option (Bool × List Char) × List Char)
  | c :: cs =>
    if c == 'e' || c == 'E' then
      let (negative, cs) := powerSign cs
      match cs.takeWhile Char.isDigit with
      | [] => none
      | d :: ds => some (some (negative, d :: ds), cs.dropWhile Char.isDigit)
    else some (none, c :: cs)
  | [] => some (none, [])

/-- The whole part at the start of a text: one zero, or digits of which the first is not zero. -/
def wholePart? (cs : List Char) : Option (List Char × List Char) :=
  match cs.takeWhile Char.isDigit with
  | [] => none
  | '0' :: _ :: _ => none
  | ds => some (ds, cs.dropWhile Char.isDigit)

/-- The numeral at the start of a text, and the rest. -/
def numeral? (cs : List Char) : Option (Numeral × List Char) := do
  let (negative, cs) :=
    match cs with
    | '-' :: rest => (true, rest)
    | _ => (false, cs)
  let (whole, cs) ← wholePart? cs
  let (fraction, cs) ← fractionPart? cs
  let (power, cs) ← powerPart? cs
  some (⟨negative, whole, fraction, power⟩, cs)

end Cadastre.Json
