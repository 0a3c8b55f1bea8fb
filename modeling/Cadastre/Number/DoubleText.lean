import Cadastre.Number.Shortest

/-!
# Written numbers

A number is written with its shortest digits, either positionally with a point in any case, or with
one digit before the point and a power of ten. A `NumberStyle` says where positional notation
begins and ends and how the sign of the power is written.
-/

namespace Cadastre

/-- How a number with a fraction is written. -/
structure NumberStyle where
  /-- The smallest power of ten of the leading digit that is written positionally. -/
  least : Int
  /-- The largest power of ten of the leading digit that is written positionally. -/
  most : Int
  /-- Whether a positive power of ten has a plus sign. -/
  plus : Bool

namespace NumberStyle

/-- Numbers in JSON texts: powers from -5 to 15 are positional, others have a signed power. -/
def json : NumberStyle := ⟨-5, 15, true⟩

/-- Numbers in YAML texts: as in JSON, without the plus sign. -/
def yaml : NumberStyle := ⟨-5, 15, false⟩

/-- Numbers that are always written positionally. -/
def positional : NumberStyle := ⟨-400, 400, false⟩

end NumberStyle

namespace Double

/-- The decimal digits of a natural number. -/
def decimalDigits (n : Nat) : List Char := Nat.toDigits 10 n

/-- A decimal written positionally, with at least one digit on each side of the point. -/
def positionalText (d : Decimal) : List Char :=
  let ds := decimalDigits d.digits
  let point : Int := ds.length + d.power
  if d.power ≥ 0 then ds ++ List.replicate d.power.toNat '0' ++ ['.', '0']
  else if point > 0 then ds.take point.toNat ++ '.' :: ds.drop point.toNat
  else '0' :: '.' :: List.replicate (-point).toNat '0' ++ ds

/-- A decimal written with one digit before the point and a power of ten. -/
def powerText (plus : Bool) (d : Decimal) : List Char :=
  let ds := decimalDigits d.digits
  let power : Int := ds.length - 1 + d.power
  let head :=
    match ds with
    | [] => []
    | [c] => [c]
    | c :: cs => c :: '.' :: cs
  let sign := if power < 0 then ['-'] else if plus then ['+'] else []
  head ++ 'e' :: sign ++ decimalDigits power.natAbs

/-- The text of a number. -/
def text (style : NumberStyle) (x : Double) : String :=
  let d := x.shortest
  let lead : Int := (decimalDigits d.digits).length - 1 + d.power
  let body :=
    if style.least ≤ lead && lead ≤ style.most then positionalText d
    else powerText style.plus d
  String.ofList (if x.negative then '-' :: body else body)

end Double

end Cadastre
