import Cadastre.Number.Double

/-!
# Shortest decimal digits

The fewest decimal digits that tell a number from every other number of its format. The numbers
that round to a given one form an interval; for one digit, two digits and so on the two decimals
next to the number are tried, and the first that lies in the interval is taken, the nearer one if
both do.
-/

namespace Cadastre.Double

/-- A decimal `digits · 10 ^ power`. -/
structure Decimal where
  /-- The digits as a whole number. -/
  digits : Nat
  /-- The power of ten. -/
  power : Int
deriving DecidableEq, Repr

/-- The decimal as a ratio. -/
def Decimal.ratio (d : Decimal) : Nat × Nat :=
  match d.power with
  | .ofNat k => (d.digits * Nat.pow 10 k, 1)
  | .negSucc k => (d.digits, Nat.pow 10 (k + 1))

/-- Whether one ratio is below another. -/
def ratioLt (x y : Nat × Nat) : Bool := x.1 * y.2 < y.1 * x.2

/-- Whether one ratio is at most another. -/
def ratioLe (x y : Nat × Nat) : Bool := x.1 * y.2 ≤ y.1 * x.2

/-- The distance of two ratios. -/
def ratioDist (x y : Nat × Nat) : Nat × Nat :=
  ((x.1 * y.2 - y.1 * x.2) + (y.1 * x.2 - x.1 * y.2), x.2 * y.2)

/-- Whether a ratio rounds to `x`: it lies between the midpoints to the neighbours of `x`, the
midpoints included when the mantissa is even. -/
def roundsTo (x : Double) (r : Nat × Nat) : Bool :=
  let boundary := x.mantissa == Nat.pow 2 52 && x.exponent > -1074
  let low := (Double.mk false (4 * x.mantissa - (if boundary then 1 else 2)) (x.exponent - 2)).ratio
  let high := (Double.mk false (4 * x.mantissa + 2) (x.exponent - 2)).ratio
  if x.mantissa % 2 == 0 then ratioLe low r && ratioLe r high
  else ratioLt low r && ratioLt r high

/-- The power of ten of the leading digit of a positive ratio, searched downwards. -/
def leadingPower (r : Nat × Nat) : Nat → Int → Int
  | 0, p => p
  | fuel + 1, p =>
    if ratioLe (Decimal.ratio ⟨1, p⟩) r then p else leadingPower r fuel (p - 1)

/-- The two decimals with the given power of ten next to a ratio. -/
def neighbours (r : Nat × Nat) (power : Int) : Decimal × Decimal :=
  let q :=
    match power with
    | .ofNat k => r.1 / (r.2 * Nat.pow 10 k)
    | .negSucc k => r.1 * Nat.pow 10 (k + 1) / r.2
  (⟨q, power⟩, ⟨q + 1, power⟩)

/-- The first decimal that rounds to `x`, with one digit, two digits and so on. -/
def shortestFrom (x : Double) (lead : Int) : Nat → Nat → Decimal
  | 0, n => (neighbours x.ratio (lead - n)).1
  | fuel + 1, n =>
    let (a, b) := neighbours x.ratio (lead - n)
    let hitA := a.digits != 0 && roundsTo x a.ratio
    let hitB := roundsTo x b.ratio
    if hitA && hitB then
      if ratioLt (ratioDist b.ratio x.ratio) (ratioDist a.ratio x.ratio) then b
      else if ratioLt (ratioDist a.ratio x.ratio) (ratioDist b.ratio x.ratio) then a
      else if a.digits % 2 == 0 then a else b
    else if hitA then a
    else if hitB then b
    else shortestFrom x lead fuel (n + 1)

/-- A decimal without zeros at its end. -/
def Decimal.stripZeros : Nat → Decimal → Decimal
  | 0, d => d
  | fuel + 1, d =>
    if d.digits != 0 && d.digits % 10 == 0 then stripZeros fuel ⟨d.digits / 10, d.power + 1⟩ else d

/-- The shortest decimal that rounds to a number, of those the nearest. -/
def shortest (x : Double) : Decimal :=
  if x.mantissa == 0 then ⟨0, 0⟩
  else
    let lead := leadingPower x.ratio 700 309
    (shortestFrom x lead 17 0).stripZeros 20

end Cadastre.Double
