/-!
# Double precision numbers

Finite numbers of the binary64 format, kept as a sign, a whole mantissa and a power of two, so that
rounding is exact arithmetic on natural numbers. A positive ratio is rounded to the nearest number
of the format, and to the one with an even mantissa when two are equally near; a ratio too large
for the format has no rounding.
-/

namespace Cadastre

/-- A finite number of the binary64 format: `mantissa · 2 ^ exponent`, with the sign apart because
zero has one too. -/
structure Double where
  /-- Whether the number carries a minus sign. -/
  negative : Bool
  /-- The mantissa, below `2 ^ 53`. -/
  mantissa : Nat
  /-- The power of two, from -1074 to 971. -/
  exponent : Int
deriving DecidableEq, Repr

namespace Double

/-- Zero with the given sign. -/
def zero (negative : Bool) : Double := ⟨negative, 0, -1074⟩

/-- The quotient rounded to the nearest whole number, a half going to the even neighbour. -/
def roundQuotient (num den : Nat) : Nat :=
  let q := num / den
  let r := num % den
  if 2 * r < den then q
  else if den < 2 * r then q + 1
  else if q % 2 == 0 then q else q + 1

/-- The ratio `num / den` measured in units of `2 ^ e`, as a ratio again. -/
def scaled (num den : Nat) (e : Int) : Nat × Nat :=
  match e with
  | .ofNat k => (num, den * Nat.pow 2 k)
  | .negSucc k => (num * Nat.pow 2 (k + 1), den)

/-- The number nearest to a ratio with a positive denominator, with the given sign. -/
def ofRatio? (negative : Bool) (num den : Nat) : Option Double :=
  if num == 0 then some (zero negative)
  else
    let guess : Int := max (-1074) ((Nat.log2 num : Int) - (Nat.log2 den : Int) - 53)
    let (n, d) := scaled num den guess
    let e := if n / d < Nat.pow 2 53 then guess else guess + 1
    let (n, d) := scaled num den e
    let m := roundQuotient n d
    let (m, e) := if m == Nat.pow 2 53 then (Nat.pow 2 52, e + 1) else (m, e)
    if e > 971 then none else some ⟨negative, m, e⟩

/-- The magnitude as a ratio of natural numbers. -/
def ratio (x : Double) : Nat × Nat :=
  match x.exponent with
  | .ofNat k => (x.mantissa * Nat.pow 2 k, 1)
  | .negSucc k => (x.mantissa, Nat.pow 2 (k + 1))

/-- The number with the other sign. -/
def neg (x : Double) : Double := { x with negative := !x.negative }

/-- The rounded product of two magnitudes. -/
def mul? (x y : Double) : Option Double :=
  let (a, b) := x.ratio
  let (c, d) := y.ratio
  ofRatio? false (a * c) (b * d)

/-- The rounded quotient of two magnitudes, the second one not zero. -/
def div? (x y : Double) : Option Double :=
  let (a, b) := x.ratio
  let (c, d) := y.ratio
  ofRatio? false (a * d) (b * c)

/-- Equality of values: the two zeros are equal. -/
def same (x y : Double) : Bool := x == y || (x.mantissa == 0 && y.mantissa == 0)

end Double

end Cadastre
