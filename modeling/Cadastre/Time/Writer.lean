import Cadastre.Time.Instant

/-!
# Writing timestamps

An instant is written in universal time, with as many fraction digits as it needs out of none,
three, six and nine. Years outside 0 to 9999 have a sign and at least four digits.
-/

namespace Cadastre.Instant

/-- A number in decimal digits, filled up with zeros to a width. -/
def padded (width n : Nat) : List Char :=
  let ds := Nat.toDigits 10 n
  List.replicate (width - ds.length) '0' ++ ds

/-- A year. -/
def yearText (year : Int) : List Char :=
  if 0 ≤ year && year ≤ 9999 then padded 4 year.toNat
  else (if year < 0 then '-' else '+') :: padded 4 year.natAbs

/-- The fraction of a second: none, or a point and three, six or nine digits. -/
def fractionText (nanos : Nat) : List Char :=
  if nanos == 0 then []
  else if nanos % 1000000 == 0 then '.' :: padded 3 (nanos / 1000000)
  else if nanos % 1000 == 0 then '.' :: padded 6 (nanos / 1000)
  else '.' :: padded 9 nanos

/-- The instant without an offset. -/
def localText (t : Instant) : List Char :=
  let leap := 1000000000 ≤ t.nanos
  let nanos := if leap then t.nanos - 1000000000 else t.nanos
  let s := t.secondOfDay
  let second := if leap then s % 60 + 1 else s % 60
  yearText t.date.year ++ '-' :: padded 2 t.date.month ++ '-' :: padded 2 t.date.day ++
    'T' :: padded 2 (s / 3600) ++ ':' :: padded 2 (s / 60 % 60) ++ ':' :: padded 2 second ++
    fractionText nanos

/-- The instant as it stands in saved snapshots: universal time is called `Z`. -/
def text (t : Instant) : String := String.ofList (t.localText ++ ['Z'])

/-- The instant as it stands in summaries: universal time is an offset of zero. -/
def offsetText (t : Instant) : String :=
  String.ofList (t.localText ++ ['+', '0', '0', ':', '0', '0'])

end Cadastre.Instant
