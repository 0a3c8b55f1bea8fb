import Cadastre.Time.Calendar

/-!
# Instants

An instant is a second of universal time and a number of nanoseconds in it. A leap second is the
59th second of its minute with one second of nanoseconds more. The years that are admitted reach
from -262143 to 262142; an instant carries the proof that it is among them.
-/

namespace Cadastre

/-- The first admitted second. -/
def firstSecond : Int := Date.number ⟨-262143, 1, 1⟩ * 86400

/-- The last admitted second. -/
def lastSecond : Int := Date.number ⟨262142, 12, 31⟩ * 86400 + 86399

/-- An instant of universal time. -/
structure Instant where
  /-- Seconds since the first of January 1970. -/
  seconds : Int
  /-- Nanoseconds in the second; a leap second has one second of them more. -/
  nanos : Nat
  /-- The second is admitted. -/
  admitted : firstSecond ≤ seconds ∧ seconds ≤ lastSecond
  /-- Only the last second of a minute is followed by a leap second. -/
  fraction : nanos < 1000000000 ∨ (nanos < 2000000000 ∧ seconds % 60 = 59)
deriving DecidableEq

namespace Instant

/-- The instant with these seconds and nanoseconds, if there is one. -/
def ofSeconds? (seconds : Int) (nanos : Nat) : Option Instant :=
  if ha : firstSecond ≤ seconds ∧ seconds ≤ lastSecond then
    if hf : nanos < 1000000000 ∨ (nanos < 2000000000 ∧ seconds % 60 = 59) then
      some ⟨seconds, nanos, ha, hf⟩
    else none
  else none

/-- The first instant of the year 1970. -/
def epoch : Instant := ⟨0, 0, by decide, by decide⟩

/-- The calendar day. -/
def date (t : Instant) : Date := Date.ofNumber (t.seconds / 86400)

/-- The second of the day. -/
def secondOfDay (t : Instant) : Nat := (t.seconds % 86400).toNat

end Instant

end Cadastre
