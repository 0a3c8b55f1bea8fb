import Cadastre.Text.Blank
import Cadastre.Text.Word
import Cadastre.Time.Instant

/-!
# Reading timestamps

A timestamp is a date, a separator, a time of day and an offset from universal time, as in
`2024-06-15T10:30:00+02:00`. The reader is lenient: fields may have fewer digits than two, blank
characters may stand before fields and their separators, the fraction may have any number of
digits, of which nine count, and universal time may be called `Z` or `UTC`. A year with a sign may
have any number of digits.
-/

namespace Cadastre.Instant

/-- A non-empty run of at most `width` digits at the start of a text: its digits and the rest. -/
def digitRun? (width : Nat) (cs : List Char) : Option (List Char × List Char) :=
  match (cs.take width).takeWhile Char.isDigit with
  | [] => none
  | d :: ds => some (d :: ds, cs.drop (ds.length + 1))

/-- A number of at most two digits, after blank characters. -/
def field? (cs : List Char) : Option (Nat × List Char) :=
  (digitRun? 2 (Text.trimStart cs)).map fun (ds, rest) => (Text.digitsValue ds, rest)

/-- A year: at most four digits, or a sign and any number of digits. -/
def year? (cs : List Char) : Option (Int × List Char) :=
  match Text.trimStart cs with
  | '-' :: rest => (digitRun? rest.length rest).map fun (ds, r) => (-(Text.digitsValue ds : Int), r)
  | '+' :: rest => (digitRun? rest.length rest).map fun (ds, r) => ((Text.digitsValue ds : Int), r)
  | rest => (digitRun? 4 rest).map fun (ds, r) => ((Text.digitsValue ds : Int), r)

/-- What follows a separator, after blank characters. -/
def separator? (c : Char) (cs : List Char) : Option (List Char) :=
  match Text.trimStart cs with
  | d :: rest => if d == c then some rest else none
  | [] => none

/-- The nanoseconds of a fraction, of which the first nine digits count; none are zero. -/
def fraction? : List Char → Option (Nat × List Char)
  | '.' :: cs =>
    (digitRun? 9 cs).map fun (ds, rest) =>
      (Text.digitsValue ds * Nat.pow 10 (9 - ds.length), rest.dropWhile Char.isDigit)
  | cs => some (0, cs)

/-- Two digits, the first one not above `most`. -/
def pair? (most : Char) : List Char → Option (Nat × List Char)
  | a :: b :: rest =>
    if a.isDigit && a ≤ most && b.isDigit then some (Text.digitsValue [a, b], rest) else none
  | _ => none

/-- The text after a name of universal time. -/
def universal? : List Char → Option (List Char)
  | 'Z' :: rest => some rest
  | 'z' :: rest => some rest
  | a :: b :: c :: rest =>
    if a.toLower == 'u' && b.toLower == 't' && c.toLower == 'c' then some rest else none
  | _ => none

/-- The sign of an offset. -/
def offsetSign? : List Char → Option (Int × List Char)
  | '+' :: rest => some (1, rest)
  | '-' :: rest => some (-1, rest)
  | '−' :: rest => some (-1, rest)
  | _ => none

/-- The offset from universal time in seconds, less than a day. -/
def offset? (cs : List Char) : Option (Int × List Char) :=
  match universal? cs with
  | some rest => some (0, rest)
  | none => do
    let (sign, cs) ← offsetSign? cs
    let (hours, cs) ← pair? '9' cs
    let (minutes, cs) ← pair? '5' (cs.dropWhile fun c => c == ':' || Text.isBlank c)
    if hours < 24 then some (sign * (3600 * hours + 60 * minutes), cs) else none

/-- A date at the start of a text. -/
def date? (cs : List Char) : Option (Date × List Char) := do
  let (year, cs) ← year? cs
  let cs ← separator? '-' cs
  let (month, cs) ← field? cs
  let cs ← separator? '-' cs
  let (day, cs) ← field? cs
  let date : Date := ⟨year, month, day⟩
  if date.exists? then some (date, cs) else none

/-- A time of day at the start of a text, in seconds and nanoseconds; the second 60 is the leap
second that follows second 59. -/
def timeOfDay? (cs : List Char) : Option (Nat × Nat × List Char) := do
  let (hour, cs) ← field? cs
  let cs ← separator? ':' cs
  let (minute, cs) ← field? cs
  let cs ← separator? ':' cs
  let (second, cs) ← field? cs
  let (nanos, cs) ← fraction? cs
  if hour < 24 && minute < 60 && second ≤ 60 then
    if second == 60 then some (3600 * hour + 60 * minute + 59, 1000000000 + nanos, cs)
    else some (3600 * hour + 60 * minute + second, nanos, cs)
  else none

/-- The text after the letter or space between date and time. -/
def middle? : List Char → Option (List Char)
  | 't' :: rest => some rest
  | 'T' :: rest => some rest
  | ' ' :: rest => some rest
  | _ => none

/-- The instant that a timestamp names. -/
def ofChars? (cs : List Char) : Option Instant := do
  let (date, cs) ← date? cs
  let cs ← middle? cs
  let (second, nanos, cs) ← timeOfDay? cs
  let (offset, cs) ← offset? (Text.trimStart cs)
  if (Text.trimStart cs).isEmpty && -262143 ≤ date.year && date.year ≤ 262142 then
    ofSeconds? (date.number * 86400 + second - offset) nanos
  else none

/-- The instant that a timestamp names. -/
def ofString? (s : String) : Option Instant := ofChars? s.toList

end Cadastre.Instant
