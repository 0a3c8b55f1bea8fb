import Cadastre.Json.Reader
import Cadastre.Json.Writer
import Cadastre.Proofs.Text.Digits

/-!
# Strings and whole numbers in JSON

A string is read back from its text, whatever characters it holds, and so is a natural number that
fits a machine word. What is read ends where the text of the string or number does.
-/

namespace Cadastre.Json

open Text

variable {cs rest : List Char}

/-! ## Strings -/

/-- A number of a character that is no half of a pair stands for that character alone. -/
theorem joinPieces?_unit {n : Nat} (h : n < 0xd800) (ps : List Piece) :
    joinPieces? (.unit n :: ps) = (joinPieces? ps).map (Char.ofNat n :: ·) := by
  have h1 : ¬ 0xd800 ≤ n := by omega
  cases ps with
  | nil => simp [joinPieces?, h1]
  | cons p ps =>
    cases p with
    | char c => simp [joinPieces?, h1]
    | unit low => simp [joinPieces?, h1]

/-- The four digits of a control character give its number. -/
theorem hexQuad?_hexPadded {n : Nat} (hn : n < 0x20) :
    ∃ a b c d, hexPadded 4 n = [a, b, c, d] ∧ hexQuad? a b c d = some n := by
  have hall : ∀ m < 0x20, hexPadded 4 m =
      [(hexPadded 4 m).getD 0 '0', (hexPadded 4 m).getD 1 '0', (hexPadded 4 m).getD 2 '0',
        (hexPadded 4 m).getD 3 '0'] ∧
      hexQuad? ((hexPadded 4 m).getD 0 '0') ((hexPadded 4 m).getD 1 '0')
        ((hexPadded 4 m).getD 2 '0') ((hexPadded 4 m).getD 3 '0') = some m := by decide
  exact ⟨_, _, _, _, hall n hn⟩

/-- A letter behind a backslash is read as the character that it stands for. -/
theorem exists_pieces?_of_escaped? {x c : Char} (hx : x ≠ 'u') (h : escaped? x = some c)
    (cs : List Char) :
    ∃ p, pieces? ('\\' :: x :: cs) = (pieces? cs).map (fun (ps, r) => (p :: ps, r)) ∧
      ∀ ps, joinPieces? (p :: ps) = (joinPieces? ps).map (c :: ·) :=
  ⟨.char c, by simp [pieces?, hx, h], fun ps => by simp [joinPieces?]⟩

/-- A character is read back from how it is written in a string. -/
theorem exists_pieces?_escapedChar (c : Char) (cs : List Char) :
    ∃ p, pieces? (escapedChar c ++ cs) = (pieces? cs).map (fun (ps, r) => (p :: ps, r)) ∧
      ∀ ps, joinPieces? (p :: ps) = (joinPieces? ps).map (c :: ·) := by
  unfold escapedChar
  split_ifs with h1 h2 h3 h4 h5 h6 h7 h8
  · obtain rfl : c = '"' := by simpa using h1
    exact exists_pieces?_of_escaped? (by decide) rfl cs
  · obtain rfl : c = '\\' := by simpa using h2
    exact exists_pieces?_of_escaped? (by decide) rfl cs
  · obtain rfl : c = '\x08' := by simpa using h3
    exact exists_pieces?_of_escaped? (by decide) rfl cs
  · obtain rfl : c = '\x0c' := by simpa using h4
    exact exists_pieces?_of_escaped? (by decide) rfl cs
  · obtain rfl : c = '\n' := by simpa using h5
    exact exists_pieces?_of_escaped? (by decide) rfl cs
  · obtain rfl : c = '\r' := by simpa using h6
    exact exists_pieces?_of_escaped? (by decide) rfl cs
  · obtain rfl : c = '\t' := by simpa using h7
    exact exists_pieces?_of_escaped? (by decide) rfl cs
  · obtain ⟨a, b, d, e, hpad, hquad⟩ := hexQuad?_hexPadded h8
    refine ⟨.unit c.toNat, by simp [hpad, pieces?, hquad], fun ps => ?_⟩
    rw [joinPieces?_unit (by omega), Char.ofNat_toNat]
  · have hq : c ≠ '"' := by simpa using h1
    have hb : c ≠ '\\' := by simpa using h2
    exact ⟨.char c, by simp [pieces?, hb, h8], fun ps => by simp [joinPieces?]⟩

/-- A string is read back from its text after the opening quote. -/
theorem string?_flatMap (s : String) (rest : List Char) :
    string? (s.toList.flatMap escapedChar ++ '"' :: rest) = some (some s, rest) := by
  have hpieces : ∀ cs : List Char, ∃ ps,
      pieces? (cs.flatMap escapedChar ++ '"' :: rest) = some (ps, rest) ∧
        joinPieces? ps = some cs := by
    intro cs
    induction cs with
    | nil => exact ⟨[], by simp [pieces?], by simp [joinPieces?]⟩
    | cons c cs ih =>
      obtain ⟨ps, hps, hjoin⟩ := ih
      obtain ⟨p, hp, hpjoin⟩ :=
        exists_pieces?_escapedChar c (cs.flatMap escapedChar ++ '"' :: rest)
      refine ⟨p :: ps, ?_, by simp [hpjoin, hjoin]⟩
      rw [List.flatMap_cons, List.append_assoc, hp, hps]
      rfl
  obtain ⟨ps, hps, hjoin⟩ := hpieces s.toList
  simp [string?, hps, hjoin]

/-! ## Numbers -/

/-- Whether a character could continue a natural number to another numeral. -/
def continuesNumeral (c : Char) : Bool := c.isDigit || c == '.' || c == 'e' || c == 'E'

/-- The whole part of a natural number is read back. -/
theorem wholePart?_toDigits (n : Nat) (hr : Stops Char.isDigit rest) :
    wholePart? (Nat.toDigits 10 n ++ rest) = some (Nat.toDigits 10 n, rest) := by
  have hds := isDigit_of_mem_toDigits (n := n)
  unfold wholePart?
  rw [takeWhile_append_stops hds hr, dropWhile_append_stops hds hr]
  split
  · next h => exact absurd h Nat.toDigits_ne_nil
  · next d ds h =>
    -- two digits with a zero at the front belong to no number
    have hpos : 0 < n := by
      by_contra h0
      obtain rfl : n = 0 := by omega
      simp at h
    exact absurd (by rw [h]; rfl) (head?_toDigits hpos)
  · rfl

theorem stops_isDigit (hr : Stops continuesNumeral rest) : Stops Char.isDigit rest := by
  intro c hc
  have h := hr c hc
  simp only [continuesNumeral, Bool.or_eq_false_iff] at h
  exact h.1.1.1

/-- Nothing follows the digits of a whole number but what continues no numeral. -/
theorem fractionPart?_of_stops (hr : Stops continuesNumeral rest) :
    fractionPart? rest = some (none, rest) := by
  unfold fractionPart?
  split
  · next cs =>
    have h := stops_cons.1 hr
    exact absurd h (by decide)
  · rfl

theorem powerPart?_of_stops (hr : Stops continuesNumeral rest) :
    powerPart? rest = some (none, rest) := by
  cases rest with
  | nil => rfl
  | cons c cs =>
    have h := stops_cons.1 hr
    simp only [continuesNumeral, Bool.or_eq_false_iff] at h
    simp [powerPart?, h.1.2, h.2]

/-- The digits of a natural number are a numeral without sign, fraction and power. -/
theorem numeral?_toDigits (n : Nat) (hr : Stops continuesNumeral rest) :
    numeral? (Nat.toDigits 10 n ++ rest) =
      some (⟨false, Nat.toDigits 10 n, none, none⟩, rest) := by
  obtain ⟨d, ds, hd, hdigit⟩ := exists_toDigits_eq_cons n
  have hminus : d ≠ '-' := by
    rintro rfl
    exact absurd hdigit (by decide)
  have hwhole := wholePart?_toDigits n (stops_isDigit hr)
  rw [hd, List.cons_append] at hwhole ⊢
  unfold numeral?
  split
  next negative cs heq =>
    obtain ⟨rfl, rfl⟩ : negative = false ∧ cs = d :: (ds ++ rest) := by
      split at heq
      · next h => exact absurd (List.cons.inj h).1 hminus
      · obtain ⟨h1, h2⟩ := Prod.mk.inj heq
        exact ⟨h1.symm, h2.symm⟩
    simp [hwhole, fractionPart?_of_stops hr, powerPart?_of_stops hr]

/-- A natural number that fits a machine word is read back. -/
theorem numberDraft_toDigits {n : Nat} (hn : n ≤ maxSignificand) (hr : Stops continuesNumeral rest) :
    numberDraft (Nat.toDigits 10 n ++ rest) = (.number (.whole n), some rest) := by
  have hvalue : Numeral.value? ⟨false, Nat.toDigits 10 n, none, none⟩ = some (.whole n) := by
    simp [Numeral.value?, digitsValue_toDigits, hn]
  simp only [numberDraft, numeral?_toDigits n hr, hvalue]

end Cadastre.Json
