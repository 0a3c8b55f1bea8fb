import Cadastre.Proofs.Text.Run
import Cadastre.Text.Word

/-!
# Numbers in decimal digits

The digits of a number have that number as their value, and none of them is a needless zero at the
front.
-/

namespace Cadastre.Text

theorem digitsValue_eq_ofDigitChars (ds : List Char) : digitsValue ds = Nat.ofDigitChars 10 ds 0 :=
  rfl

theorem digitsValue_toDigits (n : Nat) : digitsValue (Nat.toDigits 10 n) = n := by
  rw [digitsValue_eq_ofDigitChars, Nat.ofDigitChars_ten_toDigits]

theorem isDigit_of_mem_toDigits {n : Nat} : ∀ c ∈ Nat.toDigits 10 n, c.isDigit = true :=
  fun _ hc => Nat.isDigit_of_mem_toDigits (by omega) (by omega) hc

theorem isAlphanum_of_mem_toDigits {n : Nat} : ∀ c ∈ Nat.toDigits 10 n, c.isAlphanum = true :=
  fun c hc => by rw [Char.isAlphanum, isDigit_of_mem_toDigits c hc, Bool.or_true]

theorem exists_toDigits_eq_cons (n : Nat) :
    ∃ c cs, Nat.toDigits 10 n = c :: cs ∧ c.isDigit = true := by
  obtain ⟨c, cs, h⟩ := List.exists_cons_of_ne_nil (Nat.toDigits_ne_nil (n := n) (b := 10))
  exact ⟨c, cs, h, isDigit_of_mem_toDigits c (h ▸ List.mem_cons_self)⟩

/-- Zeros at the front do not change a value. -/
theorem digitsValue_replicate_append (k : Nat) (ds : List Char) :
    digitsValue (List.replicate k '0' ++ ds) = digitsValue ds := by
  induction k with
  | zero => rfl
  | succ k ih =>
    rw [← ih]
    rfl

/-- A positive number does not begin with a zero. -/
theorem head?_toDigits {n : Nat} (h : 0 < n) : (Nat.toDigits 10 n).head? ≠ some '0' := by
  induction n using Nat.strong_induction_on with
  | _ n ih =>
    by_cases hlt : n < 10
    · rw [Nat.toDigits_of_lt_base hlt]
      have hzero : ∀ m < 10, 0 < m → m.digitChar ≠ '0' := by decide
      simpa using hzero n hlt h
    · rw [Nat.toDigits_of_base_le (by omega) (by omega), List.head?_append_of_ne_nil _
        Nat.toDigits_ne_nil]
      exact ih (n / 10) (by omega) (by omega)

/-- A text is a number in decimal digits, with a plus sign before them or not. -/
def IsDecimal (cs : List Char) (n : Nat) : Prop :=
  ∃ sign digits, cs = sign ++ digits ∧ (sign = [] ∨ sign = ['+']) ∧ digits ≠ [] ∧
    (∀ d ∈ digits, d.isDigit = true) ∧ Nat.ofDigitChars 10 digits 0 = n

/-- The value of digits without a sign, if it needs at most 64 bits. -/
def unsigned64? (digits : List Char) : Option Nat :=
  if digits.isEmpty || !digits.all Char.isDigit then none
  else if digitsValue digits < Nat.pow 2 64 then some (digitsValue digits) else none

theorem natural64?_plus (digits : List Char) :
    natural64? ('+' :: digits) = unsigned64? digits :=
  rfl

theorem natural64?_eq_unsigned64? {cs : List Char} (h : Stops (· == '+') cs) :
    natural64? cs = unsigned64? cs := by
  unfold natural64?
  split
  · next ds => exact absurd (stops_cons.1 h) (by decide)
  · rfl

theorem unsigned64?_eq_some_iff {digits : List Char} {n : Nat} :
    unsigned64? digits = some n ↔ digits ≠ [] ∧ (∀ d ∈ digits, d.isDigit = true) ∧
      Nat.ofDigitChars 10 digits 0 = n ∧ n < Nat.pow 2 64 := by
  unfold unsigned64?
  rw [digitsValue_eq_ofDigitChars]
  constructor
  · intro h
    split at h
    · cases h
    · next hdigits =>
      split at h
      · next hlt =>
        obtain rfl := Option.some.inj h
        obtain ⟨hne, hall⟩ : digits ≠ [] ∧ ∀ d ∈ digits, d.isDigit = true := by
          simpa using hdigits
        exact ⟨hne, hall, rfl, hlt⟩
      · cases h
  · rintro ⟨hne, hall, rfl, hlt⟩
    rw [if_neg (by simpa [hne] using hall), if_pos hlt]

/-- The numbers that are read are those in decimal digits that need at most 64 bits. -/
theorem natural64?_eq_some_iff {cs : List Char} {n : Nat} :
    natural64? cs = some n ↔ IsDecimal cs n ∧ n < Nat.pow 2 64 := by
  constructor
  · intro h
    by_cases hstops : Stops (· == '+') cs
    · rw [natural64?_eq_unsigned64? hstops] at h
      obtain ⟨hne, hall, hvalue, hlt⟩ := unsigned64?_eq_some_iff.1 h
      exact ⟨⟨[], cs, rfl, .inl rfl, hne, hall, hvalue⟩, hlt⟩
    · obtain ⟨digits, rfl⟩ : ∃ digits, cs = '+' :: digits := by
        cases cs with
        | nil => simp [Stops] at hstops
        | cons c digits => exact ⟨digits, by simpa [stops_cons] using hstops⟩
      obtain ⟨hne, hall, hvalue, hlt⟩ := unsigned64?_eq_some_iff.1 (natural64?_plus digits ▸ h)
      exact ⟨⟨['+'], digits, rfl, .inr rfl, hne, hall, hvalue⟩, hlt⟩
  · rintro ⟨⟨sign, digits, rfl, hsign, hne, hall, hvalue⟩, hlt⟩
    have hread := unsigned64?_eq_some_iff.2 ⟨hne, hall, hvalue, hlt⟩
    rcases hsign with rfl | rfl
    · have hstops : Stops (· == '+') digits := by
        intro d hd
        rw [beq_eq_false_iff_ne]
        rintro rfl
        exact absurd (hall '+' (List.mem_of_mem_head? hd)) (by decide)
      rw [List.nil_append, natural64?_eq_unsigned64? hstops, hread]
    · exact hread

/-- No digit is blank. -/
theorem isBlank_of_isDigit {c : Char} (h : c.isDigit = true) : isBlank c = false := by
  have hc : 48 ≤ c.toNat ∧ c.toNat ≤ 57 := by
    simpa [Char.isDigit, UInt32.le_iff_toNat_le, Char.toNat_val] using h
  unfold isBlank
  simp only [Bool.or_eq_false_iff, Bool.and_eq_false_iff, decide_eq_false_iff_not,
    beq_eq_false_iff_ne]
  omega

end Cadastre.Text
