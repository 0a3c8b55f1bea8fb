import Cadastre.Proofs.Text.Digits
import Cadastre.Proofs.Text.Places
import Cadastre.Proofs.Text.Word
import Cadastre.Router.Routes
import Mathlib.Algebra.Group.Nat.Defs

/-!
# The status that arguments declare

A status is written as its word, an equals sign and a run of digits. The first one that is written
among the arguments of an endpoint decides, also when its digits are no number that fits; no later
one is looked at.
-/

namespace Cadastre.Router

open Text

variable {cs args rest digits : List Char} {p : Nat} {n : UInt16}

/-- The text of a status with its digits. -/
inductive IsStatus : List Char → List Char → Prop where
  /-- The word in any letter case, an equals sign and digits, with blank characters between them. -/
  | mk {word gap gap' digits : List Char} (hword : word.map foldLetter = statusWord)
      (hgap : Blank gap) (hgap' : Blank gap') (hne : digits ≠ [])
      (hdigits : ∀ d ∈ digits, isDigit d = true) :
      IsStatus digits (word ++ (gap ++ '=' :: (gap' ++ digits)))

/-- A status is written at a place, and its digits are the whole run of them. -/
def StatusAt (cs : List Char) (p : Nat) (digits : List Char) : Prop :=
  ∃ w q, IsStatus digits w ∧ Stands cs w p q ∧ Stops isDigit (cs.drop q)

/-- What arguments say about the status. -/
inductive DeclaresStatus (args : List Char) : UInt16 → Prop where
  /-- The first status has ASCII digits, and its number needs at most 16 bits. -/
  | number {p : Nat} {digits : List Char} {n : UInt16}
      (hfirst : ∀ i < p, ∀ ds, ¬ StatusAt args i ds) (hp : StatusAt args p digits)
      (hascii : ∀ d ∈ digits, d.isDigit = true) (hn : n.toNat = Nat.ofDigitChars 10 digits 0) :
      DeclaresStatus args n
  /-- The first status is no such number. -/
  | other {p : Nat} {digits : List Char} (hfirst : ∀ i < p, ∀ ds, ¬ StatusAt args i ds)
      (hp : StatusAt args p digits)
      (hother : (∀ d ∈ digits, d.isDigit = true) → 2 ^ 16 ≤ Nat.ofDigitChars 10 digits 0) :
      DeclaresStatus args 200
  /-- There is no status. -/
  | absent (hnone : ∀ p ds, ¬ StatusAt args p ds) : DeclaresStatus args 200

theorem IsStatus.ne_nil {w : List Char} (h : IsStatus digits w) : w ≠ [] := by
  obtain ⟨-, -, -, -, -⟩ := h
  simp

theorem statusDigits?_eq_some_iff :
    statusDigits? cs = some digits ↔
      ∃ w rest, IsStatus digits w ∧ cs = w ++ rest ∧ Stops isDigit rest := by
  constructor
  · intro h
    simp only [statusDigits?, Option.bind_eq_bind, Option.bind_eq_some_iff] at h
    obtain ⟨a, ha, b, hb, hd⟩ := h
    obtain ⟨word, hword, rfl⟩ := dropWord?_eq_some_iff.1 ha
    obtain ⟨gap, hgap, hg, -⟩ := exists_blank_append_trimStart a
    obtain ⟨gap', hgap', hg', -⟩ := exists_blank_append_trimStart b
    have hb' : ['='] ++ b = trimStart a := List.isPrefixOf?_eq_some_iff_append_eq.1 hb
    split at hd
    · simp at hd
    · next hne =>
      obtain rfl := Option.some.inj hd
      refine ⟨_, (trimStart b).dropWhile isDigit,
        .mk hword hgap hgap' hne (all_takeWhile _ _), ?_, stops_dropWhile _ _⟩
      rw [hg, ← hb']
      conv_lhs => rw [hg', ← List.takeWhile_append_dropWhile (p := isDigit) (l := trimStart b)]
      simp
  · rintro ⟨_, rest, ⟨hword, hgap, hgap', hne, hdigits⟩, rfl, hs⟩
    rename_i word gap gap'
    have hw : dropWord? statusWord (word ++ (gap ++ '=' :: (gap' ++ (digits ++ rest)))) =
        some (gap ++ '=' :: (gap' ++ (digits ++ rest))) :=
      dropWord?_eq_some_iff.2 ⟨word, hword, rfl⟩
    have hg : trimStart (gap ++ '=' :: (gap' ++ (digits ++ rest))) =
        '=' :: (gap' ++ (digits ++ rest)) :=
      trimStart_append hgap (stops_cons.2 (by decide))
    have hg' : trimStart (gap' ++ (digits ++ rest)) = digits ++ rest := by
      refine trimStart_append hgap' ?_
      obtain ⟨d, ds, rfl⟩ := List.exists_cons_of_ne_nil hne
      exact stops_cons.2 (isBlank_of_digit (hdigits d (by simp)))
    obtain ⟨d, ds, rfl⟩ := List.exists_cons_of_ne_nil hne
    have ht := takeWhile_append_stops hdigits hs
    simp only [List.append_assoc, List.cons_append] at hw hg hg' ht ⊢
    simp [statusDigits?, hw, hg, hg', ht, List.isPrefixOf?]

/-- The reader of statuses reads, at every place, the status that is written there. -/
theorem statusAt_iff : StatusAt cs p digits ↔ statusDigits? (cs.drop p) = some digits := by
  rw [statusDigits?_eq_some_iff]
  constructor
  · rintro ⟨w, q, hw, hstands, hs⟩
    exact ⟨w, cs.drop q, hw, ((stands_iff hw.ne_nil).1 hstands).1, hs⟩
  · rintro ⟨w, rest, hw, hcs, hs⟩
    obtain ⟨hstands, rfl⟩ := stands_of_drop_eq hcs
    exact ⟨w, p + w.length, hw, hstands, hs⟩

theorem firstStatus?_eq : firstStatus? cs = (firstRead? statusDigits? cs).map Prod.snd := by
  induction cs with
  | nil => rfl
  | cons c cs ih =>
    cases hc : statusDigits? (c :: cs) with
    | some ds => simp [firstStatus?, firstRead?_cons_of_some hc, hc]
    | none => simp [firstStatus?, firstRead?_cons_of_none hc, hc, ih, Function.comp_def]

theorem firstStatus?_eq_some_iff :
    firstStatus? cs = some digits ↔
      ∃ p, StatusAt cs p digits ∧ ∀ i < p, ∀ ds, ¬ StatusAt cs i ds := by
  simp only [firstStatus?_eq, Option.map_eq_some_iff, Prod.exists, firstRead?_eq_some_iff,
    statusAt_iff, ← Option.eq_none_iff_forall_ne_some]
  constructor
  · rintro ⟨p, ds, hp, rfl⟩
    exact ⟨p, hp⟩
  · rintro ⟨p, hp⟩
    exact ⟨p, digits, hp, rfl⟩

theorem firstStatus?_eq_none_iff : firstStatus? cs = none ↔ ∀ p ds, ¬ StatusAt cs p ds := by
  simp only [firstStatus?_eq, Option.map_eq_none_iff, firstRead?_eq_none_iff, statusAt_iff,
    ← Option.eq_none_iff_forall_ne_some]

theorem statusValue?_eq_some_iff :
    statusValue? digits = some n ↔
      (∀ d ∈ digits, d.isDigit = true) ∧ n.toNat = Nat.ofDigitChars 10 digits 0 := by
  simp only [statusValue?, ← digitsValue_eq_ofDigitChars, ← List.all_eq_true]
  constructor
  · intro h
    split at h
    · next hascii =>
      split at h
      · next hlt =>
        obtain rfl := Option.some.inj h
        exact ⟨hascii, UInt16.toNat_ofNat_of_lt' hlt⟩
      · simp at h
    · simp at h
  · rintro ⟨hascii, hn⟩
    have hlt : digitsValue digits < Nat.pow 2 16 := hn ▸ n.toNat_lt
    rw [if_pos hascii]
    simp only [hlt, if_true]
    rw [← hn, UInt16.ofNat_toNat]

theorem statusValue?_eq_none_iff :
    statusValue? digits = none ↔
      ((∀ d ∈ digits, d.isDigit = true) → 2 ^ 16 ≤ Nat.ofDigitChars 10 digits 0) := by
  constructor
  · intro h hascii
    by_contra hlt
    have hsome := statusValue?_eq_some_iff.2
      ⟨hascii, UInt16.toNat_ofNat_of_lt' (Nat.lt_of_not_le hlt)⟩
    rw [h] at hsome
    simp at hsome
  · intro h
    cases hv : statusValue? digits with
    | none => rfl
    | some n =>
      obtain ⟨hascii, hn⟩ := statusValue?_eq_some_iff.1 hv
      have hle := h hascii
      rw [← hn] at hle
      exact absurd n.toNat_lt (Nat.not_lt.2 hle)

/-- Arguments say one thing about the status, which is what is read from them. -/
theorem declaresStatus_iff : DeclaresStatus args n ↔ status args = n := by
  constructor
  · rintro (⟨hfirst, hp, hascii, hn⟩ | ⟨hfirst, hp, hother⟩ | hnone)
    · simp [status, firstStatus?_eq_some_iff.2 ⟨_, hp, hfirst⟩,
        statusValue?_eq_some_iff.2 ⟨hascii, hn⟩]
    · simp [status, firstStatus?_eq_some_iff.2 ⟨_, hp, hfirst⟩,
        statusValue?_eq_none_iff.2 hother]
    · simp [status, firstStatus?_eq_none_iff.2 hnone]
  · rintro rfl
    rw [status]
    cases hf : firstStatus? args with
    | none => exact .absent (firstStatus?_eq_none_iff.1 hf)
    | some digits =>
      obtain ⟨p, hp, hfirst⟩ := firstStatus?_eq_some_iff.1 hf
      rw [Option.bind_some]
      cases hv : statusValue? digits with
      | none => exact .other hfirst hp (statusValue?_eq_none_iff.1 hv)
      | some n =>
        obtain ⟨hascii, hn⟩ := statusValue?_eq_some_iff.1 hv
        exact .number hfirst hp hascii hn

end Cadastre.Router
