import Cadastre.Proofs.Text.Run
import Cadastre.Text.Word

/-!
# Words between blank characters

No blank character is a digit or belongs to a word, in any script, so the blank characters before
and after a word are told from it. A keyword is read in any letter case, character by character.
-/

namespace Cadastre.Text

variable {cs rest word : List Char}

/-- The numbers of the blank characters. -/
def blankNumbers : List Nat :=
  [9, 10, 11, 12, 13, 32, 0x85, 0xa0, 0x1680, 0x2000, 0x2001, 0x2002, 0x2003, 0x2004, 0x2005,
    0x2006, 0x2007, 0x2008, 0x2009, 0x200a, 0x2028, 0x2029, 0x202f, 0x205f, 0x3000]

theorem toNat_mem_blankNumbers {c : Char} (h : isBlank c = true) : c.toNat ∈ blankNumbers := by
  simp only [isBlank, Bool.or_eq_true, Bool.and_eq_true, decide_eq_true_eq, beq_iff_eq] at h
  simp only [blankNumbers, List.mem_cons, List.not_mem_nil, or_false]
  omega

/-- What holds of the blank characters, one by one, holds of a blank character. -/
theorem forall_blank {P : Char → Prop} (h : ∀ n ∈ blankNumbers, P (Char.ofNat n)) {c : Char}
    (hc : isBlank c = true) : P c := by
  have := h c.toNat (toNat_mem_blankNumbers hc)
  rwa [Char.ofNat_toNat] at this

theorem isWord_of_isBlank {c : Char} (h : isBlank c = true) : isWord c = false :=
  forall_blank (P := fun c => isWord c = false) (by decide +kernel) h

theorem isDigit_of_isBlank {c : Char} (h : isBlank c = true) : isDigit c = false :=
  forall_blank (P := fun c => isDigit c = false) (by decide +kernel) h

/-- Blank characters have no case. -/
theorem foldLetter_of_isBlank {c : Char} (h : isBlank c = true) : foldLetter c = c :=
  forall_blank (P := fun c => foldLetter c = c) (by decide +kernel) h

theorem isBlank_of_isWord {c : Char} (h : isWord c = true) : isBlank c = false := by
  by_contra hb
  rw [isWord_of_isBlank (by simpa using hb)] at h
  exact absurd h (by simp)

theorem isBlank_of_digit {c : Char} (h : isDigit c = true) : isBlank c = false := by
  by_contra hb
  rw [isDigit_of_isBlank (by simpa using hb)] at h
  exact absurd h (by simp)

theorem dropWord?_eq_some_iff :
    dropWord? word cs = some rest ↔ ∃ w, w.map foldLetter = word ∧ cs = w ++ rest := by
  induction word generalizing cs with
  | nil => simp [dropWord?, eq_comm]
  | cons d word ih =>
    cases cs with
    | nil =>
      constructor
      · intro h
        simp [dropWord?] at h
      · rintro ⟨w, hw, hcs⟩
        obtain ⟨rfl, -⟩ : w = [] ∧ rest = [] := by simpa using hcs.symm
        simp at hw
    | cons c cs =>
      simp only [dropWord?]
      split
      · next hc =>
        rw [ih]
        constructor
        · rintro ⟨w, rfl, rfl⟩
          exact ⟨c :: w, by simpa using hc, rfl⟩
        · rintro ⟨w, hw, hcs⟩
          cases w with
          | nil => simp at hw
          | cons x w =>
            obtain ⟨-, rfl⟩ := List.cons.inj hcs
            exact ⟨w, (List.cons.inj hw).2, rfl⟩
      · next hc =>
        constructor
        · intro h
          simp at h
        · rintro ⟨w, hw, hcs⟩
          cases w with
          | nil => simp at hw
          | cons x w =>
            obtain ⟨rfl, -⟩ := List.cons.inj hcs
            exact absurd (by simpa using (List.cons.inj hw).1) hc

end Cadastre.Text
