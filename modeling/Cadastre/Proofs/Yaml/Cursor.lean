import Cadastre.Proofs.Text.Run
import Cadastre.Yaml.Cursor

/-!
# Moving through a text

Where a cursor stands after some characters, after a line break, and after what separates two
tokens.
-/

namespace Cadastre.Yaml

open Text

variable {cs w rest : List Char} {ch : Char}

/-! ## Characters -/

theorem isGapOrBreak_eq_false_iff :
    isGapOrBreak ch = false ↔ ch ≠ ' ' ∧ ch ≠ '\t' ∧ isBreak ch = false := by
  simp [isGapOrBreak, isGap, and_assoc]

theorem isGap_of_isBreak (h : isBreak ch = true) : isGap ch = false := by
  simp only [isBreak, Bool.or_eq_true, beq_iff_eq] at h
  rcases h with (((rfl | rfl) | rfl) | rfl) | rfl <;> rfl

theorem isGapOrBreak_of_isBreak (h : isBreak ch = true) : isGapOrBreak ch = true := by
  rw [isGapOrBreak, h, Bool.or_true]

/-- A text is over or begins with a token: with no blank or break, no comment and no mark of byte
order. -/
def StartsToken (cs : List Char) : Prop :=
  ∀ ch ∈ cs.head?, isGapOrBreak ch = false ∧ ch ≠ '#' ∧ ch ≠ '\ufeff'

theorem startsToken_cons :
    StartsToken (ch :: cs) ↔ isGapOrBreak ch = false ∧ ch ≠ '#' ∧ ch ≠ '\ufeff' := by
  simp [StartsToken]

theorem startsToken_nil : StartsToken [] := by
  simp [StartsToken]

/-! ## Bytes -/

theorem byteCount_append (a b : List Char) : byteCount (a ++ b) = byteCount a + byteCount b := by
  have hfold : ∀ (cs : List Char) (n : Nat),
      cs.foldl (fun n c => n + c.utf8Size) n = n + cs.foldl (fun n c => n + c.utf8Size) 0 := by
    intro cs
    induction cs with
    | nil => simp
    | cons c cs ih =>
      intro n
      rw [List.foldl_cons, List.foldl_cons, ih (n + c.utf8Size), ih (0 + c.utf8Size)]
      omega
  rw [byteCount, List.foldl_append, hfold]
  rfl

namespace Cursor

variable {c : Cursor}

/-! ## On one line -/

theorem skip_rest (n : Nat) (c : Cursor) : (c.skip n).rest = c.rest.drop n := rfl

theorem skip_column (n : Nat) (c : Cursor) : (c.skip n).column = c.column + n := rfl

theorem skip_zero (c : Cursor) : c.skip 0 = c := by
  simp [skip, byteCount]

theorem skip_skip (m n : Nat) (c : Cursor) : (c.skip m).skip n = c.skip (m + n) := by
  simp only [skip, List.drop_drop, List.take_add, byteCount_append, Nat.add_assoc]

theorem skip_rest_append (h : c.rest = w ++ rest) : (c.skip w.length).rest = rest := by
  rw [skip_rest, h, List.drop_left]

theorem skip_index_append (h : c.rest = w ++ rest) :
    (c.skip w.length).index = c.index + byteCount w := by
  rw [skip, h, List.take_left]

theorem skip_rest_cons (h : c.rest = ch :: rest) : (c.skip 1).rest = rest :=
  skip_rest_append (w := [ch]) h

theorem span_append {p : Char → Bool} (h : c.rest = w ++ rest) (hw : ∀ ch ∈ w, p ch = true)
    (hstops : Stops p rest) : c.span p = (w, c.skip w.length) := by
  rw [span, h, takeWhile_append_stops hw hstops]

theorem skipWhile_append {p : Char → Bool} (h : c.rest = w ++ rest) (hw : ∀ ch ∈ w, p ch = true)
    (hstops : Stops p rest) : c.skipWhile p = c.skip w.length := by
  rw [skipWhile, span_append h hw hstops]

theorem at?_eq_false (h : ∀ other ∈ c.rest.head?, other ≠ ch) : c.at? ch = false := by
  rw [at?, beq_eq_false_iff_ne]
  exact fun heq => h ch heq rfl

/-! ## Line breaks -/

/-- A break that is no carriage return is passed alone. -/
theorem nextLine_cons (h : c.rest = ch :: rest) (hbreak : isBreak ch = true) (hch : ch ≠ '\r') :
    c.nextLine = ⟨rest, c.index + ch.utf8Size, c.line + 1, 0⟩ := by
  unfold nextLine
  split
  · next heq => exact absurd (List.cons.inj (h.symm.trans heq)).1 hch
  · next heq =>
    obtain ⟨rfl, rfl⟩ := List.cons.inj (h.symm.trans heq)
    rw [if_pos hbreak]
  · next heq => exact absurd (h.symm.trans heq) (by simp)

/-- The place after a newline and the indentation of the next line. -/
theorem skip_nextLine {n : Nat} (h : c.rest = '\n' :: (List.replicate n ' ' ++ rest)) :
    (c.nextLine.skip n).rest = rest ∧ (c.nextLine.skip n).column = n := by
  rw [nextLine_cons h rfl (by decide)]
  refine ⟨?_, Nat.zero_add n⟩
  rw [skip_rest]
  exact List.drop_left' (List.length_replicate ..)

/-! ## To the next token -/

/-- Spaces before a token are passed. -/
theorem toToken_spaces {flow keyAllowed : Bool} {n fuel : Nat}
    (h : c.rest = List.replicate n ' ' ++ rest) (hrest : StartsToken rest) :
    c.toToken flow (fuel + 1) keyAllowed = (keyAllowed, c.skip n) := by
  have hmark : (c.column == 0 && c.at? '\ufeff') = false := by
    rw [Bool.and_eq_false_iff]
    refine .inr (at?_eq_false fun other hother => ?_)
    rw [h] at hother
    cases n with
    | zero => exact (hrest other hother).2.2
    | succ n =>
      obtain rfl : ' ' = other := by simpa [List.replicate_succ] using hother
      decide
  have hskip : c.skipWhile (fun ch => ch == ' ' || ((flow || !keyAllowed) && ch == '\t')) =
      c.skip n := by
    have hpass : ∀ p : Char → Bool, (∀ ch ∈ List.replicate n ' ', p ch = true) → Stops p rest →
        c.skipWhile p = c.skip n := by
      intro p hp hstops
      rw [skipWhile_append h hp hstops, List.length_replicate]
    refine hpass _ ?_ fun other hother => ?_
    · intro ch hch
      simp [(List.mem_replicate.1 hch).2]
    · obtain ⟨hspace, htab, -⟩ := isGapOrBreak_eq_false_iff.1 (hrest other hother).1
      simp [hspace, htab]
  have hafter : (c.skip n).rest = rest := by
    simpa using skip_rest_append (w := List.replicate n ' ') h
  have hcomment : (c.skip n).at? '#' = false :=
    at?_eq_false fun other hother => (hrest other (hafter ▸ hother)).2.1
  rw [toToken]
  simp only [hmark, Bool.false_eq_true, if_false, hskip, hcomment, hafter]
  cases rest with
  | nil => rfl
  | cons b rest =>
    have hbreak := (isGapOrBreak_eq_false_iff.1 (startsToken_cons.1 hrest).1).2.2
    simp [hbreak]

/-- A newline and the indentation of a token are passed; outside brackets a key may begin there. -/
theorem toToken_newLine {flow keyAllowed : Bool} {n fuel : Nat}
    (h : c.rest = '\n' :: (List.replicate n ' ' ++ rest)) (hrest : StartsToken rest) :
    c.toToken flow (fuel + 2) keyAllowed = (keyAllowed || !flow, c.nextLine.skip n) := by
  have hmark : (c.column == 0 && c.at? '\ufeff') = false := by
    rw [Bool.and_eq_false_iff]
    refine .inr (at?_eq_false fun other hother => ?_)
    obtain rfl : '\n' = other := by simpa [h] using hother
    decide
  have hskip : c.skipWhile (fun ch => ch == ' ' || ((flow || !keyAllowed) && ch == '\t')) = c := by
    have hnone := skipWhile_append (c := c) (w := []) h
      (p := fun ch => ch == ' ' || ((flow || !keyAllowed) && ch == '\t')) (by simp)
      (stops_cons.2 (by simp))
    rw [hnone, List.length_nil, skip_zero]
  have hcomment : c.at? '#' = false := by
    refine at?_eq_false fun other hother => ?_
    obtain rfl : '\n' = other := by simpa [h] using hother
    decide
  have hline := nextLine_cons h rfl (by decide)
  rw [toToken]
  simp only [hmark, Bool.false_eq_true, if_false, hskip, hcomment]
  rw [h]
  simp only [show isBreak '\n' = true from rfl, if_true]
  refine toToken_spaces ?_ hrest
  rw [hline]

end Cursor

end Cadastre.Yaml
