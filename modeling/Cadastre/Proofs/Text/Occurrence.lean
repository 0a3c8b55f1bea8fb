import Cadastre.Proofs.Text.Places
import Mathlib.Data.List.Infix

/-!
# Texts within a text

Whether one text occurs within another one. A character that does not belong to a text separates: the
text occurs on one side of it or on the other. Cutting a text at the first place of a mark leaves a
part in which the mark does not occur, and a part in which it does not occur is what cutting finds.
-/

namespace Cadastre.Text

variable {w x y cs mark line a b : List Char} {c : Char}

theorem occursIn_iff : occursIn w cs = true ↔ w <:+: cs := by
  induction cs with
  | nil => rw [occursIn, List.isEmpty_iff, List.infix_nil]
  | cons c cs ih =>
    rw [occursIn, Bool.or_eq_true, List.isPrefixOf_iff_prefix, ih, List.infix_cons_iff]

/-! ## Separation -/

/-- A text occurs on one side of a character that does not belong to it. -/
theorem infix_append_cons_iff (hc : c ∉ w) : w <:+: x ++ c :: y ↔ w <:+: x ∨ w <:+: y := by
  rw [List.infix_append_iff]
  constructor
  · rintro (h | h | ⟨u, v, rfl, hu, hv⟩)
    · exact .inl h
    · rcases List.infix_cons_iff.1 h with h | h
      · cases w with
        | nil => exact .inl List.nil_infix
        | cons d w =>
          obtain ⟨rfl, -⟩ := List.cons_prefix_cons.1 h
          exact absurd List.mem_cons_self hc
      · exact .inr h
    · cases v with
      | nil => exact .inl (by simpa using hu.isInfix)
      | cons d v =>
        obtain ⟨rfl, -⟩ := List.cons_prefix_cons.1 hv
        exact absurd (by simp) hc
  · rintro (h | h)
    · exact .inl h
    · exact .inr (.inl (List.infix_cons h))

/-- A text occurs before everything that lacks its last character. -/
theorem infix_append_iff_of_last (hc : c ∉ y) : w ++ [c] <:+: x ++ y ↔ w ++ [c] <:+: x := by
  constructor
  · intro h
    rcases List.infix_append_iff.1 h with h | h | ⟨u, v, heq, hu, hv⟩
    · exact h
    · exact absurd (h.subset (by simp)) hc
    · rcases List.eq_nil_or_concat v with rfl | ⟨v, d, rfl⟩
      · rw [heq, List.append_nil]
        exact hu.isInfix
      · rw [List.concat_eq_append, ← List.append_assoc] at heq
        obtain ⟨-, hd⟩ := List.append_inj' heq rfl
        obtain rfl : c = d := by simpa using hd
        exact absurd (hv.subset (by simp)) hc
  · exact List.infix_append_of_infix_left

/-- Up to a character that stands in neither of two texts, both are fixed by what they begin. -/
theorem append_cons_inj (hx : c ∉ x) (ha : c ∉ a) (h : x ++ c :: y = a ++ c :: b) :
    x = a ∧ y = b := by
  have hstop : ∀ rest, Stops (· != c) (c :: rest) := fun rest => stops_cons.2 (by simp)
  have hne : ∀ {u : List Char}, c ∉ u → ∀ d ∈ u, (d != c) = true := by
    intro u hu d hd
    simp only [bne_iff_ne]
    rintro rfl
    exact hu hd
  have htake := congrArg (List.takeWhile (· != c)) h
  rw [takeWhile_append_stops (hne hx) (hstop y), takeWhile_append_stops (hne ha) (hstop b)] at htake
  subst htake
  simpa using h

/-- From such a character on, both are fixed by what they end with. -/
theorem append_cons_inj_right (hy : c ∉ y) (hb : c ∉ b) (h : x ++ c :: y = a ++ c :: b) :
    x = a ∧ y = b := by
  have hback : y.reverse ++ c :: x.reverse = b.reverse ++ c :: a.reverse := by
    simpa using congrArg List.reverse h
  obtain ⟨hyb, hxa⟩ := append_cons_inj (by simpa using hy) (by simpa using hb) hback
  exact ⟨List.reverse_injective hxa, List.reverse_injective hyb⟩

/-! ## Before the first place of a mark -/

theorem before_isPrefix (mark cs : List Char) : before mark cs <+: cs := by
  induction cs with
  | nil => exact List.prefix_rfl
  | cons c cs ih =>
    unfold before
    split
    · exact List.nil_prefix
    · exact List.cons_prefix_cons.2 ⟨rfl, ih⟩

/-- A mark does not occur before its first place. -/
theorem not_infix_before (hne : mark ≠ []) (cs : List Char) : ¬ mark <:+: before mark cs := by
  induction cs with
  | nil => simpa [before] using hne
  | cons c cs ih =>
    unfold before
    split
    · simpa using hne
    · next hno =>
      intro h
      rcases List.infix_cons_iff.1 h with h | h
      · have hlong : mark <+: c :: cs :=
          h.trans (List.cons_prefix_cons.2 ⟨rfl, before_isPrefix mark cs⟩)
        exact hno (List.isPrefixOf_iff_prefix.2 hlong)
      · exact ih h

/-- Where a mark does not occur, all of the text is before it. -/
theorem before_eq_self (h : ¬ mark <:+: cs) : before mark cs = cs := by
  induction cs with
  | nil => rfl
  | cons c cs ih =>
    rw [List.infix_cons_iff, not_or] at h
    obtain ⟨hhere, hlater⟩ := h
    rw [← List.isPrefixOf_iff_prefix] at hhere
    rw [before, if_neg hhere, ih hlater]

/-! ## Cutting at a mark -/

/-- What is cut off in front of a mark does not hold the mark. -/
theorem not_infix_of_cut? (hne : mark ≠ []) (h : cut? mark cs = some (a, b)) : ¬ mark <:+: a := by
  rw [cut?_eq, Option.map_eq_some_iff] at h
  obtain ⟨⟨n, rest⟩, hread, he⟩ := h
  obtain ⟨-, hnone⟩ := firstRead?_eq_some_iff.1 hread
  obtain ⟨rfl, -⟩ := Prod.mk.inj he
  rintro ⟨u, v, huv⟩
  -- the mark would stand in the whole text as well, at a place before the first one
  have hlen := congrArg List.length huv
  have hpos := List.length_pos_of_ne_nil hne
  simp only [List.length_append] at hlen
  have hle := List.length_take_le n cs
  have hdrop : cs.drop u.length = mark ++ (v ++ cs.drop n) := by
    conv_lhs => rw [← List.take_append_drop n cs, ← huv]
    simp
  have hsome := hnone u.length (by omega)
  rw [List.isPrefixOf?_eq_some_iff_append_eq.2 hdrop.symm] at hsome
  cases hsome

/-- A text is cut at a mark that does not occur in it before, not even in part. -/
theorem cut?_append (h : ¬ mark <:+: x ++ mark.dropLast) :
    cut? mark (x ++ (mark ++ y)) = some (x, y) := by
  rw [cut?_eq]
  have hread : firstRead? mark.isPrefixOf? (x ++ (mark ++ y)) = some (x.length, y) := by
    rw [firstRead?_eq_some_iff, List.drop_left' rfl]
    refine ⟨List.isPrefixOf?_eq_some_iff_append_eq.2 rfl, fun i hi => ?_⟩
    by_contra hsome
    obtain ⟨rest, hrest⟩ := Option.ne_none_iff_exists'.1 hsome
    have hmark : mark <+: (x ++ mark.dropLast).drop i := by
      refine List.prefix_of_prefix_length_le
        ⟨rest, List.isPrefixOf?_eq_some_iff_append_eq.1 hrest⟩ ?_ ?_
      · refine ((List.prefix_append_right_inj x).2 ?_).drop i
        exact List.IsPrefix.trans (List.dropLast_prefix mark) (List.prefix_append mark y)
      · simp only [List.length_drop, List.length_append, List.length_dropLast]
        omega
    exact h (hmark.isInfix.trans (List.drop_suffix i _).isInfix)
  rw [hread]
  simp

/-! ## Lines -/

/-- A line ends where its newline is. -/
theorem lines_append_newLine (h : '\n' ∉ line) (cs : List Char) :
    lines (line ++ '\n' :: cs) = line :: lines cs := by
  induction line with
  | nil => rfl
  | cons c line ih =>
    rw [List.mem_cons, not_or] at h
    have hc : (c == '\n') = false := beq_eq_false_iff_ne.2 (Ne.symm h.1)
    unfold lines at ih ⊢
    rw [List.cons_append, splitAt, hc, ih h.2]
    rfl

/-- A line is a part of its text without a newline. -/
theorem infix_of_mem_lines (h : line ∈ lines cs) : line <:+: cs ∧ '\n' ∉ line := by
  -- the first line is where the text begins, which is what the next character is put in front of
  have hall : ∀ cs, ∃ first later, lines cs = first :: later ∧ first <+: cs ∧ '\n' ∉ first ∧
      ∀ l ∈ later, l <:+: cs ∧ '\n' ∉ l := by
    intro cs
    induction cs with
    | nil => exact ⟨[], [], rfl, List.nil_prefix, by simp, by simp⟩
    | cons c cs ih =>
      obtain ⟨first, later, heq, hfirst, hnone, hlater⟩ := ih
      unfold lines at heq
      unfold lines
      rw [splitAt]
      by_cases hc : c = '\n'
      · refine ⟨[], first :: later, by simp [hc, heq], List.nil_prefix, by simp, ?_⟩
        intro l hl
        rcases List.mem_cons.1 hl with rfl | hl
        · exact ⟨List.infix_cons hfirst.isInfix, hnone⟩
        · exact ⟨List.infix_cons (hlater l hl).1, (hlater l hl).2⟩
      · refine ⟨c :: first, later, by simp [hc, heq], List.cons_prefix_cons.2 ⟨rfl, hfirst⟩, ?_, ?_⟩
        · rw [List.mem_cons, not_or]
          exact ⟨Ne.symm hc, hnone⟩
        · exact fun l hl => ⟨List.infix_cons (hlater l hl).1, (hlater l hl).2⟩
  obtain ⟨first, later, heq, hfirst, hnone, hlater⟩ := hall cs
  rw [heq] at h
  rcases List.mem_cons.1 h with rfl | h
  · exact ⟨hfirst.isInfix, hnone⟩
  · exact hlater line h

end Cadastre.Text
