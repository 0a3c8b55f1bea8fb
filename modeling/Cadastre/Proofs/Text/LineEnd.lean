import Cadastre.Proofs.Text.Places

/-!
# Carriage returns before newlines

A text may end its lines with a newline alone or with a carriage return before it. Both characters
are blank, so a run of characters of one kind is the same run with the returns put in, and a reader
that begins with neither of them finds the same things at the same places. The laws below say this
of runs, trimming, words, marks and the first place where something is read.
-/

namespace Cadastre.Text

variable {α : Type} {cs w mark : List Char} {c : Char}

/-- A newline with a carriage return before it; any other character as it is. -/
def returned (c : Char) : List Char := if c = '\n' then ['\r', '\n'] else [c]

/-- A text with a carriage return before each of its newlines. -/
def withReturns (cs : List Char) : List Char := cs.flatMap returned

/-- `withReturns` on strings. -/
def withReturnsString (s : String) : String := String.ofList (withReturns s.toList)

theorem withReturns_cons (c : Char) (cs : List Char) :
    withReturns (c :: cs) = returned c ++ withReturns cs := rfl

theorem withReturns_append (x y : List Char) :
    withReturns (x ++ y) = withReturns x ++ withReturns y :=
  List.flatMap_append

theorem withReturns_cons_of_ne (h : c ≠ '\n') (cs : List Char) :
    withReturns (c :: cs) = c :: withReturns cs := by
  rw [withReturns_cons, returned, if_neg h]
  rfl

theorem withReturns_newline (cs : List Char) :
    withReturns ('\n' :: cs) = '\r' :: '\n' :: withReturns cs := rfl

theorem exists_withReturns_cons (c : Char) (cs : List Char) :
    ∃ d ds, withReturns (c :: cs) = d :: ds := by
  by_cases h : c = '\n'
  · exact ⟨_, _, h ▸ withReturns_newline cs⟩
  · exact ⟨_, _, withReturns_cons_of_ne h cs⟩

theorem withReturns_eq_self (h : '\n' ∉ cs) : withReturns cs = cs := by
  induction cs with
  | nil => rfl
  | cons c cs ih =>
    rw [List.mem_cons, not_or] at h
    rw [withReturns_cons_of_ne (Ne.symm h.1), ih h.2]

/-! ## Runs -/

/-- Texts put in for characters do not change where a run ends if their characters are of the same
kind. -/
theorem runs_flatMap {p : Char → Bool} {f : Char → List Char} (hne : ∀ c, f c ≠ [])
    (hkind : ∀ c, ∀ d ∈ f c, p d = p c) (cs : List Char) :
    (cs.flatMap f).takeWhile p = (cs.takeWhile p).flatMap f ∧
      (cs.flatMap f).dropWhile p = (cs.dropWhile p).flatMap f := by
  induction cs with
  | nil => exact ⟨rfl, rfl⟩
  | cons c cs ih =>
    by_cases hc : p c = true
    · have hall : ∀ d ∈ f c, p d = true := fun d hd => (hkind c d hd).trans hc
      rw [List.flatMap_cons, List.takeWhile_append_of_pos hall, List.dropWhile_append_of_pos hall,
        ih.1, ih.2, List.takeWhile_cons_of_pos hc, List.dropWhile_cons_of_pos hc]
      exact ⟨rfl, rfl⟩
    · obtain ⟨d, ds, hd⟩ := List.exists_cons_of_ne_nil (hne c)
      have hfirst : ¬ p d = true := by
        rw [hkind c d (by rw [hd]; exact List.mem_cons_self)]
        exact hc
      rw [List.flatMap_cons, hd, List.cons_append, List.takeWhile_cons_of_neg hfirst,
        List.dropWhile_cons_of_neg hfirst, List.takeWhile_cons_of_neg hc,
        List.dropWhile_cons_of_neg hc, List.flatMap_cons, hd]
      exact ⟨rfl, rfl⟩

theorem returned_ne_nil (c : Char) : returned c ≠ [] := by
  unfold returned
  split <;> simp

theorem kind_returned {p : Char → Bool} (h : p '\r' = p '\n') (c : Char) :
    ∀ d ∈ returned c, p d = p c := by
  intro d hd
  unfold returned at hd
  split at hd
  · next hc =>
    subst hc
    rcases List.mem_cons.1 hd with rfl | hd
    · exact h
    · rw [List.mem_singleton.1 hd]
  · rw [List.mem_singleton.1 hd]

theorem takeWhile_withReturns {p : Char → Bool} (h : p '\r' = p '\n') (cs : List Char) :
    (withReturns cs).takeWhile p = withReturns (cs.takeWhile p) :=
  (runs_flatMap returned_ne_nil (kind_returned h) cs).1

theorem dropWhile_withReturns {p : Char → Bool} (h : p '\r' = p '\n') (cs : List Char) :
    (withReturns cs).dropWhile p = withReturns (cs.dropWhile p) :=
  (runs_flatMap returned_ne_nil (kind_returned h) cs).2

/-- A run that goes over no line end is the same. -/
theorem takeWhile_withReturns_eq_self {p : Char → Bool} (hreturn : p '\r' = false)
    (hnewline : p '\n' = false) (cs : List Char) :
    (withReturns cs).takeWhile p = cs.takeWhile p := by
  have hnone : '\n' ∉ cs.takeWhile p := fun h => by
    rw [all_takeWhile p cs '\n' h] at hnewline
    cases hnewline
  rw [takeWhile_withReturns (hreturn.trans hnewline.symm), withReturns_eq_self hnone]

theorem filter_withReturns {p : Char → Bool} (h : p '\r' = p '\n') (cs : List Char) :
    (withReturns cs).filter p = withReturns (cs.filter p) := by
  induction cs with
  | nil => rfl
  | cons c cs ih =>
    rw [withReturns_cons, List.filter_append, ih]
    by_cases hc : p c = true
    · have hall : (returned c).filter p = returned c :=
        List.filter_eq_self.2 fun d hd => (kind_returned h c d hd).trans hc
      rw [hall, List.filter_cons_of_pos hc, withReturns_cons]
    · have hnone : (returned c).filter p = [] :=
        List.filter_eq_nil_iff.2 fun d hd => kind_returned h c d hd ▸ hc
      rw [hnone, List.filter_cons_of_neg hc, List.nil_append]

/-! ## Blank characters -/

theorem trimStart_withReturns (cs : List Char) :
    trimStart (withReturns cs) = withReturns (trimStart cs) :=
  dropWhile_withReturns (by decide) cs

theorem trimEnd_withReturns (cs : List Char) :
    trimEnd (withReturns cs) = withReturns (trimEnd cs) := by
  have hne : ∀ c, (List.reverse ∘ returned) c ≠ [] := by simp [returned_ne_nil]
  have hkind : ∀ c, ∀ d ∈ (List.reverse ∘ returned) c, isBlank d = isBlank c :=
    fun c d hd => kind_returned (by decide) c d (List.mem_reverse.1 hd)
  rw [trimEnd, withReturns, List.reverse_flatMap, (runs_flatMap hne hkind _).2,
    List.reverse_flatMap, trimEnd, withReturns]
  simp [Function.comp_def]

theorem trim_withReturns (cs : List Char) : trim (withReturns cs) = withReturns (trim cs) := by
  rw [trim, trimStart_withReturns, trimEnd_withReturns, trim]

theorem trim_append_of_blank {gap : List Char} (h : Blank gap) (cs : List Char) :
    trim (cs ++ gap) = trim cs := by
  have hend : ∀ xs, trimEnd (xs ++ gap) = trimEnd xs := fun xs => by
    have hback : ∀ c ∈ gap.reverse, isBlank c = true := fun c hc => h c (List.mem_reverse.1 hc)
    rw [trimEnd, List.reverse_append, List.dropWhile_append_of_pos hback, trimEnd]
  rw [trim, trim, trimStart, trimStart, List.dropWhile_append]
  split
  · next hall =>
    have hgap : gap.dropWhile isBlank = [] := List.dropWhile_eq_nil_iff.2 h
    rw [hgap, List.isEmpty_iff.1 hall]
  · exact hend _

theorem dropBlanks?_withReturns (cs : List Char) :
    dropBlanks? (withReturns cs) = (dropBlanks? cs).map withReturns := by
  cases cs with
  | nil => rfl
  | cons c cs =>
    by_cases hc : c = '\n'
    · subst hc
      have hstart : trimStart ('\n' :: withReturns cs) = trimStart (withReturns cs) :=
        List.dropWhile_cons_of_pos (by decide)
      rw [withReturns_newline, dropBlanks?, if_pos (by decide), hstart, trimStart_withReturns,
        dropBlanks?, if_pos (by decide), Option.map_some]
    · rw [withReturns_cons_of_ne hc, dropBlanks?, dropBlanks?]
      split
      · rw [trimStart_withReturns, Option.map_some]
      · rfl

/-! ## Words and marks -/

/-- Neither a carriage return nor a newline stands in a text. -/
def WithoutEnds (w : List Char) : Prop := '\r' ∉ w ∧ '\n' ∉ w

instance (w : List Char) : Decidable (WithoutEnds w) :=
  inferInstanceAs (Decidable ('\r' ∉ w ∧ '\n' ∉ w))

theorem withoutEnds_cons : WithoutEnds (c :: w) ↔ (c ≠ '\r' ∧ c ≠ '\n') ∧ WithoutEnds w := by
  simp only [WithoutEnds, List.mem_cons, not_or, ne_comm (a := c)]
  tauto

theorem isPrefixOf?_withReturns (hw : WithoutEnds w) (cs : List Char) :
    w.isPrefixOf? (withReturns cs) = (w.isPrefixOf? cs).map withReturns := by
  induction w generalizing cs with
  | nil => rfl
  | cons d w ih =>
    obtain ⟨⟨hreturn, hnewline⟩, hw⟩ := withoutEnds_cons.1 hw
    cases cs with
    | nil => rfl
    | cons c cs =>
      by_cases hc : c = '\n'
      · subst hc
        simp [withReturns_newline, List.isPrefixOf?, hreturn, hnewline]
      · rw [withReturns_cons_of_ne hc]
        by_cases hd : d = c
        · subst hd
          simpa [List.isPrefixOf?] using ih hw cs
        · simp [List.isPrefixOf?, hd]

theorem dropWord?_withReturns (hw : WithoutEnds w) (cs : List Char) :
    dropWord? w (withReturns cs) = (dropWord? w cs).map withReturns := by
  induction w generalizing cs with
  | nil => rfl
  | cons d w ih =>
    obtain ⟨⟨hreturn, hnewline⟩, hw⟩ := withoutEnds_cons.1 hw
    have hfold : foldLetter '\r' = '\r' ∧ foldLetter '\n' = '\n' := by decide
    cases cs with
    | nil => rfl
    | cons c cs =>
      by_cases hc : c = '\n'
      · subst hc
        simp [withReturns_newline, dropWord?, hfold, hreturn.symm, hnewline.symm]
      · rw [withReturns_cons_of_ne hc, dropWord?, dropWord?]
        split
        · exact ih hw cs
        · rfl

/-- Up to a mark without a carriage return, a line with such a return at its end is the line itself,
perhaps with the return. -/
theorem before_append_return (hmark : '\r' ∉ mark) (line : List Char) :
    before mark (line ++ ['\r']) = before mark line ∨
      before mark (line ++ ['\r']) = before mark line ++ ['\r'] := by
  have hprefix : ∀ line : List Char, mark <+: line ++ ['\r'] ↔ mark <+: line := by
    refine fun line => ⟨fun h => ?_, fun h => h.trans (List.prefix_append _ _)⟩
    rcases List.prefix_concat_iff.1 h with rfl | h
    · exact absurd (by simp) hmark
    · exact h
  induction line with
  | nil =>
    have hnil : before mark [] = [] := rfl
    rw [List.nil_append, hnil, before, hnil]
    split
    · exact .inl rfl
    · exact .inr rfl
  | cons c line ih =>
    have hsame : mark.isPrefixOf (c :: line ++ ['\r']) = mark.isPrefixOf (c :: line) := by
      rw [Bool.eq_iff_iff, List.isPrefixOf_iff_prefix, List.isPrefixOf_iff_prefix, hprefix]
    rw [List.cons_append] at hsame ⊢
    rw [before, before, hsame]
    split
    · exact .inl rfl
    · exact ih.imp (congrArg (c :: ·)) (congrArg (c :: ·))

theorem head?_withReturns (hreturn : c ≠ '\r') (hnewline : c ≠ '\n') (cs : List Char) :
    (withReturns cs).head? = some c ↔ cs.head? = some c := by
  cases cs with
  | nil => rfl
  | cons d cs =>
    by_cases hd : d = '\n'
    · subst hd
      simp [withReturns_newline, hreturn.symm, hnewline.symm]
    · rw [withReturns_cons_of_ne hd]
      rfl

/-! ## The first place where something is read -/

/-- A reader that begins neither with a carriage return nor with a newline finds the same thing with
the returns put in, at the place that they make of its own. -/
theorem firstRead?_withReturns {read : List Char → Option α} {kept : α → α}
    (hread : ∀ cs, read (withReturns cs) = (read cs).map kept)
    (hskip : ∀ cs, read ('\r' :: cs) = none ∧ read ('\n' :: cs) = none) (cs : List Char) :
    firstRead? read (withReturns cs) =
      (firstRead? read cs).map fun (p, x) => ((withReturns (cs.take p)).length, kept x) := by
  induction cs with
  | nil =>
    have hnil : read [] = (read []).map kept := hread []
    show (read []).map _ = ((read []).map _).map _
    conv_lhs => rw [hnil]
    rw [Option.map_map, Option.map_map]
    rfl
  | cons c cs ih =>
    by_cases hc : c = '\n'
    · subst hc
      rw [withReturns_newline, firstRead?_cons_of_none (hskip _).1,
        firstRead?_cons_of_none (hskip _).2, firstRead?_cons_of_none (hskip _).2, ih]
      simp [Function.comp_def, withReturns_newline]
    · have hfirst := hread (c :: cs)
      rw [withReturns_cons_of_ne hc] at hfirst ⊢
      cases hx : read (c :: cs) with
      | some x =>
        rw [hx, Option.map_some] at hfirst
        rw [firstRead?_cons_of_some hfirst, firstRead?_cons_of_some hx]
        rfl
      | none =>
        rw [hx, Option.map_none] at hfirst
        rw [firstRead?_cons_of_none hfirst, firstRead?_cons_of_none hx, ih]
        simp [Function.comp_def, withReturns_cons_of_ne hc]

/-- A place of a text and the place that the returns make of it cut off the same characters. -/
theorem take_length_withReturns (cs : List Char) (p : Nat) :
    (withReturns cs).take (withReturns (cs.take p)).length = withReturns (cs.take p) := by
  conv_lhs => rw [← List.take_append_drop p cs]
  rw [withReturns_append, List.take_append_drop, List.take_left' rfl]

theorem cut?_withReturns (hmark : WithoutEnds mark) (hne : mark ≠ []) (cs : List Char) :
    cut? mark (withReturns cs) =
      (cut? mark cs).map fun (a, b) => (withReturns a, withReturns b) := by
  have hskip : ∀ cs, mark.isPrefixOf? ('\r' :: cs) = none ∧
      mark.isPrefixOf? ('\n' :: cs) = none := by
    obtain ⟨d, mark, rfl⟩ := List.exists_cons_of_ne_nil hne
    obtain ⟨⟨hreturn, hnewline⟩, -⟩ := withoutEnds_cons.1 hmark
    intro cs
    simp [List.isPrefixOf?, hreturn, hnewline]
  rw [cut?_eq, cut?_eq, firstRead?_withReturns (isPrefixOf?_withReturns hmark) hskip,
    Option.map_map, Option.map_map]
  refine congrArg (fun f => Option.map f _) (funext fun found => ?_)
  exact Prod.ext (take_length_withReturns cs found.1) rfl

/-! ## Lines -/

theorem lines_ne_nil (cs : List Char) : lines cs ≠ [] := by
  rw [lines_eq_splitOn]
  exact List.splitOn_ne_nil _ _

/-- Every line but the last one has a carriage return at its end. -/
theorem forall₂_lines_withReturns (cs : List Char) :
    List.Forall₂ (fun line line' => line' = line ∨ line' = line ++ ['\r']) (lines cs)
      (lines (withReturns cs)) := by
  induction cs with
  | nil => exact .cons (.inl rfl) .nil
  | cons c cs ih =>
    by_cases hc : c = '\n'
    · subst hc
      exact .cons (.inr rfl) ih
    · have hcons : ∀ {cs piece pieces}, lines cs = piece :: pieces →
          lines (c :: cs) = (c :: piece) :: pieces := by
        intro cs piece pieces h
        rw [lines, splitAt, if_neg (by simpa using hc), ← lines, h]
      obtain ⟨piece, pieces, hlines⟩ := List.exists_cons_of_ne_nil (lines_ne_nil cs)
      rw [hlines] at ih
      generalize hlines' : lines (withReturns cs) = pieces' at ih
      cases ih with
      | cons hfirst hrest =>
        rw [withReturns_cons_of_ne hc, hcons hlines, hcons hlines']
        exact .cons (by simpa using hfirst) hrest

end Cadastre.Text
