import Cadastre.Text.Blank
import Cadastre.Text.Case
import Cadastre.Text.Search
import Mathlib.Data.List.Basic
import Mathlib.Data.List.TakeWhile

/-!
# Runs of characters

A run is a longest stretch of characters of one kind. What a reader takes with a run is fixed by the
stretch itself and by the character after it, which is not of the kind; no more of the text decides
it.
-/

namespace Cadastre.Text

variable {p : Char → Bool} {w cs rest : List Char}

/-- No character of a kind stands at the start of a text. -/
def Stops (p : Char → Bool) (cs : List Char) : Prop := ∀ c ∈ cs.head?, p c = false

/-- A text of blank characters. -/
def Blank (cs : List Char) : Prop := ∀ c ∈ cs, isBlank c = true

theorem stops_cons {c : Char} : Stops p (c :: cs) ↔ p c = false := by
  simp [Stops]

/-- What follows a text that is not empty does not decide how the whole starts. -/
theorem Stops.append (h : Stops p cs) (hne : cs ≠ []) (after : List Char) :
    Stops p (cs ++ after) := by
  cases cs with
  | nil => exact absurd rfl hne
  | cons c cs => exact stops_cons.2 (stops_cons.1 h)

/-! ## Taking a run -/

theorem takeWhile_append_stops (hw : ∀ c ∈ w, p c = true) (hs : Stops p cs) :
    (w ++ cs).takeWhile p = w := by
  rw [List.takeWhile_append_of_pos hw]
  cases cs with
  | nil => simp
  | cons c cs => simp [stops_cons.1 hs]

theorem dropWhile_append_stops (hw : ∀ c ∈ w, p c = true) (hs : Stops p cs) :
    (w ++ cs).dropWhile p = cs := by
  rw [List.dropWhile_append_of_pos hw]
  cases cs with
  | nil => simp
  | cons c cs => simp [stops_cons.1 hs]

theorem stops_dropWhile (p : Char → Bool) (cs : List Char) : Stops p (cs.dropWhile p) := by
  intro c hc
  have h := List.head?_dropWhile_not p cs
  rw [Option.mem_def.1 hc] at h
  simpa using h

theorem all_takeWhile (p : Char → Bool) (cs : List Char) : ∀ c ∈ cs.takeWhile p, p c = true :=
  fun _ hc => List.mem_takeWhile_imp hc

/-! ## Blank characters -/

theorem trimStart_append (hw : Blank w) (hs : Stops isBlank cs) : trimStart (w ++ cs) = cs :=
  dropWhile_append_stops hw hs

/-- A text is a run of blank characters and what is left when they are dropped. -/
theorem exists_blank_append_trimStart (cs : List Char) :
    ∃ w, Blank w ∧ cs = w ++ trimStart cs ∧ Stops isBlank (trimStart cs) :=
  ⟨cs.takeWhile isBlank, all_takeWhile _ _, List.takeWhile_append_dropWhile.symm,
    stops_dropWhile _ _⟩

theorem dropBlanks?_eq_some_iff :
    dropBlanks? cs = some rest ↔ ∃ w, w ≠ [] ∧ Blank w ∧ cs = w ++ rest ∧ Stops isBlank rest := by
  constructor
  · intro h
    cases cs with
    | nil => simp [dropBlanks?] at h
    | cons c cs =>
      simp only [dropBlanks?] at h
      split at h
      · next hc =>
        obtain ⟨w, hw, hcs, hs⟩ := exists_blank_append_trimStart cs
        obtain rfl := Option.some.inj h
        refine ⟨c :: w, by simp, ?_, ?_, hs⟩
        · intro d hd
          rcases List.mem_cons.1 hd with rfl | hd
          · exact hc
          · exact hw d hd
        · rw [List.cons_append, ← hcs]
      · simp at h
  · rintro ⟨w, hne, hw, rfl, hs⟩
    cases w with
    | nil => exact absurd rfl hne
    | cons c w =>
      have hc : isBlank c = true := hw c (by simp)
      have hw' : Blank w := fun d hd => hw d (by simp [hd])
      simp [dropBlanks?, hc, trimStart_append hw' hs]

/-! ## Trimming -/

/-- A text has no blank characters at its two ends. -/
def Trimmed (cs : List Char) : Prop := Stops isBlank cs ∧ Stops isBlank cs.reverse

/-- The start of a text does not change when something is cut off at its end. -/
theorem Stops.mono (h : Stops p cs) (hw : w <+: cs) : Stops p w := by
  cases w with
  | nil => simp [Stops]
  | cons c w =>
    obtain ⟨rest, rfl⟩ := hw
    exact stops_cons.2 (stops_cons.1 h)

theorem trimmed_trim (cs : List Char) : Trimmed (trim cs) := by
  unfold trim trimEnd
  constructor
  · refine (stops_dropWhile isBlank cs).mono ?_
    rw [← List.reverse_suffix, List.reverse_reverse]
    exact List.dropWhile_suffix _
  · rw [List.reverse_reverse]
    exact stops_dropWhile _ _

theorem Trimmed.trim_eq (h : Trimmed cs) : trim cs = cs := by
  obtain ⟨hstart, hend⟩ := h
  have hfirst : trimStart cs = cs := trimStart_append (w := []) (by simp [Blank]) hstart
  have hlast : cs.reverse.dropWhile isBlank = cs.reverse :=
    dropWhile_append_stops (w := []) (by simp) hend
  rw [trim, hfirst, trimEnd, hlast, List.reverse_reverse]

/-- Trimming a text that starts with no blank character takes such characters away at its end. -/
theorem exists_trim_append (h : Stops isBlank cs) : ∃ gap, Blank gap ∧ cs = trim cs ++ gap := by
  have hfirst : trimStart cs = cs := trimStart_append (w := []) (by simp [Blank]) h
  obtain ⟨gap, hgap, hcs, -⟩ := exists_blank_append_trimStart cs.reverse
  refine ⟨gap.reverse, fun c hc => hgap c (List.mem_reverse.1 hc), ?_⟩
  have hback := congrArg List.reverse hcs
  rw [List.reverse_append, List.reverse_reverse] at hback
  rw [trim, hfirst, trimEnd]
  exact hback

/-- Nothing is left of a text exactly if it is blank. -/
theorem trim_eq_nil_iff : trim cs = [] ↔ Blank cs := by
  obtain ⟨w, hw, hcs, hstops⟩ := exists_blank_append_trimStart cs
  rw [trim, trimEnd, List.reverse_eq_nil_iff, List.dropWhile_eq_nil_iff]
  constructor
  · intro h c hc
    rw [hcs] at hc
    exact (List.mem_append.1 hc).elim (hw c) fun hmem => h c (List.mem_reverse.2 hmem)
  · intro h c hc
    exact h c ((List.dropWhile_suffix _).subset (List.mem_reverse.1 hc))

theorem trim_isInfix (cs : List Char) : trim cs <:+: cs := by
  have hstart : trim cs <+: trimStart cs := by
    unfold trim trimEnd
    rw [← List.reverse_suffix, List.reverse_reverse]
    exact List.dropWhile_suffix _
  exact hstart.isInfix.trans (List.dropWhile_suffix _).isInfix

end Cadastre.Text
