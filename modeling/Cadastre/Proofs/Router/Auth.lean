import Cadastre.Proofs.Router.Grammar
import Cadastre.Proofs.Text.Occurrence
import Cadastre.Router.Routes

/-!
# Dependencies in the span of a handler

A handler asks for what it depends on. A dependency is the function's name in the parentheses of
`Depends(…)`, with blank characters around it or not, wherever in the span that text occurs. The
lemmas say that a text without such a dependency can be put in front of another one, or be set off
from it by a quote, without making one.
-/

namespace Cadastre.Router

open Text

variable {function name path cs x : List Char}

/-- What stands before the function in a dependency. -/
def dependencyOpening : List Char := ['D', 'e', 'p', 'e', 'n', 'd', 's', '(']

/-- The text of a dependency on a function. -/
inductive IsDependency (function : List Char) : List Char → Prop where
  /-- The opening, the function and a parenthesis, with blank characters between them. -/
  | mk {gap gap' : List Char} (hgap : Blank gap) (hgap' : Blank gap') :
      IsDependency function (dependencyOpening ++ (gap ++ (function ++ (gap' ++ [')']))))

/-- Whether a dependency stands at the start of a text is decided by its own characters. -/
theorem startsDependency_iff (hf : IsName function) :
    startsDependency function cs = true ↔ ∃ w, IsDependency function w ∧ w <+: cs := by
  unfold startsDependency
  constructor
  · intro h
    split at h
    · cases h
    · next a ha =>
      split at h
      · cases h
      · next b hb =>
        have ha' := List.isPrefixOf?_eq_some_iff_append_eq.1 ha
        have hb' := List.isPrefixOf?_eq_some_iff_append_eq.1 hb
        obtain ⟨gap, hgap, hga, -⟩ := exists_blank_append_trimStart a
        obtain ⟨gap', hgap', hgb, -⟩ := exists_blank_append_trimStart b
        obtain ⟨rest, hrest⟩ : ∃ rest, trimStart b = ')' :: rest := by
          cases ht : trimStart b with
          | nil => simp [ht] at h
          | cons d rest =>
            obtain rfl : d = ')' := by simpa [ht] using h
            exact ⟨rest, rfl⟩
        refine ⟨_, .mk hgap hgap', rest, ?_⟩
        rw [← ha', hga, ← hb', hgb, hrest]
        simp [dependencyOpening]
  · rintro ⟨_, ⟨hgap, hgap'⟩, rest, rfl⟩
    rename_i gap gap'
    have hg : trimStart (gap ++ (function ++ (gap' ++ ')' :: rest))) =
        function ++ (gap' ++ ')' :: rest) := trimStart_append hgap (hf.stops_isBlank _)
    have hg' : trimStart (gap' ++ ')' :: rest) = ')' :: rest :=
      trimStart_append hgap' (stops_cons.2 (by decide))
    have hp : function.isPrefixOf? (function ++ (gap' ++ ')' :: rest)) =
        some (gap' ++ ')' :: rest) := List.isPrefixOf?_eq_some_iff_append_eq.2 rfl
    simp [dependencyOpening, List.isPrefixOf?, hg, hp, hg']

/-- A text depends on a function just if a dependency on it occurs there. -/
theorem hasDependency_iff (hf : IsName function) :
    hasDependency function cs = true ↔ ∃ w, IsDependency function w ∧ w <:+: cs := by
  induction cs with
  | nil =>
    constructor
    · intro h
      cases h
    · rintro ⟨_, ⟨-, -⟩, h⟩
      simp [dependencyOpening] at h
  | cons c cs ih =>
    rw [hasDependency, Bool.or_eq_true, startsDependency_iff hf, ih]
    simp only [List.infix_cons_iff, and_or_left, exists_or]

/-- There is no quote in a dependency. -/
theorem IsDependency.notMem_of_isQuote {w : List Char} (h : IsDependency function w)
    (hf : IsName function) {q : Char} (hq : isQuote q = true) : q ∉ w := by
  obtain ⟨hgap, hgap'⟩ := h
  have hblank : isBlank q = false ∧ isNameChar q = false ∧ q ∉ dependencyOpening ∧ q ≠ ')' := by
    simp only [isQuote, Bool.or_eq_true, beq_iff_eq] at hq
    rcases hq with rfl | rfl <;> decide
  obtain ⟨hb, hn, ho, hp⟩ := hblank
  have hout : ∀ {b : List Char}, Blank b → q ∉ b := by
    intro b hb' hmem
    rw [hb' q hmem] at hb
    cases hb
  have hname : q ∉ function := by
    intro hmem
    rw [hf.isNameChar_of_mem q hmem] at hn
    cases hn
  simp only [List.mem_append, List.mem_singleton, not_or]
  exact ⟨ho, hout hgap, hname, hout hgap', hp⟩

/-- A quote sets what is before it off from what is after it. -/
theorem hasDependency_append_quote (hf : IsName function) {q : Char} (hq : isQuote q = true) :
    hasDependency function (x ++ q :: cs) =
      (hasDependency function x || hasDependency function cs) := by
  rw [Bool.eq_iff_iff, Bool.or_eq_true, hasDependency_iff hf, hasDependency_iff hf,
    hasDependency_iff hf, ← exists_or]
  refine exists_congr fun w => ?_
  rw [← and_or_left]
  exact and_congr_right fun hw => infix_append_cons_iff (hw.notMem_of_isQuote hf hq)

/-- No dependency begins in a text without the first letter of one. -/
theorem hasDependency_append_of_notMem (h : 'D' ∉ x) (cs : List Char) :
    hasDependency function (x ++ cs) = hasDependency function cs := by
  induction x with
  | nil => rfl
  | cons c x ih =>
    rw [List.mem_cons, not_or] at h
    have hc : startsDependency function (c :: (x ++ cs)) = false := by
      simp [startsDependency, List.isPrefixOf?, h.1]
    rw [List.cons_append, hasDependency, hc, Bool.false_or, ih h.2]

/-- A name before a parenthesis makes no dependency, even one that ends like the opening of a
dependency, unless the function comes right after the parenthesis. -/
theorem hasDependency_append_parenthesis (hname : ∀ c ∈ name, isNameChar c = true)
    (hcs : ¬ function <+: trimStart cs) :
    hasDependency function (name ++ '(' :: cs) = hasDependency function cs := by
  induction name with
  | nil => simp [hasDependency, startsDependency, List.isPrefixOf?]
  | cons c name ih =>
    have hparenthesis : '(' ∉ c :: name := by
      intro hmem
      exact absurd (hname _ hmem) (by decide)
    have hno : startsDependency function (c :: (name ++ '(' :: cs)) = false := by
      unfold startsDependency
      split
      · rfl
      · next a ha =>
        -- the opening ends at the only parenthesis there is, so the function would come after it
        have ha' := List.isPrefixOf?_eq_some_iff_append_eq.1 ha
        obtain ⟨-, rfl⟩ := append_cons_inj (c := '(') (x := ['D', 'e', 'p', 'e', 'n', 'd', 's'])
          (by decide) hparenthesis ha'
        split
        · rfl
        · next b hb => exact absurd ⟨b, List.isPrefixOf?_eq_some_iff_append_eq.1 hb⟩ hcs
    rw [List.cons_append, hasDependency, hno, Bool.false_or]
    exact ih fun d hd => hname d (List.mem_cons_of_mem c hd)

theorem isName_iff : IsName name ↔ name? name = some (name, []) := by
  rw [name?_eq_some_iff]
  simp [Stops]

/-- What handlers ask for is named as functions are. -/
theorem isName_auth (a : Auth) : IsName a.name.toList := by
  rw [isName_iff]
  cases a <;> decide

end Cadastre.Router
