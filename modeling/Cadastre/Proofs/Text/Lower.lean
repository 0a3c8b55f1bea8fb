import Cadastre.Proofs.Text.Run
import Cadastre.Text.Case

/-!
# Lower case within a text

A character has one lower case wherever it stands, but for the capital sigma, which has its final
form after a letter and before none. So a part of a text has in it the lower case that it has alone,
unless one of its sigmas is the first or the last of its letters and meets another letter outside.
The main statement says that this is exact: the lower case of the text has, where the part stands,
the lower case of the part if and only if the part keeps its sigmas.
-/

namespace Cadastre.Text

variable {a b before cs after : List Char}

/-! ## The letters around a sigma -/

theorem meetsLetter_append_of_all (h : ∀ c ∈ a, isCaseIgnorable c = true) (b : List Char) :
    meetsLetter (a ++ b) = meetsLetter b := by
  unfold meetsLetter
  rw [List.dropWhile_append_of_pos h]

theorem meetsLetter_append_of_not_all (h : ¬ ∀ c ∈ a, isCaseIgnorable c = true) (b : List Char) :
    meetsLetter (a ++ b) = meetsLetter a := by
  unfold meetsLetter
  rw [List.dropWhile_append]
  cases hdrop : a.dropWhile isCaseIgnorable with
  | nil => exact absurd (List.dropWhile_eq_nil_iff.1 hdrop) h
  | cons c rest => rfl

theorem meetsLetter_of_all (h : ∀ c ∈ a, isCaseIgnorable c = true) : meetsLetter a = false := by
  have hempty := meetsLetter_append_of_all h []
  rw [List.append_nil] at hempty
  exact hempty

/-- Whether a sigma is final between two texts, of which the one before it is given with the nearest
character first. -/
def isFinal (before after : List Char) : Bool := meetsLetter before && !meetsLetter after

/-! ## Parts of a text -/

/-- The lower case of a character between two texts. -/
def lowerAt (before : List Char) (c : Char) (after : List Char) : List Char :=
  if c == 'Σ' then if isFinal before after then ['ς'] else ['σ'] else lowerChar c

/-- The lower case of a text between two others. -/
def lowerBetween (before : List Char) : List Char → List Char → List Char
  | [], _ => []
  | c :: cs, after => lowerAt before c (cs ++ after) ++ lowerBetween (c :: before) cs after

theorem lowerAfter_append (before cs after : List Char) : lowerAfter before (cs ++ after) =
    lowerBetween before cs after ++ lowerAfter (cs.reverse ++ before) after := by
  induction cs generalizing before with
  | nil => rfl
  | cons c cs ih =>
    have hcons : lowerAfter before (c :: (cs ++ after)) =
        lowerAt before c (cs ++ after) ++ lowerAfter (c :: before) (cs ++ after) := rfl
    rw [List.cons_append, hcons, ih, lowerBetween, List.append_assoc, List.reverse_cons,
      List.append_assoc, List.singleton_append]

theorem lower_append (before cs after : List Char) : lower (before ++ (cs ++ after)) =
    lowerBetween [] before (cs ++ after) ++ (lowerBetween before.reverse cs after ++
      lowerAfter (cs.reverse ++ before.reverse) after) := by
  unfold lower
  rw [lowerAfter_append, List.append_nil, lowerAfter_append]

theorem lower_eq_lowerBetween (cs : List Char) : lower cs = lowerBetween [] cs [] := by
  have happend := lowerAfter_append [] cs []
  rwa [List.append_nil, lowerAfter, List.append_nil] at happend

theorem length_lowerAt (before after before' after' : List Char) (c : Char) :
    (lowerAt before c after).length = (lowerAt before' c after').length := by
  unfold lowerAt
  by_cases hc : (c == 'Σ') = true
  · rw [if_pos hc, if_pos hc]
    split <;> split <;> rfl
  · rw [if_neg hc, if_neg hc]

/-- What stands around a text does not change the length of its lower case. -/
theorem length_lowerBetween (before after before' after' cs : List Char) :
    (lowerBetween before cs after).length = (lowerBetween before' cs after').length := by
  induction cs generalizing before before' with
  | nil => rfl
  | cons c cs ih =>
    rw [lowerBetween, lowerBetween, List.length_append, List.length_append,
      length_lowerAt before (cs ++ after) before' (cs ++ after'), ih]

theorem lowerAt_eq_iff {before after before' after' : List Char} {c : Char} :
    lowerAt before c after = lowerAt before' c after' ↔
      (c = 'Σ' → isFinal before after = isFinal before' after') := by
  unfold lowerAt
  by_cases hc : c = 'Σ'
  · rw [if_pos (beq_iff_eq.2 hc), if_pos (beq_iff_eq.2 hc)]
    cases isFinal before after <;> cases isFinal before' after' <;> simp [hc]
  · rw [if_neg (mt beq_iff_eq.1 hc), if_neg (mt beq_iff_eq.1 hc)]
    exact ⟨fun _ h => absurd h hc, fun _ => rfl⟩

/-- A text has the same lower case in two places if each of its sigmas has the same form in both. -/
theorem lowerBetween_eq_iff {before after before' after' cs : List Char} :
    lowerBetween before cs after = lowerBetween before' cs after' ↔
      ∀ a b, cs = a ++ 'Σ' :: b → isFinal (a.reverse ++ before) (b ++ after) =
        isFinal (a.reverse ++ before') (b ++ after') := by
  induction cs generalizing before before' with
  | nil => simp [lowerBetween]
  | cons c cs ih =>
    have hsplit : lowerBetween before (c :: cs) after = lowerBetween before' (c :: cs) after' ↔
        lowerAt before c (cs ++ after) = lowerAt before' c (cs ++ after') ∧
          lowerBetween (c :: before) cs after = lowerBetween (c :: before') cs after' := by
      rw [lowerBetween, lowerBetween]
      exact ⟨fun h => List.append_inj h (length_lowerAt _ _ _ _ _), fun h => by rw [h.1, h.2]⟩
    rw [hsplit, lowerAt_eq_iff, ih]
    constructor
    · rintro ⟨hfirst, hlater⟩ a b hcs
      rcases List.cons_eq_append_iff.1 hcs with ⟨rfl, hb⟩ | ⟨a, rfl, hrest⟩
      · obtain ⟨rfl, rfl⟩ := List.cons.inj hb
        exact hfirst rfl
      · simpa using hlater a b hrest
    · intro h
      refine ⟨?_, fun a b hcs => ?_⟩
      · rintro rfl
        exact h [] cs rfl
      · simpa using h (c :: a) b (by rw [hcs, List.cons_append])

/-! ## Sigmas at the ends of a part -/

/-- A text keeps the forms of its sigmas between two others. -/
structure KeepsSigmas (before cs after : List Char) : Prop where
  /-- A sigma that comes first and meets a letter before the text meets one after it too. -/
  first : ∀ rest, cs.dropWhile isCaseIgnorable = 'Σ' :: rest → meetsLetter before.reverse = true →
    meetsLetter (rest ++ after) = true
  /-- A sigma that comes last, after a letter of the text, meets no letter after the text. -/
  last : ∀ rest, cs.reverse.dropWhile isCaseIgnorable = 'Σ' :: rest → meetsLetter rest = true →
    meetsLetter after = false

/-- A text that no letters adjoin keeps the forms of its sigmas. -/
theorem keepsSigmas_of_no_letters (hbefore : meetsLetter before.reverse = false)
    (hafter : meetsLetter after = false) : KeepsSigmas before cs after where
  first := fun _ _ h => absurd (hbefore.symm.trans h) Bool.false_ne_true
  last := fun _ _ _ => hafter

/-- A text without a sigma has none to keep. -/
theorem keepsSigmas_of_notMem (h : 'Σ' ∉ cs) : KeepsSigmas before cs after where
  first := fun _ hrest _ =>
    absurd ((List.dropWhile_suffix _).subset (hrest ▸ List.mem_cons_self)) h
  last := fun _ hrest _ =>
    absurd (List.mem_reverse.1 ((List.dropWhile_suffix _).subset (hrest ▸ List.mem_cons_self))) h

theorem stops_sigma (cs : List Char) : Stops isCaseIgnorable ('Σ' :: cs) :=
  stops_cons.2 (by decide +kernel)

theorem exists_of_dropWhile_eq_cons {c : Char} {rest : List Char}
    (h : cs.dropWhile isCaseIgnorable = c :: rest) :
    ∃ a, (∀ d ∈ a, isCaseIgnorable d = true) ∧ cs = a ++ c :: rest :=
  ⟨cs.takeWhile isCaseIgnorable, all_takeWhile _ _, by rw [← h, List.takeWhile_append_dropWhile]⟩

theorem KeepsSigmas.isFinal_eq (h : KeepsSigmas before (a ++ 'Σ' :: b) after) :
    isFinal (a.reverse ++ before.reverse) (b ++ after) = isFinal a.reverse b := by
  unfold isFinal
  by_cases ha : ∀ c ∈ a, isCaseIgnorable c = true
  · -- the sigma comes first: alone it meets no letter before it
    have hletter := h.first b (dropWhile_append_stops ha (stops_sigma b))
    have ha' : ∀ c ∈ a.reverse, isCaseIgnorable c = true := by simpa using ha
    rw [meetsLetter_append_of_all ha', meetsLetter_of_all ha', Bool.false_and]
    cases hbefore : meetsLetter before.reverse with
    | false => rfl
    | true => rw [hletter hbefore, Bool.not_true, Bool.and_false]
  · have ha' : ¬ ∀ c ∈ a.reverse, isCaseIgnorable c = true := by simpa using ha
    rw [meetsLetter_append_of_not_all ha']
    by_cases hb : ∀ c ∈ b, isCaseIgnorable c = true
    · -- the sigma comes last: alone it meets no letter after it
      have hb' : ∀ c ∈ b.reverse, isCaseIgnorable c = true := by simpa using hb
      have hreverse : (a ++ 'Σ' :: b).reverse = b.reverse ++ 'Σ' :: a.reverse := by simp
      have hletter := h.last a.reverse
        (hreverse ▸ dropWhile_append_stops hb' (stops_sigma a.reverse))
      rw [meetsLetter_append_of_all hb, meetsLetter_of_all hb]
      cases hin : meetsLetter a.reverse with
      | false => rfl
      | true => rw [hletter hin]
    · rw [meetsLetter_append_of_not_all hb]

/-- The two conditions say that no sigma has another form between the two texts than alone. -/
theorem keepsSigmas_iff : KeepsSigmas before cs after ↔ ∀ a b, cs = a ++ 'Σ' :: b →
    isFinal (a.reverse ++ before.reverse) (b ++ after) = isFinal a.reverse b := by
  constructor
  · rintro h a b rfl
    exact h.isFinal_eq
  · intro h
    refine ⟨fun rest hrest hbefore => ?_, fun rest hrest hin => ?_⟩
    · obtain ⟨a, ha, hcs⟩ := exists_of_dropWhile_eq_cons hrest
      have ha' : ∀ c ∈ a.reverse, isCaseIgnorable c = true := by simpa using ha
      have hsame := h a rest hcs
      rw [isFinal, isFinal, meetsLetter_append_of_all ha', meetsLetter_of_all ha', hbefore] at hsame
      simpa using hsame
    · obtain ⟨b, hb, hreverse⟩ := exists_of_dropWhile_eq_cons hrest
      have hb' : ∀ c ∈ b.reverse, isCaseIgnorable c = true := by simpa using hb
      have hcs : cs = rest.reverse ++ 'Σ' :: b.reverse := by
        rw [← List.reverse_reverse cs, hreverse]
        simp
      have hletter : ¬ ∀ c ∈ rest, isCaseIgnorable c = true := by
        intro hall
        rw [meetsLetter_of_all hall] at hin
        exact absurd hin Bool.false_ne_true
      have hsame := h rest.reverse b.reverse hcs
      rw [List.reverse_reverse, isFinal, isFinal, meetsLetter_append_of_not_all hletter,
        meetsLetter_append_of_all hb', meetsLetter_of_all hb', hin] at hsame
      simpa using hsame

/-- Where a part of a text stands, the lower case of the text has the lower case of the part if and
only if the part keeps its sigmas. -/
theorem lower_isPrefix_iff (before cs after : List Char) :
    lower cs <+: (lower (before ++ (cs ++ after))).drop (lower before).length ↔
      KeepsSigmas before cs after := by
  have hdrop : (lower (before ++ (cs ++ after))).drop (lower before).length =
      lowerBetween before.reverse cs after ++
        lowerAfter (cs.reverse ++ before.reverse) after := by
    rw [lower_append, lower_eq_lowerBetween before]
    exact List.drop_left' (length_lowerBetween _ _ _ _ _)
  have hsame : lower cs <+: lowerBetween before.reverse cs after ++
      lowerAfter (cs.reverse ++ before.reverse) after ↔
        lowerBetween before.reverse cs after = lowerBetween [] cs [] := by
    rw [lower_eq_lowerBetween]
    constructor
    · rintro ⟨rest, hrest⟩
      exact (List.append_inj hrest (length_lowerBetween _ _ _ _ _)).1.symm
    · intro h
      rw [h]
      exact List.prefix_append _ _
  rw [hdrop, hsame, lowerBetween_eq_iff, keepsSigmas_iff]
  simp only [List.append_nil]

/-- A part that keeps its sigmas is found in the text when both are in lower case. -/
theorem KeepsSigmas.isInfix (h : KeepsSigmas before cs after) :
    lower cs <:+: lower (before ++ (cs ++ after)) :=
  ((lower_isPrefix_iff before cs after).2 h).isInfix.trans (List.drop_suffix _ _).isInfix

end Cadastre.Text
