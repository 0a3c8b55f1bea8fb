import Cadastre.Proofs.Text.Run
import Mathlib.Data.Nat.Find

/-!
# Places in a text

Places are counted in characters from the start of a text. A reader that is tried from left to right
reads at the first place where it can; so a text is cut at the first place of a mark. What is found
in this way again and again, each thing from the end of the one before, is a list that the text alone
decides.
-/

namespace Cadastre.Text

variable {α β : Type} {cs w rest : List Char} {c : Char} {i n p q : Nat}

/-- A text stands between two places. -/
def Stands (cs w : List Char) (p q : Nat) : Prop := w <+: cs.drop p ∧ q = p + w.length

/-- Between the places where it stands, a text is what a reader has to take away. -/
theorem stands_iff (hne : w ≠ []) :
    Stands cs w p q ↔ cs.drop p = w ++ cs.drop q ∧ q ≤ cs.length := by
  have hpos : 0 < w.length := List.length_pos_of_ne_nil hne
  constructor
  · rintro ⟨⟨rest, hrest⟩, rfl⟩
    have hlen := congrArg List.length hrest
    simp only [List.length_append, List.length_drop] at hlen
    rw [← List.drop_drop, ← hrest, List.drop_left' rfl]
    exact ⟨rfl, by omega⟩
  · rintro ⟨hdrop, hq⟩
    have hlen := congrArg List.length hdrop
    simp only [List.length_append, List.length_drop] at hlen
    exact ⟨⟨_, hdrop.symm⟩, by omega⟩

theorem exists_stands_iff {P : List Char → Prop} (hne : ∀ w, P w → w ≠ []) :
    (∃ w, P w ∧ Stands cs w p q) ↔ (∃ w, P w ∧ cs.drop p = w ++ cs.drop q) ∧ q ≤ cs.length := by
  constructor
  · rintro ⟨w, hw, hstands⟩
    obtain ⟨hdrop, hq⟩ := (stands_iff (hne w hw)).1 hstands
    exact ⟨⟨w, hw, hdrop⟩, hq⟩
  · rintro ⟨⟨w, hw, hdrop⟩, hq⟩
    exact ⟨w, hw, (stands_iff (hne w hw)).2 ⟨hdrop, hq⟩⟩

/-- A text at the start of what is left stands at the place from which it is left. -/
theorem stands_of_drop_eq (h : cs.drop p = w ++ rest) :
    Stands cs w p (p + w.length) ∧ rest = cs.drop (p + w.length) := by
  refine ⟨⟨⟨rest, h.symm⟩, rfl⟩, ?_⟩
  rw [← List.drop_drop, h, List.drop_left' rfl]

theorem getElem?_of_stands (hstands : Stands cs w p q) (hp : p ≤ i) (hq : i < q) :
    ∃ c ∈ w, cs[i]? = some c := by
  obtain ⟨⟨rest, hrest⟩, rfl⟩ := hstands
  obtain ⟨k, rfl⟩ := Nat.exists_eq_add_of_le hp
  have hk : k < w.length := by omega
  refine ⟨w[k], List.getElem_mem hk, ?_⟩
  rw [← List.getElem?_drop, ← hrest, List.getElem?_append_left hk, List.getElem?_eq_getElem hk]

theorem getElem?_last_of_stands (hstands : Stands cs (w ++ [c]) p q) :
    p < q ∧ cs[q - 1]? = some c := by
  obtain ⟨⟨rest, hrest⟩, rfl⟩ := hstands
  have hlength : (w ++ [c]).length = w.length + 1 := by simp
  refine ⟨by omega, ?_⟩
  have hplace : p + (w ++ [c]).length - 1 = p + w.length := by omega
  rw [hplace, ← List.getElem?_drop, ← hrest]
  simp

theorem stands_cons (hstands : Stands cs (c :: w) p q) : cs[p]? = some c ∧ Stands cs w (p + 1) q := by
  obtain ⟨⟨rest, hrest⟩, rfl⟩ := hstands
  constructor
  · have hfirst := congrArg (·[0]?) hrest
    simpa using hfirst.symm
  · refine ⟨⟨rest, ?_⟩, by simp only [List.length_cons]; omega⟩
    rw [← List.drop_drop, ← hrest]
    rfl

/-- A reader ends at one place: what it leaves of a text tells from where it is left. -/
theorem read_drop_unique {read : List Char → Option (α × List Char)} {x y : α} {r : Nat}
    (hx : read (cs.drop p) = some (x, cs.drop q) ∧ q ≤ cs.length)
    (hy : read (cs.drop p) = some (y, cs.drop r) ∧ r ≤ cs.length) : x = y ∧ q = r := by
  obtain ⟨hx, hq⟩ := hx
  obtain ⟨hy, hr⟩ := hy
  rw [hx] at hy
  obtain ⟨rfl, hdrop⟩ : x = y ∧ cs.drop q = cs.drop r := by simpa using hy
  have hlen := congrArg List.length hdrop
  simp only [List.length_drop] at hlen
  exact ⟨rfl, by omega⟩

/-- Where there is a place of a kind, there is a first one. -/
theorem exists_first {P : Nat → Prop} (h : ∃ t, n ≤ t ∧ P t) :
    ∃ t, n ≤ t ∧ P t ∧ ∀ i, n ≤ i → i < t → ¬ P i := by
  classical
  obtain ⟨hle, ht⟩ := Nat.find_spec h
  exact ⟨_, hle, ht, fun i hi hit hi' => Nat.find_min h hit ⟨hi, hi'⟩⟩

/-- The first place of a kind from a place on, or the end of the text where there is none. -/
inductive NextPlace (here : Nat → Prop) (last n : Nat) : Nat → Prop where
  /-- There is such a place. -/
  | found {t : Nat} (hle : n ≤ t) (ht : here t) (hfirst : ∀ i, n ≤ i → i < t → ¬ here i) :
      NextPlace here last n t
  /-- There is none. -/
  | absent (hnone : ∀ i, n ≤ i → ¬ here i) : NextPlace here last n last

theorem NextPlace.unique {here : Nat → Prop} {last s t : Nat} (hs : NextPlace here last n s)
    (ht : NextPlace here last n t) : s = t := by
  cases hs with
  | absent hnone =>
    cases ht with
    | absent => rfl
    | found hle hhere _ => exact absurd hhere (hnone _ hle)
  | found hle hhere hfirst =>
    cases ht with
    | absent hnone => exact absurd hhere (hnone _ hle)
    | found hle' hhere' hfirst' =>
      rcases Nat.lt_trichotomy s t with hlt | heq | hlt
      · exact absurd hhere (hfirst' _ hle hlt)
      · exact heq
      · exact absurd hhere' (hfirst _ hle' hlt)

/-! ## The first place where something is read -/

section FirstRead

variable {read : List Char → Option β} {x : β}

/-- The first place at which a reader reads something, and what it reads there. -/
def firstRead? (read : List Char → Option β) : List Char → Option (Nat × β)
  | [] => (read []).map fun x => (0, x)
  | c :: cs =>
    match read (c :: cs) with
    | some x => some (0, x)
    | none => (firstRead? read cs).map fun (p, x) => (p + 1, x)

theorem firstRead?_cons_of_some {c : Char} (h : read (c :: cs) = some x) :
    firstRead? read (c :: cs) = some (0, x) := by
  simp [firstRead?, h]

theorem firstRead?_cons_of_none {c : Char} (h : read (c :: cs) = none) :
    firstRead? read (c :: cs) = (firstRead? read cs).map fun (p, x) => (p + 1, x) := by
  simp [firstRead?, h]

theorem firstRead?_eq_none_iff : firstRead? read cs = none ↔ ∀ p, read (cs.drop p) = none := by
  induction cs with
  | nil => simp [firstRead?]
  | cons c cs ih =>
    cases hc : read (c :: cs) with
    | some x =>
      rw [firstRead?_cons_of_some hc]
      constructor
      · intro h
        simp at h
      · intro h
        have := h 0
        rw [List.drop_zero, hc] at this
        simp at this
    | none =>
      rw [firstRead?_cons_of_none hc, Option.map_eq_none_iff, ih]
      constructor
      · intro h p
        cases p with
        | zero => exact hc
        | succ p => exact h p
      · exact fun h p => h (p + 1)

theorem firstRead?_eq_some_iff :
    firstRead? read cs = some (p, x) ↔
      read (cs.drop p) = some x ∧ ∀ i < p, read (cs.drop i) = none := by
  induction cs generalizing p with
  | nil =>
    simp only [firstRead?, Option.map_eq_some_iff, Prod.mk.injEq, List.drop_nil]
    constructor
    · rintro ⟨y, hy, rfl, rfl⟩
      exact ⟨hy, by simp⟩
    · rintro ⟨hx, hnone⟩
      cases p with
      | zero => exact ⟨x, hx, rfl, rfl⟩
      | succ p =>
        rw [hnone 0 (by omega)] at hx
        simp at hx
  | cons c cs ih =>
    cases hc : read (c :: cs) with
    | some y =>
      rw [firstRead?_cons_of_some hc]
      constructor
      · intro h
        obtain ⟨rfl, rfl⟩ : 0 = p ∧ y = x := by simpa using h
        exact ⟨hc, by simp⟩
      · rintro ⟨hx, hnone⟩
        cases p with
        | zero =>
          rw [List.drop_zero, hc] at hx
          simpa using hx
        | succ p =>
          have := hnone 0 (by omega)
          rw [List.drop_zero, hc] at this
          simp at this
    | none =>
      rw [firstRead?_cons_of_none hc, Option.map_eq_some_iff]
      constructor
      · rintro ⟨⟨i, y⟩, hy, he⟩
        obtain ⟨rfl, rfl⟩ : i + 1 = p ∧ y = x := by simpa using he
        obtain ⟨hx, hnone⟩ := ih.1 hy
        refine ⟨hx, fun j hj => ?_⟩
        cases j with
        | zero => exact hc
        | succ j => exact hnone j (by omega)
      · rintro ⟨hx, hnone⟩
        cases p with
        | zero =>
          rw [List.drop_zero, hc] at hx
          simp at hx
        | succ p =>
          exact ⟨(p, x), ih.2 ⟨hx, fun j hj => hnone (j + 1) (by omega)⟩, rfl⟩

/-- From a place on, the first place at which a reader reads something has none before it. -/
theorem firstRead?_drop_eq_some_iff :
    firstRead? read (cs.drop n) = some (p, x) ↔
      read (cs.drop (n + p)) = some x ∧ ∀ i, n ≤ i → i < n + p → read (cs.drop i) = none := by
  rw [firstRead?_eq_some_iff, List.drop_drop]
  refine and_congr_right fun _ => ⟨fun h i hi hip => ?_, fun h i hi => ?_⟩
  · have := h (i - n) (by omega)
    rwa [List.drop_drop, Nat.add_sub_cancel' hi] at this
  · rw [List.drop_drop]
    exact h _ (Nat.le_add_right n i) (by omega)

theorem firstRead?_drop_eq_none_iff :
    firstRead? read (cs.drop n) = none ↔ ∀ i, n ≤ i → read (cs.drop i) = none := by
  rw [firstRead?_eq_none_iff]
  refine ⟨fun h i hi => ?_, fun h i => ?_⟩
  · have := h (i - n)
    rwa [List.drop_drop, Nat.add_sub_cancel' hi] at this
  · rw [List.drop_drop]
    exact h _ (Nat.le_add_right n i)

end FirstRead

/-! ## Cutting and splitting -/

theorem cut?_eq {mark : List Char} :
    cut? mark cs = (firstRead? mark.isPrefixOf? cs).map fun (b, rest) => (cs.take b, rest) := by
  induction cs with
  | nil => cases mark <;> rfl
  | cons c cs ih =>
    cases hc : mark.isPrefixOf? (c :: cs) with
    | some rest => simp [cut?, firstRead?_cons_of_some hc, hc]
    | none => simp [cut?, firstRead?_cons_of_none hc, hc, ih, Function.comp_def]

theorem isPrefixOf?_eq_none_iff {mark : List Char} :
    mark.isPrefixOf? (cs.drop p) = none ↔ ∀ q, ¬ Stands cs mark p q := by
  constructor
  · rintro h q ⟨⟨rest, hrest⟩, -⟩
    rw [List.isPrefixOf?_eq_some_iff_append_eq.2 hrest] at h
    simp at h
  · intro h
    cases hp : mark.isPrefixOf? (cs.drop p) with
    | none => rfl
    | some rest =>
      exact absurd ⟨⟨rest, List.isPrefixOf?_eq_some_iff_append_eq.1 hp⟩, rfl⟩ (h _)

theorem splitAt_eq_splitOnP (p : Char → Bool) (cs : List Char) : splitAt p cs = cs.splitOnP p := by
  induction cs with
  | nil => rfl
  | cons c cs ih =>
    rw [List.splitOnP_cons_eq_if_modifyHead, ← ih, splitAt]
    split
    · rfl
    · cases hs : splitAt p cs with
      | nil => exact absurd (ih ▸ hs) (List.splitOnP_ne_nil p cs)
      | cons piece pieces => rfl

theorem lines_eq_splitOn (cs : List Char) : lines cs = cs.splitOn '\n' :=
  splitAt_eq_splitOnP _ cs

/-! ## What is found one after another -/

/-- What is found from a place on: the first thing that is found there or later, then what is found
from its end on, until nothing is found any more. -/
inductive Successive (found : Nat → α → Nat → Prop) : Nat → List α → Prop where
  /-- Nothing is found from the place on. -/
  | done {n : Nat} (hnone : ∀ p x q, n ≤ p → ¬ found p x q) : Successive found n []
  /-- The first thing that is found, and what is found from its end on. -/
  | step {n p q : Nat} {x : α} {xs : List α} (hle : n ≤ p)
      (hfirst : ∀ i y r, n ≤ i → i < p → ¬ found i y r) (hx : found p x q)
      (hlater : Successive found q xs) : Successive found n (x :: xs)

section Successive

variable {found : Nat → α → Nat → Prop} {xs ys : List α}

/-- One thing at most is found at a place, so there is one list of what is found. -/
theorem Successive.unique (hfound : ∀ p x q y r, found p x q → found p y r → x = y ∧ q = r)
    (hxs : Successive found n xs) (hys : Successive found n ys) : xs = ys := by
  induction hxs generalizing ys with
  | done hnone =>
    cases hys with
    | done => rfl
    | step hle _ hy _ => exact absurd hy (hnone _ _ _ hle)
  | @step _ p _ x _ hle hfirst hx _ ih =>
    cases hys with
    | done hnone => exact absurd hx (hnone _ _ _ hle)
    | @step _ p' _ y _ hle' hfirst' hy hlater =>
      have hp : p = p' := by
        rcases Nat.lt_trichotomy p p' with h | h | h
        · exact absurd hx (hfirst' _ _ _ hle h)
        · exact h
        · exact absurd hy (hfirst _ _ _ hle' h)
      subst hp
      obtain ⟨rfl, rfl⟩ := hfound _ _ _ _ _ hx hy
      rw [ih hlater]

theorem Successive.congr {found' : Nat → α → Nat → Prop} (h : ∀ p x q, found p x q ↔ found' p x q)
    (hxs : Successive found n xs) : Successive found' n xs := by
  induction hxs with
  | done hnone => exact .done fun p x q hle hx => hnone p x q hle ((h _ _ _).2 hx)
  | step hle hfirst hx _ ih =>
    exact .step hle (fun i y r hi hip hy => hfirst i y r hi hip ((h _ _ _).2 hy)) ((h _ _ _).1 hx)
      ih

/-- A reader that takes something away from the text gives, when it is applied again and again at
the first place where it can read, what is found one after another. -/
theorem successive_of_firstRead? {read : List Char → Option (α × List Char)}
    {all : List Char → List α}
    (hread : ∀ {cs x rest}, read cs = some (x, rest) → ∃ w, w ≠ [] ∧ cs = w ++ rest)
    (hnone : ∀ {cs}, firstRead? read cs = none → all cs = [])
    (hsome : ∀ {cs p x rest}, firstRead? read cs = some (p, x, rest) → all cs = x :: all rest)
    (cs : List Char) (n : Nat) :
    Successive (fun p x q => read (cs.drop p) = some (x, cs.drop q) ∧ q ≤ cs.length) n
      (all (cs.drop n)) := by
  -- every step takes something away, so the induction is on what is left of the text
  induction hk : cs.length - n using Nat.strong_induction_on generalizing n with
  | _ k ih =>
    cases hf : firstRead? read (cs.drop n) with
    | none =>
      rw [hnone hf]
      refine .done fun p x q hle hx => ?_
      rw [firstRead?_drop_eq_none_iff.1 hf p hle] at hx
      cases hx.1
    | some found =>
      obtain ⟨i, x, rest⟩ := found
      obtain ⟨hx, hfirst⟩ := firstRead?_drop_eq_some_iff.1 hf
      obtain ⟨w, hne, hw⟩ := hread hx
      obtain ⟨hstands, rfl⟩ := stands_of_drop_eq hw
      have hq := ((stands_iff hne).1 hstands).2
      have hpos := List.length_pos_of_ne_nil hne
      rw [hsome hf]
      refine .step (Nat.le_add_right n i) (fun j y r hj hji hy => ?_) ⟨hx, hq⟩
        (ih _ (by omega) _ rfl)
      rw [hfirst j hj hji] at hy
      simp at hy

/-- What is found one after another is what such a reader gives, and nothing else is. -/
theorem successive_iff_of_firstRead? {read : List Char → Option (α × List Char)}
    (all : List Char → List α)
    (hfound : ∀ p x q, found p x q ↔ read (cs.drop p) = some (x, cs.drop q) ∧ q ≤ cs.length)
    (hread : ∀ {cs x rest}, read cs = some (x, rest) → ∃ w, w ≠ [] ∧ cs = w ++ rest)
    (hnone : ∀ {cs}, firstRead? read cs = none → all cs = [])
    (hsome : ∀ {cs p x rest}, firstRead? read cs = some (p, x, rest) → all cs = x :: all rest) :
    Successive found 0 xs ↔ xs = all cs := by
  have hunique : ∀ p x q y r, found p x q → found p y r → x = y ∧ q = r :=
    fun _ _ _ _ _ hx hy => read_drop_unique ((hfound _ _ _).1 hx) ((hfound _ _ _).1 hy)
  have hall : Successive found 0 (all cs) :=
    (successive_of_firstRead? hread hnone hsome cs 0).congr fun p x q => (hfound p x q).symm
  constructor
  · exact fun hxs => hxs.unique hunique hall
  · rintro rfl
    exact hall

/-- Everything that is found stands somewhere. -/
theorem Successive.exists_of_mem (hfound : Successive found n xs) {x : α} (hx : x ∈ xs) :
    ∃ p q, found p x q := by
  induction hfound with
  | done => cases hx
  | step _ _ hy _ ih =>
    rcases List.mem_cons.1 hx with rfl | hx
    · exact ⟨_, _, hy⟩
    · exact ih hx

/-- Where something stands, something is found, or something that was found has not ended yet. -/
theorem Successive.exists_mem (hfound : Successive found n xs) {x : α} (hx : found p x q)
    (hle : n ≤ p) : ∃ y ∈ xs, ∃ s t, found s y t ∧ (s = p ∨ s < p ∧ p < t) := by
  induction hfound with
  | done hnone => exact absurd hx (hnone _ _ _ hle)
  | @step _ s t y ys _ hfirst hy _ ih =>
    -- the place is before the first thing that is found, at its start, in it or behind it
    rcases Nat.lt_trichotomy p s with hlt | rfl | hlt
    · exact absurd hx (hfirst _ _ _ hle hlt)
    · exact ⟨y, List.mem_cons_self, _, _, hy, .inl rfl⟩
    · by_cases hstop : p < t
      · exact ⟨y, List.mem_cons_self, _, _, hy, .inr ⟨hlt, hstop⟩⟩
      · obtain ⟨z, hz, hplace⟩ := ih (by omega)
        exact ⟨z, List.mem_cons_of_mem y hz, hplace⟩

/-! ### With places -/

/-- Something that is found, with the places where it begins and ends. -/
@[ext]
structure Placed (α : Type) where
  /-- Where it begins. -/
  start : Nat
  /-- What is found. -/
  value : α
  /-- Where it ends. -/
  stop : Nat
deriving DecidableEq

/-- Something is found between its places. -/
def PlacedAt (found : Nat → α → Nat → Prop) (p : Nat) (x : Placed α) (q : Nat) : Prop :=
  x.start = p ∧ x.stop = q ∧ found p x.value q

theorem PlacedAt.unique (hfound : ∀ p x q y r, found p x q → found p y r → x = y ∧ q = r) :
    ∀ p x q y r, PlacedAt found p x q → PlacedAt found p y r → x = y ∧ q = r := by
  rintro p x q y r ⟨hstart, hstop, hx⟩ ⟨hstart', hstop', hy⟩
  obtain ⟨hvalue, hqr⟩ := hfound _ _ _ _ _ hx hy
  exact ⟨Placed.ext (hstart.trans hstart'.symm) hvalue (hstop.trans (hqr.trans hstop'.symm)), hqr⟩

/-- What is found one after another is found with its places. -/
theorem Successive.exists_placed (hfound : Successive found n xs) :
    ∃ placed, Successive (PlacedAt found) n placed ∧ placed.map Placed.value = xs := by
  induction hfound with
  | done hnone => exact ⟨[], .done fun p x q hle hx => hnone p _ q hle hx.2.2, rfl⟩
  | @step n p q x xs hle hfirst hx _ ih =>
    obtain ⟨placed, hplaced, hvalues⟩ := ih
    refine ⟨⟨p, x, q⟩ :: placed, ?_, by rw [List.map_cons, hvalues]⟩
    exact .step hle (fun i y r hi hip hy => hfirst i _ r hi hip hy.2.2) ⟨rfl, rfl, hx⟩ hplaced

end Successive

end Cadastre.Text
