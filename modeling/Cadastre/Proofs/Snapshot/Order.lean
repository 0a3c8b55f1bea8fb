import Cadastre.Proofs.Text.ByteOrder
import Cadastre.Snapshot.Order
import Mathlib.Data.List.Basic
import Mathlib.Data.String.Basic

/-!
# Sorting

A list is sorted by a key when the keys ascend in byte order and entries with equal keys stand as
they stood before. There is one such list for every list and every key, and sorting gives it. What
is left out of a sorted list does not decide how the rest of it stands.
-/

namespace Cadastre

variable {α : Type} {key : α → String} {entries xs ys : List α}

/-- The entries of a list with ascending keys, those with equal keys in the order of the list. -/
structure StablySorted (key : α → String) (entries sorted : List α) : Prop where
  perm : sorted.Perm entries
  ascending : sorted.Pairwise fun a b => ¬ Text.Precedes (key b) (key a)
  stable : ∀ k, sorted.filter (key · = k) = entries.filter (key · = k)

theorem stablySorted_sortByKey (key : α → String) (entries : List α) :
    StablySorted key entries (sortByKey key entries) := by
  have htrans : ∀ a b c : α, decide (key a ≤ key b) = true → decide (key b ≤ key c) = true →
      decide (key a ≤ key c) = true := by
    simp only [decide_eq_true_eq]
    exact fun a b c => le_trans
  have htotal : ∀ a b : α, (decide (key a ≤ key b) || decide (key b ≤ key a)) = true := by
    simp only [Bool.or_eq_true, decide_eq_true_eq]
    exact fun a b => le_total _ _
  have hperm : (sortByKey key entries).Perm entries := List.mergeSort_perm _ _
  refine ⟨hperm, ?_, fun k => ?_⟩
  · refine (List.pairwise_mergeSort htrans htotal entries).imp fun hle => ?_
    rw [Text.precedes_iff]
    exact not_lt.2 (by simpa using hle)
  · -- entries with the same key are in order already, so they keep their places towards each other
    have hsub : (entries.filter (key · = k)).Sublist (sortByKey key entries) := by
      refine List.sublist_mergeSort htrans htotal (List.pairwise_of_forall_mem_list ?_)
        List.filter_sublist
      intro a ha b hb
      have hka : key a = k := by simpa using (List.mem_filter.1 ha).2
      have hkb : key b = k := by simpa using (List.mem_filter.1 hb).2
      simp [hka, hkb]
    have hfilter := hsub.filter (key · = k)
    simp only [List.filter_filter, Bool.and_self] at hfilter
    exact (hfilter.eq_of_length (hperm.filter _).length_eq.symm).symm

/-- Lists with the same keys that agree on the entries of every key are equal. -/
theorem eq_of_filter_key_eq {β : Type} [DecidableEq β] {key : α → β}
    (hkeys : xs.map key = ys.map key)
    (hfilter : ∀ k, xs.filter (key · = k) = ys.filter (key · = k)) : xs = ys := by
  induction xs generalizing ys with
  | nil => simpa using hkeys.symm
  | cons x xs ih =>
    cases ys with
    | nil => simp at hkeys
    | cons y ys =>
      obtain ⟨hkey, hrest⟩ := List.cons.inj hkeys
      have hfirst := hfilter (key x)
      rw [List.filter_cons_of_pos (by simp), List.filter_cons_of_pos (by simp [hkey])] at hfirst
      obtain rfl := (List.cons.inj hfirst).1
      rw [ih hrest fun k => ?_]
      have hk := hfilter k
      by_cases hxk : key x = k
      · rw [List.filter_cons_of_pos (by simpa using hxk),
          List.filter_cons_of_pos (by simpa using hxk)] at hk
        exact (List.cons.inj hk).2
      · rwa [List.filter_cons_of_neg (by simpa using hxk),
          List.filter_cons_of_neg (by simpa using hxk)] at hk

/-- Lists of the same entries that ascend by a key and agree on the entries of every key are
equal. -/
theorem eq_of_ascending {β : Type} [PartialOrder β] [DecidableEq β] {key : α → β}
    (hperm : xs.Perm ys) (hxs : xs.Pairwise fun a b => key a ≤ key b)
    (hys : ys.Pairwise fun a b => key a ≤ key b)
    (hfilter : ∀ k, xs.filter (key · = k) = ys.filter (key · = k)) : xs = ys := by
  have hkeys : xs.map key = ys.map key :=
    (hperm.map key).eq_of_pairwise (fun _ _ _ _ hab hba => le_antisymm hab hba)
      (List.pairwise_map.2 hxs) (List.pairwise_map.2 hys)
  exact eq_of_filter_key_eq hkeys hfilter

theorem StablySorted.unique (hxs : StablySorted key entries xs)
    (hys : StablySorted key entries ys) : xs = ys := by
  have hle : ∀ {zs}, StablySorted key entries zs → zs.Pairwise fun a b => key a ≤ key b := by
    refine fun hzs => hzs.ascending.imp fun hnot => ?_
    rw [Text.precedes_iff] at hnot
    exact not_lt.1 hnot
  exact eq_of_ascending (hxs.perm.trans hys.perm.symm) (hle hxs) (hle hys)
    fun k => (hxs.stable k).trans (hys.stable k).symm

/-- A list with ascending keys stays as it is. -/
theorem sortByKey_eq_self (h : entries.Pairwise fun a b => ¬ Text.Precedes (key b) (key a)) :
    sortByKey key entries = entries :=
  (stablySorted_sortByKey key entries).unique ⟨List.Perm.refl _, h, fun _ => rfl⟩

/-- A list that is sorted already stays as it is. -/
theorem sortByKey_sortByKey (key : α → String) (entries : List α) :
    sortByKey key (sortByKey key entries) = sortByKey key entries :=
  sortByKey_eq_self (stablySorted_sortByKey key entries).ascending

/-- What is sorted does not depend on the order in which it was given if no two of the entries have
the same key. -/
theorem sortByKey_of_perm (h : xs.Perm ys)
    (hdistinct : ∀ a ∈ xs, ∀ b ∈ xs, key a = key b → a = b) :
    sortByKey key xs = sortByKey key ys := by
  have hxs := stablySorted_sortByKey key xs
  have hys := stablySorted_sortByKey key ys
  refine List.Perm.eq_of_pairwise ?_ hxs.ascending hys.ascending
    ((hxs.perm.trans h).trans hys.perm.symm)
  intro a b ha hb hab hba
  rw [Text.precedes_iff] at hab hba
  have hkey : key a = key b := le_antisymm (not_lt.1 hab) (not_lt.1 hba)
  exact hdistinct a (hxs.perm.mem_iff.1 ha) b (h.mem_iff.2 (hys.perm.mem_iff.1 hb)) hkey

/-- Sorted names do not depend on the order in which they were given. -/
theorem sortByKey_id_of_perm {xs ys : List String} (h : xs.Perm ys) :
    sortByKey id xs = sortByKey id ys :=
  sortByKey_of_perm h fun _ _ _ _ => id

/-! ## Sorting by an order -/

section Stable

variable {le : α → α → Bool} (htrans : ∀ a b c, le a b → le b c → le a c)
  (htotal : ∀ a b, le a b || le b a)

include htrans htotal

/-- A first entry is put between the entries that it may not stand before and the others. -/
theorem mergeSort_cons_eq (a : α) (l : List α) :
    (a :: l).mergeSort le =
        (l.mergeSort le).filter (fun b => !le a b) ++ a :: (l.mergeSort le).filter (le a) ∧
      l.mergeSort le =
        (l.mergeSort le).filter (fun b => !le a b) ++ (l.mergeSort le).filter (le a) := by
  obtain ⟨before, after, hcons, hl, hbefore⟩ := List.mergeSort_cons htrans htotal a l
  have hsorted := List.pairwise_mergeSort htrans htotal (a :: l)
  rw [hcons] at hsorted
  have hafter := (List.pairwise_cons.1 (List.pairwise_append.1 hsorted).2.1).1
  have hfirst : before.filter (fun b => !le a b) = before := List.filter_eq_self.2 hbefore
  have hlast : after.filter (le a) = after := List.filter_eq_self.2 hafter
  have hnone : before.filter (le a) = [] := by
    refine List.filter_eq_nil_iff.2 fun b hb => ?_
    simpa using hbefore b hb
  have hnone' : after.filter (fun b => !le a b) = [] := by
    refine List.filter_eq_nil_iff.2 fun b hb => ?_
    simpa using hafter b hb
  rw [hcons, hl, List.filter_append, List.filter_append, hfirst, hlast, hnone, hnone',
    List.append_nil, List.nil_append]
  exact ⟨rfl, rfl⟩

/-- Sorting and keeping some entries can be done in either order. -/
theorem filter_mergeSort (p : α → Bool) (l : List α) :
    (l.mergeSort le).filter p = (l.filter p).mergeSort le := by
  -- sorting is not by recursion on the list, but its first entry has its place in what is sorted
  induction l with
  | nil => simp
  | cons a l ih =>
    have hcomm : ∀ q : α → Bool, ((l.mergeSort le).filter q).filter p =
        ((l.filter p).mergeSort le).filter q := by
      intro q
      rw [← ih, List.filter_filter, List.filter_filter]
      exact List.filter_congr fun b _ => Bool.and_comm _ _
    obtain ⟨hcons, hsplit⟩ := mergeSort_cons_eq htrans htotal a (l.filter p)
    rw [(mergeSort_cons_eq htrans htotal a l).1, List.filter_append, hcomm]
    by_cases ha : p a = true
    · rw [List.filter_cons_of_pos ha, List.filter_cons_of_pos ha, hcomm, hcons]
    · rw [List.filter_cons_of_neg ha, List.filter_cons_of_neg ha, hcomm, ← hsplit]

end Stable

/-! ## The order of routes -/

theorem keysLe_cons {x y : String} {xs ys : List String} :
    keysLe (x :: xs) (y :: ys) = true ↔ x < y ∨ x = y ∧ keysLe xs ys = true := by
  rw [keysLe]
  split_ifs with hlt heq
  · simp [hlt]
  · simp [heq]
  · simp [hlt, heq]

theorem keysLe_trans {xs ys zs : List String} (hxy : keysLe xs ys = true)
    (hyz : keysLe ys zs = true) : keysLe xs zs = true := by
  induction xs generalizing ys zs with
  | nil => rfl
  | cons x xs ih =>
    cases ys with
    | nil => cases hxy
    | cons y ys =>
      cases zs with
      | nil => cases hyz
      | cons z zs =>
        rw [keysLe_cons] at hxy hyz ⊢
        rcases hxy with hxy | ⟨rfl, hxy⟩
        · rcases hyz with hyz | ⟨rfl, -⟩
          · exact .inl (hxy.trans hyz)
          · exact .inl hxy
        · rcases hyz with hyz | ⟨rfl, hyz⟩
          · exact .inl hyz
          · exact .inr ⟨rfl, ih hxy hyz⟩

theorem keysLe_total (xs ys : List String) : (keysLe xs ys || keysLe ys xs) = true := by
  rw [Bool.or_eq_true]
  induction xs generalizing ys with
  | nil => exact .inl rfl
  | cons x xs ih =>
    cases ys with
    | nil => exact .inr rfl
    | cons y ys =>
      rw [keysLe_cons, keysLe_cons]
      rcases lt_trichotomy x y with hlt | rfl | hlt
      · exact .inl (.inl hlt)
      · exact (ih ys).imp (fun h => .inr ⟨rfl, h⟩) fun h => .inr ⟨rfl, h⟩
      · exact .inr (.inl hlt)

/-- Leaving routes out does not move the others. -/
theorem Route.filter_sort (p : Route → Bool) (routes : List Route) :
    (Route.sort routes).filter p = Route.sort (routes.filter p) := by
  have htrans : ∀ a b c : Route, a.le b → b.le c → a.le c := fun _ _ _ => keysLe_trans
  have htotal : ∀ a b : Route, a.le b || b.le a := fun _ _ => keysLe_total _ _
  exact filter_mergeSort htrans htotal p routes

end Cadastre
