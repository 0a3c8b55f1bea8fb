import Cadastre.Proofs.Snapshot.Index
import Cadastre.Proofs.Text.ByteOrder
import Mathlib.Data.List.Forall2
import Mathlib.Data.List.Induction
import Mathlib.Data.List.Sort

/-!
# Lists by key

Where several entries of a list have one key, the last of them stands for the key. A comparison
lists keys, or what it has to say about keys, in strictly ascending order of their bytes. The main
statements say that the keys that one index lacks, and the results of comparing two indices, are
such lists, told in terms of the entries that stand for their keys; and that there is only one such
list.
-/

namespace Cadastre

variable {α β γ : Type} {key : α → String} {entries old new : List α} {entry : α} {k : String}

/-! ## Standing entries -/

/-- The last entry of a list under a key. It stands for all entries under that key. -/
def standing? (key : α → String) (entries : List α) (k : String) : Option α :=
  (entries.filter fun e => key e = k).getLast?

theorem key_of_standing (h : standing? key entries k = some entry) : key entry = k := by
  have hmem := List.mem_of_getLast? h
  simpa using (List.mem_filter.1 hmem).2

theorem mem_of_standing (h : standing? key entries k = some entry) : entry ∈ entries :=
  (List.mem_filter.1 (List.mem_of_getLast? h)).1

theorem standing?_eq_none_iff : standing? key entries k = none ↔ k ∉ entries.map key := by
  rw [standing?, List.getLast?_eq_none_iff, List.filter_eq_nil_iff]
  simp

theorem exists_standing_iff : (∃ e, standing? key entries k = some e) ↔ k ∈ entries.map key := by
  rw [← Option.isSome_iff_exists, Option.isSome_iff_ne_none, ne_eq, standing?_eq_none_iff,
    not_not]

theorem standing?_cons (e : α) (es : List α) (k : String) :
    standing? key (e :: es) k = (standing? key es k).or (if key e = k then some e else none) := by
  unfold standing?
  by_cases h : key e = k
  · rw [List.filter_cons_of_pos (by simpa using h), List.getLast?_cons, if_pos h]
    cases (es.filter fun e => key e = k).getLast? <;> rfl
  · rw [List.filter_cons_of_neg (by simpa using h), if_neg h, Option.or_none]

/-- Where no two entries have one key, the order of the entries does not decide which one stands for
a key. -/
theorem standing?_of_perm (h : old.Perm new) (hdistinct : (old.map key).Nodup) (k : String) :
    standing? key old k = standing? key new k := by
  have hperm : (old.filter fun e => key e = k).Perm (new.filter fun e => key e = k) :=
    h.filter _
  have hall : ∀ e ∈ old.filter (fun e => key e = k), key e = k := by
    intro e he
    simpa using (List.mem_filter.1 he).2
  have hnodup : ((old.filter fun e => key e = k).map key).Nodup :=
    hdistinct.sublist ((List.filter_sublist).map key)
  unfold standing?
  rcases hlist : old.filter (fun e => key e = k) with _ | ⟨e, _ | ⟨f, rest⟩⟩
  · rw [hlist] at hperm
    rw [hperm.nil_eq]
  · rw [hlist] at hperm
    rw [List.singleton_perm.1 hperm]
  · rw [hlist] at hnodup hall
    have hsame : key e = key f := (hall e (by simp)).trans (hall f (by simp)).symm
    simp [hsame] at hnodup

/-! ## Ascending lists -/

/-- Some keys are all those with a property, in strictly ascending order of their bytes. -/
def ListsKeys (p : String → Prop) (keys : List String) : Prop :=
  keys.Pairwise Text.Precedes ∧ ∀ k, k ∈ keys ↔ p k

/-- Some items are all those that are said of keys, one for each key, in strictly ascending order of
the bytes of the keys. -/
def ListsItems (said : String → γ → Prop) (items : List γ) : Prop :=
  ∃ keys, ListsKeys (fun k => ∃ item, said k item) keys ∧ List.Forall₂ said keys items

theorem ListsKeys.unique {p : String → Prop} {xs ys : List String} (hxs : ListsKeys p xs)
    (hys : ListsKeys p ys) : xs = ys := by
  obtain ⟨hx, hpx⟩ := hxs
  obtain ⟨hy, hpy⟩ := hys
  have hle : ∀ {l : List String}, l.Pairwise Text.Precedes → l.Pairwise (· < ·) :=
    fun h => h.imp Text.precedes_iff.1
  exact (hle hx).eq_of_mem_iff (hle hy) fun k => (hpx k).trans (hpy k).symm

theorem ListsKeys.eq_nil_iff {p : String → Prop} {xs : List String} (h : ListsKeys p xs) :
    xs = [] ↔ ∀ k, ¬ p k := by
  rw [List.eq_nil_iff_forall_not_mem]
  exact forall_congr' fun k => not_congr (h.2 k)

/-- If only one thing is said of each key, there is only one list of what is said. -/
theorem ListsItems.unique {said : String → γ → Prop} {xs ys : List γ}
    (hone : ∀ k x y, said k x → said k y → x = y) (hxs : ListsItems said xs)
    (hys : ListsItems said ys) : xs = ys := by
  obtain ⟨keys, hkeys, hsaid⟩ := hxs
  obtain ⟨keys', hkeys', hsaid'⟩ := hys
  obtain rfl := hkeys.unique hkeys'
  exact List.right_unique_forall₂' (fun k x y => hone k x y) hsaid hsaid'

theorem ListsItems.eq_nil_iff {said : String → γ → Prop} {xs : List γ} (h : ListsItems said xs) :
    xs = [] ↔ ∀ k x, ¬ said k x := by
  obtain ⟨keys, hkeys, hsaid⟩ := h
  have hempty : xs = [] ↔ keys = [] := by
    constructor
    · rintro rfl
      exact List.forall₂_nil_right_iff.1 hsaid
    · rintro rfl
      exact List.forall₂_nil_left_iff.1 hsaid
  rw [hempty, hkeys.eq_nil_iff]
  exact forall_congr' fun k => not_exists

theorem ListsItems.congr {said other : String → γ → Prop} {xs : List γ}
    (h : ∀ k x, said k x ↔ other k x) : ListsItems said xs ↔ ListsItems other xs := by
  have heq : said = other := by
    funext k x
    exact propext (h k x)
  rw [heq]

/-- Where two things are said of the same keys, the lists of both match item for item. -/
theorem ListsItems.forall₂ {said other : String → γ → Prop} {xs ys : List γ}
    (hkeys : ∀ k, (∃ x, said k x) ↔ ∃ y, other k y) (hxs : ListsItems said xs)
    (hys : ListsItems other ys) : List.Forall₂ (fun x y => ∃ k, said k x ∧ other k y) xs ys := by
  obtain ⟨keys, hkeysx, hsaid⟩ := hxs
  obtain ⟨keys', ⟨hascend, hmem⟩, hother⟩ := hys
  obtain rfl : keys = keys' := hkeysx.unique ⟨hascend, fun k => (hmem k).trans (hkeys k).symm⟩
  clear hkeysx hascend hmem
  induction hsaid generalizing ys with
  | nil =>
    cases hother
    exact .nil
  | cons hfirst _ ih =>
    cases hother with
    | cons hfirst' hrest => exact .cons ⟨_, hfirst, hfirst'⟩ (ih hrest)

/-- What a function says of some ascending keys, as far as it says anything. -/
theorem listsItems_filterMap {keys : List String} (h : keys.Pairwise Text.Precedes)
    (f : String → Option γ) :
    ListsItems (fun k item => k ∈ keys ∧ f k = some item) (keys.filterMap f) := by
  refine ⟨keys.filter fun k => (f k).isSome, ⟨h.sublist List.filter_sublist, fun k => ?_⟩, ?_⟩
  · rw [List.mem_filter, Option.isSome_iff_exists]
    constructor
    · rintro ⟨hk, item, hitem⟩
      exact ⟨item, hk, hitem⟩
    · rintro ⟨item, hk, hitem⟩
      exact ⟨hk, item, hitem⟩
  · clear h
    induction keys with
    | nil => exact .nil
    | cons k keys ih =>
      have hlater := ih.imp fun l item hl => And.intro (List.mem_cons_of_mem k hl.1) hl.2
      cases hf : f k with
      | none =>
        rw [List.filter_cons_of_neg (by simp [hf]), List.filterMap_cons_none hf]
        exact hlater
      | some item =>
        rw [List.filter_cons_of_pos (by simp [hf]), List.filterMap_cons_some hf]
        exact .cons ⟨List.mem_cons_self, hf⟩ hlater

namespace Index

variable {index : Index α}

/-! ## Indices -/

theorem get?_cons {m : String} {e : α} :
    get? ((m, e) :: index) k = if k = m then some e else index.get? k := by
  unfold get?
  by_cases h : k = m
  · rw [h, List.lookup_cons_self, if_pos rfl]
  · rw [List.lookup_cons, beq_eq_false_iff_ne.2 h, if_neg h]

theorem get?_insert (index : Index α) (l : String) (entry : α) (k : String) :
    (index.insert l entry).get? k = if k = l then some entry else index.get? k := by
  induction index with
  | nil => exact get?_cons
  | cons e rest ih =>
    obtain ⟨m, old⟩ := e
    unfold insert
    by_cases hlt : l < m
    · rw [if_pos hlt, get?_cons]
    · by_cases heq : l = m
      · rw [if_neg hlt, if_pos heq, get?_cons, get?_cons, heq]
        split_ifs <;> rfl
      · rw [if_neg hlt, if_neg heq, get?_cons, get?_cons, ih]
        by_cases hk : k = m
        · rw [if_pos hk, if_neg (hk ▸ Ne.symm heq), if_pos hk]
        · rw [if_neg hk, if_neg hk]

/-- The entry under a key of an index is the one that stands for the key in the list. -/
theorem get?_ofList (key : α → String) (entries : List α) (k : String) :
    (ofList key entries).get? k = standing? key entries k := by
  induction entries using List.reverseRecOn with
  | nil => rfl
  | append_singleton entries e ih =>
    have hlast : ofList key (entries ++ [e]) = (ofList key entries).insert (key e) e := by
      simp [ofList]
    rw [hlast, get?_insert, ih]
    by_cases h : k = key e
    · simp [standing?, h]
    · simp [standing?, h, Ne.symm h]

theorem mem_keys_iff_isSome : k ∈ index.map Prod.fst ↔ (index.get? k).isSome := by
  rw [get?, List.lookup_isSome_iff, List.mem_map]
  exact exists_congr fun e => and_congr_right fun _ => eq_comm.trans beq_iff_eq.symm

theorem mem_keys_ofList : k ∈ (ofList key entries).map Prod.fst ↔ k ∈ entries.map key := by
  rw [mem_keys_iff_isSome, get?_ofList, Option.isSome_iff_exists, exists_standing_iff]

theorem precedes_keys_ofList (key : α → String) (entries : List α) :
    ((ofList key entries).map Prod.fst).Pairwise Text.Precedes :=
  (ascending_ofList key entries).imp Text.precedes_iff.2

/-- The keys of one list that another one lacks. -/
theorem listsKeys_keysMissingIn (key : α → String) (entries others : List α) :
    ListsKeys (fun k => k ∈ entries.map key ∧ k ∉ others.map key)
      ((ofList key entries).keysMissingIn (ofList key others)) := by
  unfold keysMissingIn
  refine ⟨(precedes_keys_ofList key entries).sublist List.filter_sublist, fun k => ?_⟩
  rw [List.mem_filter, mem_keys_ofList, get?_ofList, Option.isNone_iff_eq_none,
    standing?_eq_none_iff]

/-- The results of comparing the entries that stand for a key in both of two lists. -/
theorem listsItems_compareShared (key : α → String) (old new : List α)
    (compare : α → α → Option γ) :
    ListsItems
      (fun k item => ∃ before after, standing? key old k = some before ∧
        standing? key new k = some after ∧ compare before after = some item)
      ((ofList key old).compareShared (ofList key new) compare) := by
  let result (k : String) : Option γ :=
    (standing? key old k).bind fun before => (standing? key new k).bind (compare before)
  have heq : (ofList key old).compareShared (ofList key new) compare =
      ((ofList key new).map Prod.fst).filterMap result := by
    rw [compareShared, List.filterMap_map]
    refine List.filterMap_congr fun entry hmem => ?_
    obtain ⟨k, after⟩ := entry
    have hafter := (ascending_ofList key new).get?_of_mem hmem
    rw [get?_ofList] at hafter
    simp [result, get?_ofList, hafter]
  rw [heq]
  refine (ListsItems.congr fun k item => ?_).1
    (listsItems_filterMap (precedes_keys_ofList key new) result)
  simp only [result, Option.bind_eq_some_iff, mem_keys_ofList]
  constructor
  · rintro ⟨-, before, hbefore, after, hafter, hitem⟩
    exact ⟨before, after, hbefore, hafter, hitem⟩
  · rintro ⟨before, after, hbefore, hafter, hitem⟩
    exact ⟨exists_standing_iff.1 ⟨after, hafter⟩, before, hbefore, after, hafter, hitem⟩

/-- Two lists that are compared in both directions give results for the same keys, if comparing two
entries gives a result in both directions or in none. -/
theorem forall₂_compareShared (key : α → String) (old new : List α) (compare : α → α → Option γ)
    (hback : ∀ {before after}, key before = key after →
      (compare before after).isSome = true → (compare after before).isSome = true) :
    List.Forall₂
      (fun x y => ∃ k before after, standing? key old k = some before ∧
        standing? key new k = some after ∧ compare before after = some x ∧
        compare after before = some y)
      ((ofList key old).compareShared (ofList key new) compare)
      ((ofList key new).compareShared (ofList key old) compare) := by
  have hsome : ∀ {entries others : List α} {k : String} {before after : α} {item : γ},
      standing? key entries k = some before → standing? key others k = some after →
      compare before after = some item → ∃ item', compare after before = some item' := by
    intro entries others k before after item hbefore hafter hitem
    have hkey : key before = key after :=
      (key_of_standing hbefore).trans (key_of_standing hafter).symm
    exact Option.isSome_iff_exists.1 (hback hkey (Option.isSome_iff_exists.2 ⟨item, hitem⟩))
  refine ((listsItems_compareShared key old new compare).forall₂ (fun k => ?_)
    (listsItems_compareShared key new old compare)).imp ?_
  · constructor
    · rintro ⟨x, before, after, hbefore, hafter, hx⟩
      obtain ⟨y, hy⟩ := hsome hbefore hafter hx
      exact ⟨y, after, before, hafter, hbefore, hy⟩
    · rintro ⟨y, after, before, hafter, hbefore, hy⟩
      obtain ⟨x, hx⟩ := hsome hafter hbefore hy
      exact ⟨x, before, after, hbefore, hafter, hx⟩
  · rintro x y ⟨k, ⟨before, after, hbefore, hafter, hx⟩, ⟨after', before', hafter', hbefore', hy⟩⟩
    obtain rfl : before = before' := Option.some.inj (hbefore.symm.trans hbefore')
    obtain rfl : after = after' := Option.some.inj (hafter.symm.trans hafter')
    exact ⟨k, before, after, hbefore, hafter, hx, hy⟩

end Index

end Cadastre
