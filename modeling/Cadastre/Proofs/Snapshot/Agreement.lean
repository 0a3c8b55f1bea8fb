import Cadastre.Proofs.Snapshot.Keyed

/-!
# Lists that agree by key

Two lists agree if they have the same keys and the entries that stand for a key agree. A comparison
finds nothing between two lists just if they agree, and it finds the same between lists that agree
with its two lists, as far as it does not tell their entries apart.
-/

namespace Cadastre

variable {α γ : Type} {key : α → String} {old new old' new' : List α}

/-- Two lists have the same keys, and the entries that stand for a key agree. -/
def AgreeByKey (agree : α → α → Prop) (key : α → String) (old new : List α) : Prop :=
  ∀ k, Option.Rel agree (standing? key old k) (standing? key new k)

/-- What keys one list lacks of another one is decided by the keys that occur in them. -/
theorem keysMissingIn_eq (hold : ∀ k, k ∈ old.map key ↔ k ∈ old'.map key)
    (hnew : ∀ k, k ∈ new.map key ↔ k ∈ new'.map key) :
    (Index.ofList key new).keysMissingIn (Index.ofList key old) =
      (Index.ofList key new').keysMissingIn (Index.ofList key old') := by
  have h := Index.listsKeys_keysMissingIn key new old
  simp only [hold, hnew] at h
  exact h.unique (Index.listsKeys_keysMissingIn key new' old')

namespace AgreeByKey

variable {agree : α → α → Prop} {before after : α} {k : String}

theorem exists_right (h : AgreeByKey agree key old new) (hk : standing? key old k = some before) :
    ∃ after, standing? key new k = some after ∧ agree before after := by
  have hrel := h k
  rw [hk] at hrel
  cases hnew : standing? key new k with
  | none =>
    rw [hnew] at hrel
    cases hrel
  | some after =>
    rw [hnew] at hrel
    cases hrel with
    | some hagree => exact ⟨after, rfl, hagree⟩

theorem exists_left (h : AgreeByKey agree key old new) (hk : standing? key new k = some after) :
    ∃ before, standing? key old k = some before ∧ agree before after := by
  have hrel := h k
  rw [hk] at hrel
  cases hold : standing? key old k with
  | none =>
    rw [hold] at hrel
    cases hrel
  | some before =>
    rw [hold] at hrel
    cases hrel with
    | some hagree => exact ⟨before, rfl, hagree⟩

theorem mem_iff (h : AgreeByKey agree key old new) (k : String) :
    k ∈ old.map key ↔ k ∈ new.map key := by
  rw [← exists_standing_iff, ← exists_standing_iff]
  constructor
  · rintro ⟨before, hbefore⟩
    obtain ⟨after, hafter, -⟩ := h.exists_right hbefore
    exact ⟨after, hafter⟩
  · rintro ⟨after, hafter⟩
    obtain ⟨before, hbefore, -⟩ := h.exists_left hafter
    exact ⟨before, hbefore⟩

theorem symm (hsymm : ∀ before after, agree before after → agree after before)
    (h : AgreeByKey agree key old new) : AgreeByKey agree key new old := by
  intro k
  have hrel := h k
  generalize standing? key old k = b at hrel ⊢
  generalize standing? key new k = a at hrel ⊢
  cases hrel with
  | none => exact .none
  | some hagree => exact .some (hsymm _ _ hagree)

/-- For every entry of one list there are entries under its key in both lists that agree. -/
theorem exists_of_mem (h : AgreeByKey agree key old new) {entry : α} (hentry : entry ∈ old) :
    ∃ before ∈ old, ∃ after ∈ new, key before = key entry ∧ key after = key entry ∧
      agree before after := by
  obtain ⟨before, hbefore⟩ := exists_standing_iff.2 (List.mem_map_of_mem (f := key) hentry)
  obtain ⟨after, hafter, hagree⟩ := h.exists_right hbefore
  exact ⟨before, mem_of_standing hbefore, after, mem_of_standing hafter,
    key_of_standing hbefore, key_of_standing hafter, hagree⟩

/-- Lists that agree compare alike, as far as the comparison does not tell their entries apart. -/
theorem compareShared_eq {compare : α → α → Option γ}
    (hcompare : ∀ {before before' after after'}, agree before before' → agree after after' →
      compare before after = compare before' after')
    (hold : AgreeByKey agree key old old') (hnew : AgreeByKey agree key new new') :
    (Index.ofList key old).compareShared (Index.ofList key new) compare =
      (Index.ofList key old').compareShared (Index.ofList key new') compare := by
  have h := Index.listsItems_compareShared key old new compare
  have h' := Index.listsItems_compareShared key old' new' compare
  refine ListsItems.unique ?_ h ((ListsItems.congr fun k item => ?_).1 h')
  · rintro k x y ⟨before, after, hbefore, hafter, hx⟩ ⟨before', after', hbefore', hafter', hy⟩
    obtain rfl : before = before' := Option.some.inj (hbefore.symm.trans hbefore')
    obtain rfl : after = after' := Option.some.inj (hafter.symm.trans hafter')
    exact Option.some.inj (hx.symm.trans hy)
  · constructor
    · rintro ⟨before', after', hbefore', hafter', hitem⟩
      obtain ⟨before, hbefore, hb⟩ := hold.exists_left hbefore'
      obtain ⟨after, hafter, ha⟩ := hnew.exists_left hafter'
      exact ⟨before, after, hbefore, hafter, (hcompare hb ha).trans hitem⟩
    · rintro ⟨before, after, hbefore, hafter, hitem⟩
      obtain ⟨before', hbefore', hb⟩ := hold.exists_right hbefore
      obtain ⟨after', hafter', ha⟩ := hnew.exists_right hafter
      exact ⟨before', after', hbefore', hafter', (hcompare hb ha).symm.trans hitem⟩

end AgreeByKey

theorem agreeByKey_of_perm (h : old.Perm new) (hdistinct : (old.map key).Nodup) :
    AgreeByKey Eq key old new := by
  intro k
  rw [standing?_of_perm h hdistinct]
  cases standing? key new k with
  | none => exact .none
  | some e => exact .some rfl

theorem agreeByKey_of_forall₂ {agree : α → α → Prop}
    (hkey : ∀ before after, agree before after → key before = key after)
    (h : List.Forall₂ agree old new) : AgreeByKey agree key old new := by
  intro k
  induction h with
  | nil => exact .none
  | @cons before after old new hagree _ ih =>
    rw [standing?_cons, standing?_cons, hkey before after hagree]
    generalize standing? key old k = b at ih ⊢
    generalize standing? key new k = a at ih ⊢
    cases ih with
    | some hlater => exact .some hlater
    | none =>
      by_cases hk : key after = k
      · rw [if_pos hk, if_pos hk]
        exact .some hagree
      · rw [if_neg hk, if_neg hk]
        exact .none

/-- Two lists agree just if a comparison finds no new key, no lost key and no change. -/
theorem agreeByKey_iff {agree : α → α → Prop} {compare : α → α → Option γ}
    (hcompare : ∀ before after, key before = key after →
      (compare before after = none ↔ agree before after)) :
    AgreeByKey agree key old new ↔
      (Index.ofList key new).keysMissingIn (Index.ofList key old) = [] ∧
        (Index.ofList key old).keysMissingIn (Index.ofList key new) = [] ∧
        (Index.ofList key old).compareShared (Index.ofList key new) compare = [] := by
  rw [(Index.listsKeys_keysMissingIn key new old).eq_nil_iff,
    (Index.listsKeys_keysMissingIn key old new).eq_nil_iff,
    (Index.listsItems_compareShared key old new compare).eq_nil_iff]
  have hsame : ∀ {k before after}, standing? key old k = some before →
      standing? key new k = some after → key before = key after :=
    fun hbefore hafter => (key_of_standing hbefore).trans (key_of_standing hafter).symm
  constructor
  · intro h
    refine ⟨fun k hk => hk.2 ((h.mem_iff k).2 hk.1), fun k hk => hk.2 ((h.mem_iff k).1 hk.1), ?_⟩
    rintro k item ⟨before, after, hbefore, hafter, hitem⟩
    obtain ⟨after', hafter', hagree⟩ := h.exists_right hbefore
    obtain rfl : after = after' := Option.some.inj (hafter.symm.trans hafter')
    rw [(hcompare before after (hsame hbefore hafter)).2 hagree] at hitem
    cases hitem
  · rintro ⟨hadded, hremoved, hchanged⟩ k
    cases hbefore : standing? key old k with
    | none =>
      have hnone : standing? key new k = none := by
        rw [standing?_eq_none_iff] at hbefore ⊢
        exact fun hk => hadded k ⟨hk, hbefore⟩
      rw [hnone]
      exact .none
    | some before =>
      cases hafter : standing? key new k with
      | none =>
        have hk : k ∈ old.map key := exists_standing_iff.1 ⟨before, hbefore⟩
        exact absurd ⟨hk, standing?_eq_none_iff.1 hafter⟩ (hremoved k)
      | some after =>
        refine .some ((hcompare before after (hsame hbefore hafter)).1 ?_)
        cases hitem : compare before after with
        | none => rfl
        | some item => exact absurd ⟨before, after, hbefore, hafter, hitem⟩ (hchanged k item)

end Cadastre
