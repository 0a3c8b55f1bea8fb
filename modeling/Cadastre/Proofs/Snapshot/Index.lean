import Cadastre.Snapshot.Diff
import Mathlib.Data.String.Basic

/-!
# Entries by key

The keys of an index ascend strictly, however it was built. So an entry is found under its key, and
an index that is compared with itself lacks no key and pairs every entry with itself.
-/

namespace Cadastre.Index

variable {α β γ : Type} {index : Index α} {key k : String} {entry : α}

/-! ## Order -/

/-- The keys of an index ascend strictly. -/
def Ascending (index : Index α) : Prop := (index.map Prod.fst).Pairwise (· < ·)

theorem ascending_cons {e : String × α} :
    Ascending (e :: index) ↔ (∀ l ∈ index.map Prod.fst, e.1 < l) ∧ Ascending index :=
  List.pairwise_cons

theorem mem_keys_insert :
    k ∈ (index.insert key entry).map Prod.fst ↔ k = key ∨ k ∈ index.map Prod.fst := by
  induction index with
  | nil => simp [insert]
  | cons e rest ih =>
    obtain ⟨l, old⟩ := e
    unfold insert
    split_ifs with hlt heq
    · simp
    · subst heq
      simp
    · rw [List.map_cons, List.mem_cons, ih, List.map_cons, List.mem_cons]
      tauto

theorem Ascending.insert (h : Ascending index) (key : String) (entry : α) :
    Ascending (index.insert key entry) := by
  induction index with
  | nil => exact List.pairwise_singleton _ _
  | cons e rest ih =>
    obtain ⟨l, old⟩ := e
    obtain ⟨hhead, hrest⟩ := ascending_cons.1 h
    unfold Index.insert
    split_ifs with hlt heq
    · refine ascending_cons.2 ⟨fun m hm => ?_, h⟩
      rcases List.mem_cons.1 hm with rfl | hm
      · exact hlt
      · exact hlt.trans (hhead m hm)
    · subst heq
      exact ascending_cons.2 ⟨hhead, hrest⟩
    · refine ascending_cons.2 ⟨fun m hm => ?_, ih hrest⟩
      rcases mem_keys_insert.1 hm with rfl | hm
      · exact lt_of_le_of_ne (not_lt.1 hlt) (Ne.symm heq)
      · exact hhead m hm

/-- The keys of every index that is built from a list ascend strictly. -/
theorem ascending_ofList (key : α → String) (entries : List α) : Ascending (ofList key entries) := by
  have hfold : ∀ index : Index α, Ascending index →
      Ascending (entries.foldl (fun index entry => index.insert (key entry) entry) index) := by
    induction entries with
    | nil => exact fun _ h => h
    | cons e rest ih => exact fun index h => ih _ (h.insert (key e) e)
  exact hfold [] List.Pairwise.nil

/-! ## Entries under their keys -/

/-- Every entry of an index is the one under its key. -/
theorem Ascending.get?_of_mem (h : Ascending index) (hmem : (key, entry) ∈ index) :
    index.get? key = some entry := by
  unfold get?
  induction index with
  | nil => simp at hmem
  | cons e rest ih =>
    obtain ⟨hhead, hrest⟩ := ascending_cons.1 h
    rcases List.mem_cons.1 hmem with rfl | hmem
    · exact List.lookup_cons_self
    · have hlt : e.1 < key := hhead key (List.mem_map_of_mem hmem)
      rw [List.lookup_cons, beq_eq_false_iff_ne.2 hlt.ne']
      exact ih hrest hmem

theorem Ascending.keysMissingIn_self (h : Ascending index) : index.keysMissingIn index = [] := by
  rw [keysMissingIn, List.filter_eq_nil_iff]
  intro key hkey
  obtain ⟨⟨_, entry⟩, hmem, rfl⟩ := List.mem_map.1 hkey
  rw [h.get?_of_mem hmem]
  exact Bool.false_ne_true

/-- Comparing an index with itself compares every entry with itself. -/
theorem Ascending.compareShared_self {compare : α → α → Option γ} (h : Ascending index)
    (hsame : ∀ e, compare e e = none) : index.compareShared index compare = [] := by
  rw [compareShared, List.filterMap_eq_nil_iff]
  intro ⟨key, entry⟩ hmem
  show ((index.get? key).bind fun before => compare before entry) = none
  rw [h.get?_of_mem hmem, Option.bind_some, hsame]

end Cadastre.Index
