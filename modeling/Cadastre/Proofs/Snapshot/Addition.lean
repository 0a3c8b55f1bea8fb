import Cadastre.Proofs.Snapshot.Exact
import Cadastre.Proofs.Snapshot.Order
import Cadastre.Proofs.Snapshot.Unchanged
import Cadastre.Proofs.Text.Occurrence

/-!
# Routes that are added

The key of a route ends with the name of its file, so routes of different files have different keys,
whatever their paths hold. Where routes with other keys are added to a snapshot, each key keeps the
route that stands for it, and a comparison finds the new keys and nothing else.
-/

namespace Cadastre

variable {a b : Route} {folder name other : String} {old new : Snapshot} {xs ys zs : List Route}

namespace Route

/-- The text of a key ends with the name of the file. -/
theorem toList_key (h : a.sourceFile = folder ++ "/" ++ name) :
    ∃ before, a.key.toList = before ++ '/' :: (name.toList ++ [')']) := by
  refine ⟨a.method.name.toList ++ ' ' :: (a.path.toList ++ ' ' :: '(' :: folder.toList), ?_⟩
  simp [key, toString, h]

/-- Routes with one key are from one file. -/
theorem name_eq_of_key_eq (hname : '/' ∉ name.toList) (hother : '/' ∉ other.toList)
    (ha : a.sourceFile = folder ++ "/" ++ name) (hb : b.sourceFile = folder ++ "/" ++ other)
    (hkey : a.key = b.key) : name = other := by
  obtain ⟨before, hbefore⟩ := toList_key ha
  obtain ⟨before', hbefore'⟩ := toList_key hb
  have htext : before ++ '/' :: (name.toList ++ [')']) =
      before' ++ '/' :: (other.toList ++ [')']) := by rw [← hbefore, ← hbefore', hkey]
  have hend := (Text.append_cons_inj_right (by simpa using hname) (by simpa using hother) htext).2
  exact String.toList_injective (List.append_cancel_right hend)

end Route

/-! ## Standing routes -/

/-- Routes with other keys, wherever they are put before sorting, leave the route that stands for a
key. -/
theorem standing?_sort_append (k : String) (hys : k ∉ ys.map Route.key) :
    standing? Route.key (Route.sort (xs ++ (ys ++ zs))) k =
      standing? Route.key (Route.sort (xs ++ zs)) k := by
  have hnone : ys.filter (fun r => Route.key r = k) = [] := by
    refine List.filter_eq_nil_iff.2 fun r hr hk => ?_
    exact hys (List.mem_map.2 ⟨r, hr, by simpa using hk⟩)
  unfold standing?
  rw [Route.filter_sort, Route.filter_sort, List.filter_append, List.filter_append,
    List.filter_append, hnone, List.nil_append]

/-! ## Comparing -/

/-- Where every key keeps the route that stands for it, and tables and modules stay, only routes are
added. -/
theorem Snapshot.diff_of_added
    (hroutes : ∀ k ∈ old.routes.map Route.key,
      standing? Route.key new.routes k = standing? Route.key old.routes k)
    (htables : old.tables = new.tables) (hmodules : old.modules = new.modules) :
    old.diff new = { Diff.empty with addedRoutes := (old.diff new).addedRoutes } := by
  have hreports := reports_diff old new
  have hremoved : (old.diff new).removedRoutes = [] := by
    rw [hreports.removedRoutes.eq_nil_iff]
    rintro k ⟨hk, hnew⟩
    obtain ⟨r, hr⟩ := exists_standing_iff.2 hk
    exact hnew (exists_standing_iff.1 ⟨r, (hroutes k hk).trans hr⟩)
  have hchanged : (old.diff new).changedRoutes = [] := by
    rw [hreports.changedRoutes.eq_nil_iff]
    rintro k c ⟨before, after, hbefore, hafter, hdiffers, -⟩
    have hk := exists_standing_iff.1 ⟨before, hbefore⟩
    rw [hroutes k hk, hbefore] at hafter
    obtain rfl := Option.some.inj hafter
    exact (Route.change?_eq_none_iff.1 before.change?_self) hdiffers
  -- what is said of tables and modules does not depend on the routes
  have hrest : ({ old with routes := new.routes } : Snapshot).diff new = Diff.empty :=
    diff_eq_empty rfl htables hmodules
  have haddedTables : (old.diff new).addedTables = [] := congrArg Diff.addedTables hrest
  have hremovedTables : (old.diff new).removedTables = [] := congrArg Diff.removedTables hrest
  have hchangedTables : (old.diff new).changedTables = [] := congrArg Diff.changedTables hrest
  have haddedModules : (old.diff new).addedModules = [] := congrArg Diff.addedModules hrest
  have hremovedModules : (old.diff new).removedModules = [] := congrArg Diff.removedModules hrest
  generalize old.diff new = d at *
  cases d
  simp_all [Diff.empty]

/-- Routes with other keys than all the others, wherever they are put before sorting, are what a
comparison finds. -/
theorem Snapshot.diff_of_inserted (hold : old.routes = Route.sort (xs ++ zs))
    (hnew : new.routes = Route.sort (xs ++ (ys ++ zs)))
    (hkeys : ∀ k ∈ (xs ++ zs).map Route.key, k ∉ ys.map Route.key)
    (htables : old.tables = new.tables) (hmodules : old.modules = new.modules) :
    ∃ added, ListsKeys (· ∈ ys.map Route.key) added ∧
      old.diff new = { Diff.empty with addedRoutes := added } := by
  have hmem : ∀ k routes, k ∈ (Route.sort routes).map Route.key ↔ k ∈ routes.map Route.key :=
    fun _ routes => ((List.mergeSort_perm routes _).map Route.key).mem_iff
  refine ⟨(old.diff new).addedRoutes, ?_, diff_of_added (fun k hk => ?_) htables hmodules⟩
  · obtain ⟨hascending, hadded⟩ := (reports_diff old new).addedRoutes
    refine ⟨hascending, fun k => (hadded k).trans ?_⟩
    simp only [hold, hnew, hmem]
    constructor
    · rintro ⟨hk, hno⟩
      simp only [List.map_append, List.mem_append, not_or] at hk hno
      tauto
    · intro hk
      refine ⟨?_, fun hother => hkeys k hother hk⟩
      simp only [List.map_append, List.mem_append]
      exact .inr (.inl hk)
  · rw [hold, hmem] at hk
    rw [hold, hnew, standing?_sort_append k (hkeys k hk)]

end Cadastre
