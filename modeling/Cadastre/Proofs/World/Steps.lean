import Cadastre.Proofs.Text.Places
import Cadastre.World.Tree

/-!
# Steps to a file in a directory

The steps to a file are the steps to its directory and then its name, however the path of the
directory is spelled. So files of one directory with different names are different files.
-/

namespace Cadastre

open Text

variable {dir path name other : String} {cs : List Char}

/-- A name of a file: it is neither empty nor a single point, and holds no slash. -/
structure IsFileName (name : String) : Prop where
  ne_empty : name ≠ ""
  ne_point : name ≠ "."
  slash : '/' ∉ name.toList

namespace Path

theorem isAbsolute_of_isFileName (h : IsFileName name) : isAbsolute name = false := by
  rw [isAbsolute, beq_eq_false_iff_ne]
  exact fun hhead => h.slash (List.mem_of_mem_head? hhead)

/-- The pieces of a path that ends with a slash and a name. -/
theorem pieces_of_append_slash (h : IsFileName name)
    (hpath : path.toList = cs ++ '/' :: name.toList) :
    pieces path = pieces (String.ofList cs) ++ [name] := by
  have hslash : ∀ c ∈ name.toList, (c == '/') = false := by
    intro c hc
    rw [beq_eq_false_iff_ne]
    rintro rfl
    exact h.slash hc
  have hne : name.toList ≠ [] := by simpa using h.ne_empty
  rw [pieces, pieces, hpath, String.toList_ofList, splitAt_eq_splitOnP, splitAt_eq_splitOnP,
    List.splitOnP_append_cons _ _ (by decide), List.splitOnP_eq_singleton hslash,
    List.filter_append, List.map_append]
  simp [hne]

/-- A slash at the end of a path adds no piece. -/
theorem pieces_append_slash (hpath : path.toList = cs ++ ['/']) :
    pieces path = pieces (String.ofList cs) := by
  rw [pieces, pieces, hpath, String.toList_ofList, splitAt_eq_splitOnP, splitAt_eq_splitOnP,
    List.splitOnP_append_cons _ _ (by decide), List.filter_append]
  simp

/-- A name is put after one slash, unless there is no directory. -/
theorem join_cases (h : IsFileName name) (dir : String) :
    (dir = "" ∧ join dir name = name) ∨
      (∃ cs, dir.toList = cs ++ ['/'] ∧ (join dir name).toList = cs ++ '/' :: name.toList) ∨
      (dir ≠ "" ∧ (join dir name).toList = dir.toList ++ '/' :: name.toList) := by
  unfold join
  rw [isAbsolute_of_isFileName h, Bool.false_or]
  split
  · next hempty => exact .inl ⟨by simpa using hempty, rfl⟩
  · next hempty =>
    split
    · next hlast =>
      obtain ⟨cs, hcs⟩ := List.getLast?_eq_some_iff.1 (beq_iff_eq.1 hlast)
      exact .inr (.inl ⟨cs, hcs, by simp [hcs]⟩)
    · exact .inr (.inr ⟨by simpa using hempty, by simp⟩)

theorem pieces_join (h : IsFileName name) (dir : String) :
    pieces (join dir name) = pieces dir ++ [name] := by
  rcases join_cases h dir with ⟨rfl, hjoin⟩ | ⟨cs, hdir, hjoin⟩ | ⟨-, hjoin⟩
  · have hpieces : pieces ("/" ++ name) = pieces (String.ofList []) ++ [name] :=
      pieces_of_append_slash h (by simp)
    have hslash : pieces ("/" ++ name) = pieces name := by
      simp [pieces, splitAt]
    rw [hjoin, ← hslash, hpieces]
  · rw [pieces_of_append_slash h hjoin, pieces_append_slash hdir]
  · rw [pieces_of_append_slash h hjoin, String.ofList_toList]

theorem isAbsolute_join (h : IsFileName name) (dir : String) :
    isAbsolute (join dir name) = isAbsolute dir := by
  rcases join_cases h dir with ⟨rfl, hjoin⟩ | ⟨cs, hdir, hjoin⟩ | ⟨hne, hjoin⟩
  · rw [hjoin, isAbsolute_of_isFileName h]
    rfl
  · rw [isAbsolute, isAbsolute, hjoin, hdir]
    cases cs <;> rfl
  · obtain ⟨c, cs, hdir⟩ := List.exists_cons_of_ne_nil (l := dir.toList) (by simpa using hne)
    rw [isAbsolute, isAbsolute, hjoin, hdir]
    rfl

theorem components_eq (path : String) : components path =
    if isAbsolute path = false ∧ (pieces path).head? = some "." then
      "." :: (pieces path).tail.filter (· != ".")
    else (pieces path).filter (· != ".") := by
  unfold components
  split
  · next rest habsolute hpieces => simp [habsolute, hpieces]
  · next hno =>
    rw [if_neg]
    rintro ⟨habsolute, hhead⟩
    obtain ⟨rest, hpieces⟩ := List.head?_eq_some_iff.1 hhead
    exact hno rest habsolute hpieces

theorem components_join (h : IsFileName name) (dir : String) :
    components (join dir name) = components dir ++ [name] := by
  have hkept : [name].filter (· != ".") = [name] := by simp [h.ne_point]
  have hfirst : ∀ ps : List String, (ps ++ [name]).head? = some "." ↔ ps.head? = some "." := by
    intro ps
    cases ps <;> simp [h.ne_point]
  rw [components_eq, components_eq, isAbsolute_join h, pieces_join h]
  simp only [hfirst]
  split
  · next hpoint =>
    have hne : pieces dir ≠ [] := by
      intro hnil
      rw [hnil] at hpoint
      cases hpoint.2
    rw [List.tail_append_of_ne_nil hne, List.filter_append, hkept, List.cons_append]
  · rw [List.filter_append, hkept]

end Path

namespace Tree

theorem steps_join (h : IsFileName name) (dir : String) :
    steps (Path.join dir name) = steps dir ++ [name] := by
  unfold steps
  rw [Path.isAbsolute_join h, Path.components_join h]
  split <;> rfl

/-- Two files of one directory are the same just if they have the same name. -/
theorem steps_join_inj (h : IsFileName name) (hother : IsFileName other) :
    steps (Path.join dir name) = steps (Path.join dir other) ↔ name = other := by
  rw [steps_join h, steps_join hother]
  simp

end Tree

end Cadastre
