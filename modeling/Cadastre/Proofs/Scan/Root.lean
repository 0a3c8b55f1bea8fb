import Cadastre.Proofs.Path.Normal
import Cadastre.Proofs.Scan.Found
import Cadastre.World.Tree
import Mathlib.Data.List.Chain
import Mathlib.Data.List.Induction
import Mathlib.Data.List.Nodup

/-!
# The root of the repository

The directories that are searched are the start and the directories around it, one after another up to
the depth that is asked for or to the root of the file system. They are all different, so none is
left out for having been searched before, and a larger depth only adds directories at the end. The
main statement is that the root of the repository is the first of them that holds routers and schema,
and stays the same at every larger depth.
-/

namespace Cadastre

variable {workingDirectory start root : String} {cs : List String} {c : String} {depth deeper : Nat}

namespace Path

/-! ## The directories around a path -/

/-- Leaving out the last item first, or never. -/
theorem shorter_append_singleton (cs : List String) (c : String) :
    shorter (cs ++ [c]) = (cs ++ [c]) :: shorter cs := by
  induction cs with
  | nil => rfl
  | cons d cs ih => rw [List.cons_append, shorter, ih, shorter]; rfl

theorem length_shorter (cs : List String) : (shorter cs).length = cs.length + 1 := by
  induction cs with
  | nil => rfl
  | cons c cs ih => rw [shorter, List.length_append, List.length_map, ih]; rfl

theorem length_le_of_mem_shorter {ds : List String} (h : ds ∈ shorter cs) :
    ds.length ≤ cs.length ∧ ∀ c ∈ ds, c ∈ cs := by
  induction cs generalizing ds with
  | nil =>
    obtain rfl : ds = [] := by simpa [shorter] using h
    simp
  | cons c cs ih =>
    rcases List.mem_append.1 h with h | h
    · obtain ⟨ds, hds, rfl⟩ := List.mem_map.1 h
      obtain ⟨hlength, hmem⟩ := ih hds
      exact ⟨Nat.succ_le_succ hlength, fun d hd =>
        List.mem_cons.2 ((List.mem_cons.1 hd).imp_right (hmem d))⟩
    · obtain rfl : ds = [] := by simpa using h
      simp

theorem ancestors_ofComponents (h : ∀ c ∈ cs, IsFileName c) :
    ancestors (ofComponents cs) = (shorter cs).map ofComponents := by
  rw [ancestors, components_ofComponents h]

theorem head?_ancestors (h : ∀ c ∈ cs, IsFileName c) :
    (ancestors (ofComponents cs)).head? = some (ofComponents cs) := by
  rw [ancestors_ofComponents h]
  obtain rfl | ⟨cs, c, rfl⟩ := List.eq_nil_or_concat cs
  · rfl
  · rw [List.concat_eq_append, shorter_append_singleton]
    rfl

/-- The directory around a path is what its other names make. -/
theorem parent?_ofComponents (h : ∀ d ∈ cs ++ [c], IsFileName d) :
    parent? (ofComponents (cs ++ [c])) = some (ofComponents cs) := by
  simp only [parent?, components_ofComponents h, List.reverse_append, List.reverse_singleton,
    List.singleton_append, isAbsolute_ofComponents, if_true, List.reverse_reverse]
  rfl

/-- Each of the directories around a path is around the one before it. -/
theorem isChain_ancestors (h : ∀ c ∈ cs, IsFileName c) :
    (ancestors (ofComponents cs)).IsChain fun dir above => parent? dir = some above := by
  induction cs using List.reverseRecOn with
  | nil => exact List.isChain_singleton _
  | append_singleton cs c ih =>
    have hcs : ∀ d ∈ cs, IsFileName d := fun d hd => h d (List.mem_append_left _ hd)
    rw [ancestors_ofComponents h, shorter_append_singleton, List.map_cons,
      ← ancestors_ofComponents hcs, List.isChain_cons]
    refine ⟨fun above habove => ?_, ih hcs⟩
    rw [head?_ancestors hcs] at habove
    rw [parent?_ofComponents h, ← Option.mem_some_iff.1 habove]

theorem nodup_ancestors (h : ∀ c ∈ cs, IsFileName c) : (ancestors (ofComponents cs)).Nodup := by
  induction cs using List.reverseRecOn with
  | nil => exact List.nodup_singleton _
  | append_singleton cs c ih =>
    have hcs : ∀ d ∈ cs, IsFileName d := fun d hd => h d (List.mem_append_left _ hd)
    rw [ancestors_ofComponents h, shorter_append_singleton, List.map_cons, List.nodup_cons,
      ← ancestors_ofComponents hcs]
    refine ⟨fun hmem => ?_, ih hcs⟩
    rw [ancestors_ofComponents hcs] at hmem
    obtain ⟨ds, hds, hsame⟩ := List.mem_map.1 hmem
    obtain ⟨hlength, hnames⟩ := length_le_of_mem_shorter hds
    -- a directory farther up has fewer names, and they are read back from its path
    have hcomponents := congrArg components hsame
    rw [components_ofComponents h, components_ofComponents fun d hd => hcs d (hnames d hd)]
      at hcomponents
    rw [hcomponents, List.length_append, List.length_singleton] at hlength
    omega

/-! ## How many there are -/

theorem length_fold_le (passed cs : List String) :
    (fold passed cs).length ≤ passed.length + cs.length := by
  fun_induction fold passed cs with
  | case1 passed => simp
  | case2 passed c cs hpoint ih => rw [List.length_cons]; omega
  | case3 passed c cs hpoint hpoints ih =>
    rw [List.length_tail] at ih
    rw [List.length_cons]
    omega
  | case4 passed c cs hpoint hpoints ih =>
    rw [List.length_cons] at ih ⊢
    omega

/-- A path has no more pieces than characters. -/
theorem length_pieces_le (path : String) : (pieces path).length ≤ path.length := by
  have hle : ∀ text : List Char,
      ((Text.splitAt (· == '/') text).filter fun piece => !piece.isEmpty).length ≤ text.length := by
    intro text
    induction text with
    | nil => simp [Text.splitAt]
    | cons d text ih =>
      rw [Text.splitAt]
      split
      · simpa using Nat.le_succ_of_le ih
      · cases hsplit : Text.splitAt (· == '/') text with
        | nil => simp
        | cons piece rest =>
          rw [hsplit] at ih
          cases piece <;> simp at ih ⊢ <;> omega
  rw [pieces, List.length_map, ← String.length_toList]
  exact hle path.toList

theorem length_components_absolute_le (h : start ≠ "") :
    (components (absolute workingDirectory start)).length ≤
      workingDirectory.length + start.length := by
  have hstart := length_fold_le [] (pieces workingDirectory)
  have hwalk := length_fold_le (startOf workingDirectory start) (pieces start)
  have hpieces := length_pieces_le start
  have hdirectory := length_pieces_le workingDirectory
  have hfirst : (startOf workingDirectory start).length ≤ workingDirectory.length := by
    rw [startOf]
    split
    · exact Nat.zero_le _
    · rw [List.length_reverse]
      simp only [List.length_nil] at hstart
      omega
  rw [components_absolute h]
  omega

end Path

namespace Scan

/-! ## The directories that are searched -/

theorem eraseDups_eq_self {dirs : List String} (h : dirs.Nodup) : dirs.eraseDups = dirs := by
  induction dirs with
  | nil => rfl
  | cons dir dirs ih =>
    obtain ⟨hnew, hdirs⟩ := List.nodup_cons.1 h
    have hkept : dirs.filter (fun other => !other == dir) = dirs := by
      refine List.filter_eq_self.2 fun other hother => ?_
      rw [Bool.not_eq_true', beq_eq_false_iff_ne]
      rintro rfl
      exact hnew hother
    rw [List.eraseDups_cons, hkept, ih hdirs]

/-- The directories that are searched are all different, so leaving out repetitions changes nothing. -/
theorem candidates_eq (h : start ≠ "") :
    candidates workingDirectory start depth =
      (Path.ancestors (Path.absolute workingDirectory start)).take (reach depth) := by
  obtain ⟨cs, hcs, hpath⟩ := Path.exists_ordinary workingDirectory h
  have hnodup := Path.nodup_ancestors fun c hc => (hcs c hc).toIsFileName
  unfold candidates
  split
  · next hempty => exact absurd (hpath ▸ hempty) (Path.ofComponents_ne_empty cs)
  · rw [hpath]
    exact eraseDups_eq_self (hnodup.sublist (List.take_sublist _ _))

theorem candidates_isPrefix (hstart : start ≠ "") (h : depth ≤ deeper) :
    candidates workingDirectory start depth <+: candidates workingDirectory start deeper := by
  have hreach : reach depth ≤ reach deeper := by
    unfold reach
    omega
  rw [candidates_eq hstart, candidates_eq hstart]
  exact List.take_prefix_take_left hreach

/-- There are as many directories as the depth says, or as there are. At the largest depth that a
machine counts to, none is left out either, since a path has no more names than characters. -/
theorem length_candidates (hstart : start ≠ "")
    (hsize : depth < largestCount ∨ workingDirectory.length + start.length < largestCount) :
    (candidates workingDirectory start depth).length =
      min depth (Path.components (Path.absolute workingDirectory start)).length + 1 := by
  have hle : (Path.components (Path.absolute workingDirectory start)).length ≤
      workingDirectory.length + start.length := Path.length_components_absolute_le hstart
  rw [candidates_eq hstart, List.length_take, Path.ancestors, List.length_map, Path.length_shorter,
    reach]
  omega

end Scan

/-! ## The first that holds both -/

namespace Storage

variable {storage : Storage} {time : Instant} {layout : Layout}

/-- Routers and schema are both in a directory. -/
def HoldsBoth (storage : Storage) (layout : Layout) (dir : String) : Prop :=
  storage.probe (Path.join dir layout.routersDir) = true ∧
    storage.probe (Path.join dir layout.schemaFile) = true

/-- Of some directories, one is the first that holds both routers and schema. -/
def IsNearest (storage : Storage) (layout : Layout) (dirs : List String) (root : String) : Prop :=
  ∃ nearer farther, dirs = nearer ++ root :: farther ∧ storage.HoldsBoth layout root ∧
    ∀ dir ∈ nearer, ¬ storage.HoldsBoth layout dir

theorem holdsBoth_iff {dir : String} :
    storage.holdsBoth layout dir = true ↔ storage.HoldsBoth layout dir :=
  Bool.and_eq_true_iff

theorem find?_holdsBoth_iff {dirs : List String} :
    dirs.find? (storage.holdsBoth layout) = some root ↔ storage.IsNearest layout dirs root := by
  simp only [List.find?_eq_some_iff_append, Bool.not_eq_true', ← Bool.not_eq_true, holdsBoth_iff,
    IsNearest]
  constructor
  · rintro ⟨hroot, nearer, farther, hdirs, hnearer⟩
    exact ⟨nearer, farther, hdirs, hroot, hnearer⟩
  · rintro ⟨nearer, farther, hdirs, hroot, hnearer⟩
    exact ⟨hroot, nearer, farther, hdirs, hnearer⟩

end Storage

/-- The directories that are searched are the start and, up to the depth, the directories around it,
each around the one before, whatever the depth is: only paths too long for a machine to hold could
have more names than the largest depth counts. The root of the repository is the first of these
directories that holds routers and schema, at this depth and at every larger one. -/
theorem root_is_nearest (storage : Storage) (time : Instant) (workingDirectory start : String)
    (layout : Layout) (depth : Nat) (hstart : start ≠ "") :
    let path := Path.absolute workingDirectory start
    let dirs := Scan.candidates workingDirectory start depth
    dirs.head? = some path ∧ (dirs.IsChain fun dir above => Path.parent? dir = some above) ∧
    dirs.Nodup ∧
    (depth < Scan.largestCount ∨ workingDirectory.length + start.length < Scan.largestCount →
      dirs.length = min depth (Path.components path).length + 1) ∧
    (∀ deeper, depth ≤ deeper → dirs <+: Scan.candidates workingDirectory start deeper) ∧
    ∃ found, storage.Gives time (Scan.root? workingDirectory start depth layout) found ∧
      (∀ root, found = some root ↔ storage.IsNearest layout dirs root) ∧
      (found = none ↔ ∀ dir ∈ dirs, ¬ storage.HoldsBoth layout dir) ∧
      ∀ root, found = some root → ∀ deeper, depth ≤ deeper →
        storage.Gives time (Scan.root? workingDirectory start deeper layout) (some root) := by
  intro path dirs
  obtain ⟨cs, hordinary, hpath⟩ := Path.exists_ordinary workingDirectory hstart
  have hcs : ∀ c ∈ cs, IsFileName c := fun c hc => (hordinary c hc).toIsFileName
  have hdirs : dirs = (Path.ancestors (Path.ofComponents cs)).take (Scan.reach depth) := by
    rw [← hpath]
    exact Scan.candidates_eq hstart
  have hpos : Scan.reach depth ≠ 0 := by
    have hcount : 0 < Scan.largestCount := by decide
    unfold Scan.reach
    omega
  refine ⟨?_, ?_, ?_, fun hsize => Scan.length_candidates hstart hsize,
    fun deeper h => Scan.candidates_isPrefix hstart h, ?_⟩
  · rw [hdirs, List.head?_take, if_neg hpos, Path.head?_ancestors hcs]
    exact congrArg some hpath.symm
  · rw [hdirs]
    exact (Path.isChain_ancestors hcs).take _
  · rw [hdirs]
    exact (Path.nodup_ancestors hcs).sublist (List.take_sublist _ _)
  · refine ⟨dirs.find? (storage.holdsBoth layout), Storage.gives_firstRoot? layout dirs,
      fun root => Storage.find?_holdsBoth_iff, ?_, fun root hroot deeper hdeeper => ?_⟩
    · simp only [List.find?_eq_none, Storage.holdsBoth_iff]
    · have hprefix : dirs <+: Scan.candidates workingDirectory start deeper :=
        Scan.candidates_isPrefix hstart hdeeper
      rw [← hprefix.find?_eq_some hroot]
      exact Storage.gives_firstRoot? layout _

/-- Two repositories, one inside the other, and a start below both. -/
theorem root_is_nearest_nested :
    let storage := (⟨[("/r/a/x.py", .ok ""), ("/r/s.sql", .ok ""), ("/r/b/a/y.py", .ok ""),
      ("/r/b/s.sql", .ok "")], [], none⟩ : Tree).storage
    let layout : Layout := ⟨"a", "s.sql", "py"⟩
    "../c/./d" ≠ "" ∧ (Scan.candidates "/r/b/e" "../c/./d" Scan.largestCount).length = 5 ∧
    storage.Gives Instant.epoch (Scan.root? "/r/b/e" "../c/./d" 1 layout) none ∧
    storage.Gives Instant.epoch (Scan.root? "/r/b/e" "../c/./d" 2 layout) (some "/r/b") ∧
    storage.Gives Instant.epoch (Scan.root? "/r/b/e" "../c/./d" Scan.largestCount layout)
      (some "/r/b") := by
  intro storage layout
  have hstart : "../c/./d" ≠ "" := by decide
  have hboth : storage.HoldsBoth layout "/r/b" := ⟨by decide +kernel, by decide +kernel⟩
  have hneither : ∀ dir ∈ ["/r/b/c/d", "/r/b/c"], ¬ storage.HoldsBoth layout dir := by
    simp only [Storage.HoldsBoth]
    decide +kernel
  obtain ⟨-, -, -, -, -, near, hnear, -, hnone, -⟩ :=
    root_is_nearest storage Instant.epoch "/r/b/e" "../c/./d" layout 1 hstart
  obtain ⟨-, -, -, -, -, found, hfound, hnearest, -, hdeeper⟩ :=
    root_is_nearest storage Instant.epoch "/r/b/e" "../c/./d" layout 2 hstart
  obtain rfl : near = none := hnone.2 hneither
  obtain rfl : found = some "/r/b" :=
    (hnearest _).2 ⟨["/r/b/c/d", "/r/b/c"], [], by decide +kernel, hboth, hneither⟩
  obtain ⟨-, -, -, hlength, -⟩ :=
    root_is_nearest storage Instant.epoch "/r/b/e" "../c/./d" layout Scan.largestCount hstart
  exact ⟨hstart, (hlength (.inr (by decide +kernel))).trans (by decide +kernel), hnear, hfound,
    hdeeper _ rfl _ (by decide +kernel)⟩

end Cadastre
