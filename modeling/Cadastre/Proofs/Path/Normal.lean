import Cadastre.Proofs.World.Steps

/-!
# The normal form of a path

A path is made absolute by walking along its pieces: a point stays where it is, two points go back by
one, and at the root they stay there. What is passed in the end are ordinary names, and these are
read back from the path that is put together from them. Two spellings of a path are therefore the
same path if they walk the same way.
-/

namespace Cadastre.Path

open Text

variable {path p q : String} {passed cs ds : List String} {c x : String} {n : Nat}

/-- A name of a component that a walk passes. -/
structure IsOrdinary (name : String) : Prop extends IsFileName name where
  ne_points : name ≠ ".."

/-- Slashes, one behind another. -/
def slashes (n : Nat) : String := String.ofList (List.replicate n '/')

/-- Two points and a slash, again and again. -/
def ups (n : Nat) : String := String.join (List.replicate n "../")

/-! ## Pieces -/

theorem all_of_mem_splitAt {mark : Char → Bool} {text piece : List Char}
    (h : piece ∈ splitAt mark text) : ∀ c ∈ piece, mark c = false := by
  induction text generalizing piece with
  | nil =>
    obtain rfl : piece = [] := by simpa [splitAt] using h
    simp
  | cons d text ih =>
    rw [splitAt] at h
    split at h
    · rcases List.mem_cons.1 h with rfl | h
      · simp
      · exact ih h
    · next hd =>
      split at h
      · obtain rfl : piece = [d] := by simpa using h
        simpa using hd
      · next first rest hsplit =>
        rcases List.mem_cons.1 h with rfl | h
        · have hfirst := ih (hsplit ▸ List.mem_cons_self)
          exact List.forall_mem_cons.2 ⟨by simpa using hd, hfirst⟩
        · exact ih (hsplit ▸ List.mem_cons_of_mem first h)

/-- The pieces of a path are names without a slash. -/
theorem of_mem_pieces (h : c ∈ pieces path) : c ≠ "" ∧ '/' ∉ c.toList := by
  obtain ⟨piece, hpiece, rfl⟩ := List.mem_map.1 h
  obtain ⟨hmem, hne⟩ := List.mem_filter.1 hpiece
  refine ⟨by simpa using hne, ?_⟩
  rw [String.toList_ofList]
  intro hslash
  have hno := all_of_mem_splitAt hmem '/' hslash
  simp at hno

theorem pieces_append_slash_append (p q : String) :
    pieces (p ++ "/" ++ q) = pieces p ++ pieces q := by
  have htext : (p ++ "/" ++ q).toList = p.toList ++ '/' :: q.toList := by simp
  rw [pieces, pieces, pieces, htext, splitAt_eq_splitOnP, splitAt_eq_splitOnP, splitAt_eq_splitOnP,
    List.splitOnP_append_cons _ _ (by decide), List.filter_append, List.map_append]

theorem pieces_slash_append (q : String) : pieces ("/" ++ q) = pieces q := by
  have hempty := pieces_append_slash_append "" q
  rwa [String.empty_append] at hempty

theorem pieces_slashes_append (n : Nat) (q : String) : pieces (slashes n ++ q) = pieces q := by
  induction n with
  | zero => rw [slashes, List.replicate_zero, String.ofList_nil, String.empty_append]
  | succ n ih =>
    have hfirst : slashes (n + 1) = "/" ++ slashes n := by
      apply String.toList_injective
      simp [slashes, List.replicate_succ]
    rw [hfirst, String.append_assoc, pieces_slash_append, ih]

/-- A name in front of a slash is a piece of its own. -/
theorem pieces_name_append (hne : x ≠ "") (hslash : '/' ∉ x.toList) (q : String) :
    pieces (x ++ "/" ++ q) = x :: pieces q := by
  have hall : ∀ c ∈ x.toList, (c == '/') = false := by
    intro c hc
    rw [beq_eq_false_iff_ne]
    rintro rfl
    exact hslash hc
  have hone : pieces x = [x] := by
    rw [pieces, splitAt_eq_splitOnP, List.splitOnP_eq_singleton hall]
    simp [hne]
  rw [pieces_append_slash_append, hone]
  rfl

theorem pieces_ups_append (n : Nat) (q : String) :
    pieces (ups n ++ q) = List.replicate n ".." ++ pieces q := by
  induction n with
  | zero => rfl
  | succ n ih =>
    have hfirst : ups (n + 1) ++ q = ".." ++ "/" ++ (ups n ++ q) := by
      apply String.toList_injective
      simp [ups, List.replicate_succ]
    rw [hfirst, pieces_name_append (by decide) (by decide), ih]
    rfl

theorem isAbsolute_append_slash (p q : String) :
    isAbsolute (p ++ "/" ++ q) = (p.isEmpty || isAbsolute p) := by
  by_cases hp : p = ""
  · subst hp
    simp [isAbsolute]
  · obtain ⟨c, cs, hcs⟩ := List.exists_cons_of_ne_nil (l := p.toList) (by simpa using hp)
    simp [isAbsolute, hcs, hp]

/-! ## Walking -/

theorem fold_append (passed cs ds : List String) :
    fold passed (cs ++ ds) = fold (fold passed cs).reverse ds := by
  fun_induction fold passed cs with
  | case1 passed => rw [List.nil_append, List.reverse_reverse]
  | case2 passed c cs hpoint ih => rw [List.cons_append, fold, if_pos hpoint, ih]
  | case3 passed c cs hpoint hpoints ih =>
    rw [List.cons_append, fold, if_neg hpoint, if_pos hpoints, ih]
  | case4 passed c cs hpoint hpoints ih =>
    rw [List.cons_append, fold, if_neg hpoint, if_neg hpoints, ih]

theorem fold_point (passed cs : List String) : fold passed ("." :: cs) = fold passed cs := rfl

/-- A name and the two points behind it lead nowhere. -/
theorem fold_name_points (hpoint : x ≠ ".") (hpoints : x ≠ "..") (passed cs : List String) :
    fold passed (x :: ".." :: cs) = fold passed cs := by
  rw [fold, if_neg (by simpa using hpoint), if_neg (by simpa using hpoints)]
  rfl

/-- At the root two points stay there. -/
theorem fold_replicate_points (h : passed.length ≤ n) (cs : List String) :
    fold passed (List.replicate n ".." ++ cs) = fold [] cs := by
  induction n generalizing passed with
  | zero =>
    obtain rfl := List.eq_nil_of_length_eq_zero (Nat.le_zero.1 h)
    rfl
  | succ n ih =>
    rw [List.replicate_succ, List.cons_append]
    show fold passed.tail (List.replicate n ".." ++ cs) = fold [] cs
    refine ih ?_
    rw [List.length_tail]
    omega

/-- A walk is the same along the pieces of a path and along its components. -/
theorem fold_components (passed : List String) (path : String) :
    fold passed (components path) = fold passed (pieces path) := by
  have hfilter : ∀ passed cs, fold passed (cs.filter (· != ".")) = fold passed cs := by
    intro passed cs
    induction cs generalizing passed with
    | nil => rfl
    | cons c cs ih =>
      by_cases hpoint : c = "."
      · subst hpoint
        exact ih passed
      · rw [List.filter_cons_of_pos (by simpa using hpoint), fold, fold]
        simp only [ih]
  rw [components_eq]
  split
  · next h =>
    obtain ⟨rest, hpieces⟩ := List.head?_eq_some_iff.1 h.2
    rw [hpieces, List.tail_cons, fold_point, fold_point, hfilter]
  · exact hfilter passed (pieces path)

/-- What is passed in the end was passed before or is an ordinary piece. -/
theorem of_mem_fold (h : c ∈ fold passed cs) : c ∈ passed ∨ c ∈ cs ∧ c ≠ "." ∧ c ≠ ".." := by
  fun_induction fold passed cs with
  | case1 passed => exact .inl (List.mem_reverse.1 h)
  | case2 passed d cs hpoint ih => exact (ih h).imp_right fun hc => ⟨.tail d hc.1, hc.2⟩
  | case3 passed d cs hpoint hpoints ih =>
    exact (ih h).imp List.mem_of_mem_tail fun hc => ⟨.tail d hc.1, hc.2⟩
  | case4 passed d cs hpoint hpoints ih =>
    rcases ih h with hpassed | ⟨hmem, hc⟩
    · rcases List.mem_cons.1 hpassed with rfl | hpassed
      · exact .inr ⟨List.mem_cons_self, by simpa using hpoint, by simpa using hpoints⟩
      · exact .inl hpassed
    · exact .inr ⟨.tail d hmem, hc⟩

/-- Ordinary names are passed one after the other. -/
theorem fold_eq_append (h : ∀ c ∈ cs, c ≠ "." ∧ c ≠ "..") :
    fold passed cs = passed.reverse ++ cs := by
  induction cs generalizing passed with
  | nil => simp [fold]
  | cons c cs ih =>
    obtain ⟨⟨hpoint, hpoints⟩, hcs⟩ := List.forall_mem_cons.1 h
    rw [fold, if_neg (by simpa using hpoint), if_neg (by simpa using hpoints), ih hcs]
    simp

/-! ## Absolute paths of names -/

theorem isAbsolute_ofComponents (cs : List String) : isAbsolute (ofComponents cs) = true := by
  rw [isAbsolute, ofComponents, String.toList_append]
  rfl

theorem pieces_ofComponents (h : ∀ c ∈ cs, c ≠ "" ∧ '/' ∉ c.toList) :
    pieces (ofComponents cs) = cs := by
  rw [ofComponents, pieces_slash_append]
  by_cases hnil : cs = []
  · subst hnil
    rfl
  · have hslash : ∀ piece ∈ cs.map String.toList, '/' ∉ piece := by
      simpa using fun c hc => (h c hc).2
    have hkept : (cs.map String.toList).filter (fun piece => !piece.isEmpty) =
        cs.map String.toList := by
      refine List.filter_eq_self.2 ?_
      simpa using fun c hc => (h c hc).1
    have hsplit : splitAt (· == '/') (['/'].intercalate (cs.map String.toList)) =
        cs.map String.toList := by
      rw [splitAt_eq_splitOnP, ← List.splitOn_eq_splitOnP,
        List.splitOn_intercalate '/' hslash (by simpa using hnil)]
    have htext : ("/".intercalate cs).toList = ['/'].intercalate (cs.map String.toList) :=
      String.toList_intercalate
    rw [pieces, htext, hsplit, hkept, List.map_map]
    simp [Function.comp_def]

theorem components_ofComponents (h : ∀ c ∈ cs, IsFileName c) :
    components (ofComponents cs) = cs := by
  rw [components_eq, if_neg (by simp [isAbsolute_ofComponents]),
    pieces_ofComponents fun c hc => ⟨(h c hc).ne_empty, (h c hc).slash⟩]
  exact List.filter_eq_self.2 fun c hc => by simpa using (h c hc).ne_point

/-! ## The absolute path -/

/-- The names that are passed on the way to the working directory, the last one first, or none if a
path begins at the root. -/
def startOf (workingDirectory path : String) : List String :=
  if isAbsolute path then [] else (fold [] (pieces workingDirectory)).reverse

variable {wd : String}

theorem absolute_eq (h : path ≠ "") :
    absolute wd path = ofComponents (fold (startOf wd path) (pieces path)) := by
  rw [absolute, if_neg (by simpa using h), startOf]
  split
  · rw [fold_components]
  · rw [fold_append, fold_components, fold_components]

theorem isOrdinary_of_mem_walk (h : c ∈ fold (startOf wd path) (pieces path)) :
    IsOrdinary c := by
  have hpiece : ∀ {other : String}, c ∈ pieces other ∧ c ≠ "." ∧ c ≠ ".." → IsOrdinary c :=
    fun ⟨hmem, hpoint, hpoints⟩ =>
      ⟨⟨(of_mem_pieces hmem).1, hpoint, (of_mem_pieces hmem).2⟩, hpoints⟩
  rcases of_mem_fold h with hstart | hmem
  · rw [startOf] at hstart
    split at hstart
    · cases hstart
    · rcases of_mem_fold (List.mem_reverse.1 hstart) with hnone | hmem
      · cases hnone
      · exact hpiece hmem
  · exact hpiece hmem

theorem components_absolute (h : path ≠ "") :
    components (absolute wd path) = fold (startOf wd path) (pieces path) := by
  rw [absolute_eq h, components_ofComponents fun c hc => (isOrdinary_of_mem_walk hc).toIsFileName]

/-- A path that is made absolute is put together from ordinary names. -/
theorem exists_ordinary (wd : String) (h : path ≠ "") :
    ∃ cs, (∀ c ∈ cs, IsOrdinary c) ∧ absolute wd path = ofComponents cs :=
  ⟨_, fun _ hc => isOrdinary_of_mem_walk hc, absolute_eq h⟩

theorem ofComponents_ne_empty (cs : List String) : ofComponents cs ≠ "" := by
  intro h
  have habsolute := isAbsolute_ofComponents cs
  rw [h] at habsolute
  cases habsolute

/-- Names that are ordinary are walked along as they stand. -/
theorem absolute_ofComponents (h : ∀ c ∈ cs, IsOrdinary c) :
    absolute wd (ofComponents cs) = ofComponents cs := by
  have hpieces : pieces (ofComponents cs) = cs :=
    pieces_ofComponents fun c hc => ⟨(h c hc).ne_empty, (h c hc).slash⟩
  rw [absolute_eq (ofComponents_ne_empty cs), hpieces, startOf,
    if_pos (isAbsolute_ofComponents cs),
    fold_eq_append fun c hc => ⟨(h c hc).ne_point, (h c hc).ne_points⟩]
  rfl

theorem append_slash_ne_empty (p q : String) : p ++ "/" ++ q ≠ "" := by
  intro h
  have hlist := congrArg String.toList h
  simp at hlist

/-- What follows a slash decides how a walk goes on from there. -/
theorem absolute_append_slash_congr {r : String}
    (h : ∀ passed, fold passed (pieces q) = fold passed (pieces r)) :
    absolute wd (p ++ "/" ++ q) = absolute wd (p ++ "/" ++ r) := by
  have hstart : startOf wd (p ++ "/" ++ q) = startOf wd (p ++ "/" ++ r) := by
    rw [startOf, startOf, isAbsolute_append_slash, isAbsolute_append_slash]
  rw [absolute_eq (append_slash_ne_empty p q), absolute_eq (append_slash_ne_empty p r),
    pieces_append_slash_append, pieces_append_slash_append, fold_append, fold_append, hstart, h]

theorem absolute_slash_append (wd q : String) :
    absolute wd ("/" ++ q) = ofComponents (fold [] (pieces q)) := by
  have hstart : startOf wd ("/" ++ q) = [] := by
    rw [startOf, isAbsolute, String.toList_append]
    rfl
  rw [absolute_eq (by simp), hstart, pieces_slash_append]

theorem absolute_slashes (n : Nat) (q : String) :
    absolute wd (slashes (n + 1) ++ q) = absolute wd ("/" ++ q) := by
  have htext : slashes (n + 1) ++ q = "/" ++ (slashes n ++ q) := by
    apply String.toList_injective
    simp [slashes, List.replicate_succ]
  rw [htext, absolute_slash_append, absolute_slash_append, pieces_slashes_append]

/-- Two points behind the root lead back to the root. -/
theorem absolute_slash_ups (n : Nat) (q : String) :
    absolute wd ("/" ++ ups n ++ q) = absolute wd ("/" ++ q) := by
  rw [String.append_assoc, absolute_slash_append, absolute_slash_append, pieces_ups_append,
    fold_replicate_points (Nat.zero_le n)]

/-- As many points as there are names in the working directory lead from it to the root. -/
theorem absolute_ups (hn : 0 < n) (hle : (components (absolute wd ".")).length ≤ n) (q : String) :
    absolute wd (ups n ++ q) = absolute wd ("/" ++ q) := by
  obtain ⟨n, rfl⟩ := Nat.exists_eq_add_one_of_ne_zero hn.ne'
  have hrelative : isAbsolute (ups (n + 1) ++ q) = false := by
    simp [isAbsolute, ups, List.replicate_succ]
  have hne : ups (n + 1) ++ q ≠ "" := by
    intro hempty
    have hlist := congrArg String.toList hempty
    simp [ups, List.replicate_succ] at hlist
  have hstart : startOf wd (ups (n + 1) ++ q) = startOf wd "." := by
    rw [startOf, hrelative]
    rfl
  have hlength : (startOf wd ".").length ≤ n + 1 := by
    have hwalk : fold (startOf wd ".") (pieces ".") = (startOf wd ".").reverse := rfl
    rw [components_absolute (by decide), hwalk, List.length_reverse] at hle
    exact hle
  rw [absolute_eq hne, hstart, pieces_ups_append, fold_replicate_points hlength,
    absolute_slash_append]

/-- The path that another one is made to is absolute, holds neither a point nor two points, and is
made to itself. Neither a slash that is repeated, at the start or later, nor a point, nor a name with
two points behind it makes another path of it, and two points at the root stay there. -/
theorem absolute_normal (wd p q x : String) (hp : p ≠ "") (hx : IsOrdinary x) :
    isAbsolute (absolute wd p) = true ∧
    (∀ c ∈ pieces (absolute wd p), c ≠ "." ∧ c ≠ "..") ∧
    absolute wd (absolute wd p) = absolute wd p ∧
    (∀ n, absolute wd (p ++ slashes (n + 1) ++ q) = absolute wd (p ++ "/" ++ q)) ∧
    (∀ n, absolute wd (slashes (n + 1) ++ q) = absolute wd ("/" ++ q)) ∧
    absolute wd (p ++ "/./" ++ q) = absolute wd (p ++ "/" ++ q) ∧
    absolute wd (p ++ "/" ++ x ++ "/../" ++ q) = absolute wd (p ++ "/" ++ q) ∧
    (∀ n, absolute wd ("/" ++ ups n ++ q) = absolute wd ("/" ++ q)) ∧
    ∀ n, 0 < n → (components (absolute wd ".")).length ≤ n →
      absolute wd (ups n ++ q) = absolute wd ("/" ++ q) := by
  obtain ⟨cs, hcs, hpath⟩ := exists_ordinary wd hp
  refine ⟨?_, ?_, ?_, ?_, ?_, ?_, ?_, ?_, ?_⟩
  · rw [hpath]
    exact isAbsolute_ofComponents cs
  · rw [hpath, pieces_ofComponents fun c hc => ⟨(hcs c hc).ne_empty, (hcs c hc).slash⟩]
    exact fun c hc => ⟨(hcs c hc).ne_point, (hcs c hc).ne_points⟩
  · rw [hpath]
    exact absolute_ofComponents hcs
  · intro n
    have htext : p ++ slashes (n + 1) ++ q = p ++ "/" ++ (slashes n ++ q) := by
      apply String.toList_injective
      simp [slashes, List.replicate_succ]
    rw [htext]
    refine absolute_append_slash_congr fun passed => ?_
    rw [pieces_slashes_append]
  · exact fun n => absolute_slashes n q
  · have htext : p ++ "/./" ++ q = p ++ "/" ++ ("." ++ "/" ++ q) := by
      apply String.toList_injective
      simp
    rw [htext]
    refine absolute_append_slash_congr fun passed => ?_
    rw [pieces_name_append (by decide) (by decide), fold_point]
  · have htext : p ++ "/" ++ x ++ "/../" ++ q = p ++ "/" ++ (x ++ "/" ++ (".." ++ "/" ++ q)) := by
      apply String.toList_injective
      simp
    rw [htext]
    refine absolute_append_slash_congr fun passed => ?_
    rw [pieces_name_append hx.ne_empty hx.slash, pieces_name_append (by decide) (by decide),
      fold_name_points hx.ne_point hx.ne_points]
  · exact fun n => absolute_slash_ups n q
  · exact fun n hn hle => absolute_ups hn hle q

theorem absolute_normal_points :
    "../b" ≠ "" ∧ IsOrdinary "..." ∧ (components (absolute "/home/ada" ".")).length ≤ 2 ∧
      absolute "/home/ada" ("../b" ++ "/" ++ "..." ++ "/../" ++ "c") =
        absolute "/home/ada" ("../b" ++ "/" ++ "c") ∧
      absolute "/home/ada" (ups 2 ++ "c") = absolute "/home/ada" ("/" ++ "c") := by
  have hname : IsOrdinary "..." := ⟨⟨by decide, by decide, by decide⟩, by decide⟩
  have hdepth : (components (absolute "/home/ada" ".")).length ≤ 2 := by decide +kernel
  obtain ⟨-, -, -, -, -, -, hback, -, hroot⟩ :=
    absolute_normal "/home/ada" "../b" "c" "..." (by decide) hname
  exact ⟨by decide, hname, hdepth, hback, hroot 2 (by decide) hdepth⟩

end Cadastre.Path
