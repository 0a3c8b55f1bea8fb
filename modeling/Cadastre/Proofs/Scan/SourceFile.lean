import Cadastre.Proofs.Plan.Outcome
import Cadastre.Proofs.Plan.Replies
import Cadastre.Proofs.Scan.Addition

/-!
# The source file of a route

A router is read at a path below the root of the repository, and its routes carry the directory as
it is configured and the name of the file. The two agree, component by component, however the
directory is spelled. The directory that is not spelled at all is the exception: its routers are
read in the root of the repository, and their routes are said to be in the root of the file system.
All of this holds in every world: the text of a file is the one that the scan was answered with, even
if the file is read with another one before or after.
-/

namespace Cadastre

open Plan Scan

variable {dir folder name root routersDir extension : String} {r : Route} {replies : List Reply}

/-! ## Slashes at the end -/

namespace Tree

/-- A slash at the end of a path does not matter, unless the path is empty. -/
theorem steps_append_slash {path : String} (h : path ≠ "") : steps (path ++ "/") = steps path := by
  have hpieces : Path.pieces (path ++ "/") = Path.pieces path := by
    have happend : (path ++ "/").toList = path.toList ++ ['/'] := by simp
    rw [Path.pieces_append_slash happend, String.ofList_toList]
  have habsolute : Path.isAbsolute (path ++ "/") = Path.isAbsolute path := by
    obtain ⟨c, cs, hcs⟩ := List.exists_cons_of_ne_nil (l := path.toList) (by simpa using h)
    rw [Path.isAbsolute, Path.isAbsolute, String.toList_append, hcs]
    rfl
  rw [steps, steps, Path.components_eq, Path.components_eq, habsolute, hpieces]

theorem steps_append_slashes {path : String} (h : path ≠ "") (n : Nat) :
    steps (path ++ String.ofList (List.replicate n '/')) = steps path := by
  induction n with
  | zero => simp
  | succ n ih =>
    have hmore : path ++ String.ofList (List.replicate (n + 1) '/') =
        path ++ String.ofList (List.replicate n '/') ++ "/" := by
      rw [List.replicate_succ']
      apply String.toList_injective
      simp
    have hne : path ++ String.ofList (List.replicate n '/') ≠ "" := by
      intro hempty
      have hlist := congrArg String.toList hempty
      simp only [String.toList_append, String.toList_empty, List.append_eq_nil_iff] at hlist
      exact h (by simpa using hlist.1)
    rw [hmore, steps_append_slash hne, ih]

/-- The empty path put below another one is that path. -/
theorem steps_join_empty (path : String) : steps (Path.join path "") = steps path := by
  rw [Path.join]
  split
  · next h =>
    obtain rfl : path = "" := by simpa [Path.isAbsolute] using h
    rfl
  · next h =>
    split
    · simp
    · have hne : path ≠ "" := by
        rintro rfl
        simp at h
      rw [String.append_empty, steps_append_slash hne]

end Tree

/-! ## The directory in front of a name -/

/-- Without backslashes, a directory is its folder with slashes after it. -/
theorem exists_sourceFolder_append (h : '\\' ∉ routersDir.toList) :
    ∃ n, routersDir = sourceFolder routersDir ++ String.ofList (List.replicate n '/') := by
  have hslashed : routersDir.toList.map (fun c => if c == '\\' then '/' else c) =
      routersDir.toList := by
    refine (List.map_congr_left fun c hc => ?_).trans (List.map_id _)
    have hne : c ≠ '\\' := fun heq => h (heq ▸ hc)
    simp [hne]
  have hall : ∀ c ∈ routersDir.toList.reverse.takeWhile (· == '/'), c = '/' := by
    intro c hc
    simpa using List.mem_takeWhile_imp hc
  have hsplit := congrArg List.reverse
    (List.takeWhile_append_dropWhile (p := (· == '/')) (l := routersDir.toList.reverse))
  rw [List.reverse_append, List.reverse_reverse, List.eq_replicate_of_mem hall,
    List.reverse_replicate] at hsplit
  refine ⟨(routersDir.toList.reverse.takeWhile (· == '/')).length, ?_⟩
  apply String.toList_injective
  rw [sourceFolder, hslashed, String.toList_append, String.toList_ofList, String.toList_ofList]
  exact hsplit.symm

theorem getLast?_sourceFolder (routersDir : String) :
    (sourceFolder routersDir).toList.getLast? ≠ some '/' := by
  rw [sourceFolder, String.toList_ofList, List.getLast?_reverse]
  intro h
  have hstops := List.head?_dropWhile_not (· == '/')
    (routersDir.toList.map fun c => if c == '\\' then '/' else c).reverse
  rw [h] at hstops
  simp at hstops

/-- A name below a folder below a root is that name below the folder of the root. -/
theorem join_folder (hempty : folder ≠ "") (hlast : folder.toList.getLast? ≠ some '/')
    (hname : IsFileName name) :
    Path.join root (folder ++ "/" ++ name) = Path.join (Path.join root folder) name := by
  obtain ⟨c, cs, hcs⟩ := List.exists_cons_of_ne_nil (l := folder.toList) (by simpa using hempty)
  have habsolute : Path.isAbsolute (folder ++ "/" ++ name) = Path.isAbsolute folder := by
    rw [Path.isAbsolute, Path.isAbsolute, String.toList_append, String.toList_append, hcs]
    rfl
  have hrelative := Path.isAbsolute_of_isFileName hname
  -- whatever stands before the folder, the joined path ends as the folder does
  have hjoin : ∀ before : String,
      Path.join (before ++ folder) name = before ++ folder ++ "/" ++ name := by
    intro before
    have hend : (before ++ folder).toList.getLast? ≠ some '/' := by
      rw [String.toList_append, List.getLast?_append_of_ne_nil _ (by simpa using hempty)]
      exact hlast
    have hne : (before ++ folder).isEmpty = false := by
      simpa [← String.toList_eq_nil_iff] using fun _ => hempty
    rw [Path.join, hrelative, hne, if_neg (by simp), if_neg (by simpa using hend)]
  by_cases hfirst : (Path.isAbsolute folder || root.isEmpty) = true
  · have hself := hjoin ""
    rw [String.empty_append] at hself
    rw [Path.join, habsolute, if_pos hfirst]
    rw [Path.join.eq_def root folder, if_pos hfirst, hself]
  · rw [Path.join.eq_def root folder, if_neg hfirst, Path.join, habsolute, if_neg hfirst]
    by_cases hslash : (root.toList.getLast? == some '/') = true
    · rw [if_pos hslash, if_pos hslash, hjoin root, String.append_assoc, String.append_assoc,
        String.append_assoc]
    · rw [if_neg hslash, if_neg hslash, hjoin (root ++ "/")]
      simp only [String.append_assoc]

/-- Slashes after a folder stand after it below a root too. -/
theorem join_append (hempty : folder ≠ "") (slashes : String) :
    Path.join root (folder ++ slashes) = Path.join root folder ++ slashes := by
  obtain ⟨c, cs, hcs⟩ := List.exists_cons_of_ne_nil (l := folder.toList) (by simpa using hempty)
  have habsolute : Path.isAbsolute (folder ++ slashes) = Path.isAbsolute folder := by
    rw [Path.isAbsolute, Path.isAbsolute, String.toList_append, hcs]
    rfl
  rw [Path.join, Path.join, habsolute]
  split_ifs
  · rfl
  · rw [String.append_assoc]
  · simp only [String.append_assoc]

theorem join_ne_empty (hempty : folder ≠ "") : Path.join root folder ≠ "" := by
  rw [Path.join]
  split_ifs
  · exact hempty
  · simp [hempty]
  · simp [hempty]

/-- A name behind a slash is joined to the root of the file system. -/
theorem steps_join_slash (hname : IsFileName name) :
    Tree.steps (Path.join root ("/" ++ name)) = ["/"] ++ [name] := by
  have habsolute : Path.isAbsolute ("/" ++ name) = true := by
    rw [Path.isAbsolute, String.toList_append]
    rfl
  have hjoin : Path.join root ("/" ++ name) = Path.join "/" name := by
    rw [Path.join, habsolute, Bool.true_or, if_pos rfl, Path.join,
      Path.isAbsolute_of_isFileName hname]
    rfl
  rw [hjoin, Tree.steps_join hname]
  rfl

/-- A directory spelled by slashes is the root of the file system. -/
theorem steps_join_slashes (n : Nat) :
    Tree.steps (Path.join root (String.ofList (List.replicate (n + 1) '/'))) = ["/"] := by
  have hsplit : String.ofList (List.replicate (n + 1) '/') =
      "/" ++ String.ofList (List.replicate n '/') := by
    apply String.toList_injective
    simp [List.replicate_succ]
  have hroot : Path.join root "/" = "/" := by
    rw [Path.join, show Path.isAbsolute "/" = true from rfl, Bool.true_or, if_pos rfl]
  rw [hsplit, join_append (by decide), Tree.steps_append_slashes (join_ne_empty (by decide)), hroot]
  rfl

/-- The slashes behind a directory add no component. -/
theorem steps_join_append_slashes {folder : String} (hfolder : folder ≠ "") (n : Nat) :
    Tree.steps (Path.join root (folder ++ String.ofList (List.replicate n '/'))) =
      Tree.steps (Path.join root folder) := by
  rw [join_append hfolder, Tree.steps_append_slashes (join_ne_empty hfolder)]

/-- The name below its folder names the file that is read, unless the folder is the empty path in a
root other than that of the file system. -/
theorem steps_join_sourceFolder (hslash : '\\' ∉ routersDir.toList) (hname : IsFileName name) :
    Tree.steps (Path.join root (sourceFolder routersDir ++ "/" ++ name)) =
        Tree.steps (Path.join (Path.join root routersDir) name) ↔
      routersDir ≠ "" ∨ Tree.steps root = ["/"] := by
  obtain ⟨n, hn⟩ := exists_sourceFolder_append hslash
  rw [Tree.steps_join hname]
  by_cases hfolder : sourceFolder routersDir = ""
  · rw [hfolder, String.empty_append] at hn
    rw [hfolder, String.empty_append, steps_join_slash hname, List.append_left_inj]
    cases n with
    | zero =>
      obtain rfl : routersDir = "" := by simpa using hn
      rw [Tree.steps_join_empty, eq_comm]
      simp
    | succ n =>
      -- only slashes: the routers are in the root of the file system
      have hne : routersDir ≠ "" := by
        rw [hn]
        simp
      rw [hn] at hne ⊢
      exact iff_of_true (steps_join_slashes n).symm (.inl hne)
  · have hsteps : Tree.steps (Path.join root routersDir) =
        Tree.steps (Path.join root (sourceFolder routersDir)) := by
      conv_lhs => rw [hn]
      exact steps_join_append_slashes hfolder n
    have hne : routersDir ≠ "" := by
      intro h
      rw [h] at hn
      rw [h] at hfolder
      exact hfolder (String.append_eq_empty_iff.1 hn.symm).1
    rw [join_folder hfolder (getLast?_sourceFolder routersDir) hname, Tree.steps_join hname, hsteps]
    exact iff_of_true rfl (.inl hne)

/-! ## The files of a scan -/

/-- The routes of some files come from replies to their reading, each from one that holds it. -/
theorem mem_readRouters_course {names : List String} {found : List Route}
    (h : (readRouters dir folder names).Course replies (.ok found)) (hr : r ∈ found) :
    ∃ name ∈ names, ∃ text, ⟨.read (Path.join dir name), .ok (.ok text)⟩ ∈ replies ∧
      r ∈ Router.routes (folder ++ "/" ++ name) text := by
  induction names generalizing replies found with
  | nil =>
    obtain ⟨hfound, -⟩ := course_pure_iff.1 h
    cases hfound
    cases hr
  | cons name names ih =>
    obtain ⟨answer, rest, rfl, hanswer⟩ := course_request_bind_iff.1 h
    cases answer with
    | error message => cases (course_pure_iff.1 hanswer).1
    | ok text =>
      obtain ⟨_, more, rfl, hmore⟩ := course_request_bind_iff.1 hanswer
      obtain ⟨others, first, second, hothers, hend, rfl⟩ := course_bind_iff.1 hmore
      cases others with
      | error e => cases (course_pure_iff.1 hend).1
      | ok routes =>
        obtain ⟨hfound, rfl⟩ := course_pure_iff.1 hend
        obtain rfl := Except.ok.inj hfound
        rcases List.mem_append.1 hr with hr | hr
        · exact ⟨name, List.mem_cons_self, text, List.mem_cons_self, hr⟩
        · obtain ⟨other, hother, text', hread, hroute⟩ := ih hothers hr
          exact ⟨other, List.mem_cons_of_mem _ hother, text', by simp [hread], hroute⟩

/-- The files are among the names that the directory was listed with. -/
theorem mem_routes_course {found : List Route}
    (h : (Scan.routes root routersDir extension).Course replies (.ok found)) (hr : r ∈ found) :
    ∃ names, ⟨.list (Path.join root routersDir), .ok (.ok names)⟩ ∈ replies ∧
      ∃ name ∈ routerNames extension names, ∃ text,
        ⟨.read (Path.join (Path.join root routersDir) name), .ok (.ok text)⟩ ∈ replies ∧
        r ∈ Router.routes (sourceFolder routersDir ++ "/" ++ name) text := by
  obtain ⟨answer, rest, rfl, hanswer⟩ := course_request_bind_iff.1 h
  cases answer with
  | error message => cases (course_pure_iff.1 hanswer).1
  | ok names =>
    obtain ⟨routes, first, second, hroutes, hend, rfl⟩ := course_bind_iff.1 hanswer
    cases routes with
    | error e => cases (course_pure_iff.1 hend).1
    | ok routes =>
      obtain ⟨hfound, rfl⟩ := course_pure_iff.1 hend
      obtain rfl := Except.ok.inj hfound
      have hmem : r ∈ routes := (List.mergeSort_perm routes Route.le).mem_iff.1 hr
      obtain ⟨name, hname, text, hread, hroute⟩ := mem_readRouters_course hroutes hmem
      exact ⟨names, List.mem_cons_self, name, hname, text, by simp [hread], hroute⟩

/-- Every route that is found below a root comes from a file that was read and that holds it as it was
read. Its source file, put below the root, is that file just if the directory of the routers is not
the empty path or the root is that of the file system. The scan ends in every world that answers it. -/
theorem sourceFile_names_read_file {σ : Type} (world : World σ) (root routersDir extension : String)
    (s : σ) (hslash : '\\' ∉ routersDir.toList)
    (hnames : ∀ names, ⟨.list (Path.join root routersDir), .ok (.ok names)⟩ ∈
        received world (Scan.routes root routersDir extension) s →
      ∀ name ∈ names, '/' ∉ name.toList) :
    (∀ found,
      (run world (Scan.routes root routersDir extension) s).outcome = .ok (.ok found) →
      ∀ r ∈ found, ∃ path text,
        ⟨.read path, .ok (.ok text)⟩ ∈ received world (Scan.routes root routersDir extension) s ∧
        r ∈ Router.routes r.sourceFile text ∧
        (Tree.steps (Path.join root r.sourceFile) = Tree.steps path ↔
          routersDir ≠ "" ∨ Tree.steps root = ["/"])) ∧
    (world.Answers Request.Looks →
      ∃ outcome, (run world (Scan.routes root routersDir extension) s).outcome = .ok outcome) := by
  constructor
  · intro found hfound r hr
    obtain ⟨names, hlist, name, hname, text, hread, hroute⟩ :=
      mem_routes_course (course_of_outcome hfound) hr
    have hlisted := (List.mergeSort_perm _ _).mem_iff.1 hname
    obtain ⟨hmem, hext⟩ := List.mem_filter.1 hlisted
    have hfile := isFileName_of_hasExtension hext (hnames names hlist name hmem)
    have hsource := Router.sourceFile_of_mem_routes hroute
    refine ⟨_, text, hread, hsource ▸ hroute, ?_⟩
    rw [hsource]
    exact steps_join_sourceFolder hslash hfile
  · intro hworld
    exact (routes_only root routersDir extension).exists_outcome hworld s

/-- A repository with one router in its root. -/
def routerInRoot : Tree where
  files := [("/r/x.py", .ok "@router.get(\"/p\")\ndef h():\n")]

/-- The router in the root of a repository is found there if the directory is spelled as a point with
slashes after it. -/
theorem sourceFile_names_read_file_point :
    let world := routerInRoot.storage.world Instant.epoch
    '\\' ∉ ".//".toList ∧
    (∀ names, ⟨.list (Path.join "/r" ".//"), .ok (.ok names)⟩ ∈
        received world (Scan.routes "/r" ".//" "py") [] → ∀ name ∈ names, '/' ∉ name.toList) ∧
    ∃ r, (run world (Scan.routes "/r" ".//" "py") []).outcome = .ok (.ok [r]) ∧
      ∃ path text,
        ⟨.read path, .ok (.ok text)⟩ ∈ received world (Scan.routes "/r" ".//" "py") [] ∧
        r ∈ Router.routes r.sourceFile text ∧
        Tree.steps (Path.join "/r" r.sourceFile) = Tree.steps path := by
  intro world
  have hslash : '\\' ∉ ".//".toList := by decide
  have hlist : routerInRoot.storage.list (Path.join "/r" ".//") = .ok ["x.py"] := by
    decide +kernel
  have hnames : ∀ names, ⟨.list (Path.join "/r" ".//"), .ok (.ok names)⟩ ∈
      received world (Scan.routes "/r" ".//" "py") [] → ∀ name ∈ names, '/' ∉ name.toList := by
    intro names hmem
    have hanswer := World.eq_of_mem_replies (fun w => rfl) hmem
    obtain rfl := Except.ok.inj ((Except.ok.inj hanswer).trans hlist)
    decide
  obtain ⟨hfiles, hends⟩ := sourceFile_names_read_file world "/r" ".//" "py" [] hslash hnames
  obtain ⟨outcome, hrun⟩ := hends fun q hq =>
    routerInRoot.storage.world_answers Instant.epoch q (Request.Scans.ne_abort (.inl hq))
  have hfound : (run world (Scan.routes "/r" ".//" "py") []).outcome.toOption.bind
      Except.toOption = some [⟨.get, "/p", 200, .anyone, "./x.py", "h"⟩] := by
    decide +kernel
  rw [hrun] at hfound
  cases outcome with
  | error e => cases hfound
  | ok found =>
    obtain rfl := Option.some.inj hfound
    obtain ⟨path, text, hread, hroute, hsteps⟩ := hfiles _ hrun _ List.mem_cons_self
    exact ⟨hslash, hnames, _, hrun, path, text, hread, hroute, hsteps.2 (.inl (by decide))⟩

/-- With the empty path for a directory, the route of that router is said to be in the root of the
file system, where there is no file. -/
theorem sourceFile_of_empty_directory :
    ∃ r, (run (routerInRoot.storage.world Instant.epoch) (Scan.routes "/r" "" "py") []).outcome =
        .ok (.ok [r]) ∧
      Path.join "/r" r.sourceFile = "/x.py" ∧
      routerInRoot.storage.read (Path.join "/r" r.sourceFile) = .error "no such file" := by
  let layout : Layout := { routersDir := "", routerExtension := "py" }
  let text := "@router.get(\"/p\")\ndef h():\n"
  have hlist : routerInRoot.storage.list (Path.join "/r" layout.routersDir) = .ok ["x.py"] := by
    decide +kernel
  have hread : ∀ n ∈ routerNames layout.routerExtension ["x.py"],
      routerInRoot.storage.routesOfFile (Path.join "/r" layout.routersDir)
        (sourceFolder layout.routersDir) n = .ok (Router.routes "/x.py" text) := by
    intro n hn
    obtain rfl : n = "x.py" := by
      have hnames : routerNames layout.routerExtension ["x.py"] = ["x.py"] := by decide +kernel
      simpa [hnames] using hn
    exact Storage.routesOfFile_eq_ok (by decide +kernel)
  have hfound : Route.sort ((routerNames layout.routerExtension ["x.py"]).flatMap fun _ =>
      Router.routes "/x.py" text) = [⟨.get, "/p", 200, .anyone, "/x.py", "h"⟩] := by
    decide +kernel
  have hgives : routerInRoot.storage.Gives Instant.epoch _ _ := Storage.gives_routes "/r" layout
  obtain ⟨requests, hrun⟩ := hgives []
  refine ⟨⟨.get, "/p", 200, .anyone, "/x.py", "h"⟩, ?_, by decide +kernel, by decide +kernel⟩
  rw [Storage.routes_eq_ok hlist hread, hfound] at hrun
  exact congrArg Plan.Run.outcome hrun

end Cadastre
