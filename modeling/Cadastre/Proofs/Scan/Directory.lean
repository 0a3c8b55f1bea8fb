import Cadastre.Proofs.Plan.Only
import Cadastre.Proofs.Snapshot.Narrowed
import Cadastre.Proofs.Snapshot.Order
import Cadastre.Scan.Stages
import Cadastre.World.Storage
import Mathlib.Data.List.Forall2

/-!
# Scanning a directory

What a scan of a directory gives, and what it asks for, is said by the answers of the storage alone.
The names with the extension are read in the order of their bytes, up to the first file that cannot
be read. If there is none, the routes of the files are put together and sorted, and routes that
agree in all that they are ordered by stand as they stood in their file. The main statement is that
a scan gives and asks for just that.
-/

namespace Cadastre

open Plan Scan

variable {storage : Storage} {time : Instant} {dir folder extension name : String}

/-! ## Outcomes with what was asked for them -/

/-- A plan ends well in a storage and writes nothing, and its outcome and its requests have a
property. -/
def Storage.Traces {α : Type} (storage : Storage) (time : Instant) (p : Plan α)
    (property : α → List Request → Prop) : Prop :=
  ∀ w, ∃ a requests, run (storage.world time) p w = ⟨.ok a, w, requests⟩ ∧ property a requests

namespace Storage

variable {α β : Type} {property : α → List Request → Prop}

theorem traces_pure {a : α} (h : property a []) : storage.Traces time (pure a) property :=
  fun _ => ⟨a, [], rfl, h⟩

theorem traces_read (path : String) :
    storage.Traces time (Plan.read path) fun answer requests =>
      answer = storage.read path ∧ requests = [.read path] :=
  fun _ => ⟨_, _, rfl, rfl, rfl⟩

theorem traces_list (path : String) :
    storage.Traces time (Plan.list path) fun answer requests =>
      answer = storage.list path ∧ requests = [.list path] :=
  fun _ => ⟨_, _, rfl, rfl, rfl⟩

theorem traces_log (entry : Log.Entry) :
    storage.Traces time (Plan.log entry) fun _ requests => requests = [.log entry] :=
  fun _ => ⟨_, _, rfl, rfl⟩

theorem Traces.bind {p : Plan α} {k : α → Plan β} {after : β → List Request → Prop}
    (hp : storage.Traces time p property)
    (hk : ∀ a first, property a first →
      storage.Traces time (k a) fun b second => after b (first ++ second)) :
    storage.Traces time (p >>= k) after := by
  intro w
  obtain ⟨a, first, hrun, hproperty⟩ := hp w
  obtain ⟨b, second, hrest, hafter⟩ := hk a first hproperty w
  exact ⟨b, first ++ second, by rw [run_bind_of_ok hrun, hrest], hafter⟩

end Storage

/-! ## The extension of a name -/

/-- The last component of a path has a text before its last point, and after that point an extension
in any case of ASCII letters. -/
inductive HasFinalExtension (extension path : String) : Prop
  | mk {file : String} {stem last : List Char} (hfile : Path.fileName? path = some file)
    (hpoint : file.toList = stem ++ '.' :: last) (hlast : '.' ∉ last) (hstem : stem ≠ [])
    (hsame : last.map Char.toLower = extension.toList.map Char.toLower)

theorem Text.lastPiece_append {last : List Char} (h : '.' ∉ last) (stem : List Char) :
    Text.lastPiece (· == '.') (stem ++ '.' :: last) = last := by
  have hall : ∀ c ∈ last.reverse, (fun c => !(c == '.')) c = true := by
    intro c hc
    simpa using fun heq : c = '.' => h (heq ▸ List.mem_reverse.1 hc)
  rw [Text.lastPiece, List.reverse_append, List.reverse_cons, List.append_assoc,
    List.takeWhile_append_of_pos hall, List.singleton_append,
    List.takeWhile_cons_of_neg (by decide), List.append_nil, List.reverse_reverse]

theorem Text.exists_append_lastPiece {cs : List Char} (h : '.' ∈ cs) :
    ∃ stem, cs = stem ++ '.' :: Text.lastPiece (· == '.') cs ∧
      '.' ∉ Text.lastPiece (· == '.') cs := by
  -- the last point is the first one of the reversed text
  obtain ⟨last, stem, hcs, hlast⟩ := List.eq_append_cons_of_mem (List.mem_reverse.2 h)
  have hback : cs = stem.reverse ++ '.' :: last.reverse := by
    have hreverse := congrArg List.reverse hcs
    rw [List.reverse_reverse] at hreverse
    rw [hreverse]
    simp
  have hpiece : Text.lastPiece (· == '.') cs = last.reverse := by
    rw [hback]
    exact Text.lastPiece_append (by simpa using hlast) _
  rw [hpiece]
  exact ⟨stem.reverse, hback, by simpa using hlast⟩

theorem Text.take_stem (stem last : List Char) : (stem ++ '.' :: last).take
    ((stem ++ '.' :: last).length - last.length - 1) = stem := by
  have hlength : (stem ++ '.' :: last).length - last.length - 1 = stem.length := by
    rw [List.length_append, List.length_cons]
    omega
  rw [hlength, List.take_left' rfl]

/-- The names that are taken for router sources are those with the extension. -/
theorem hasExtension_iff :
    hasExtension extension name = true ↔ HasFinalExtension extension name := by
  rw [hasExtension, Path.extension?, Option.any_bind]
  constructor
  · intro h
    obtain ⟨file, hfile, h⟩ := (Option.any_eq_true _ _).1 h
    simp only [Function.comp_apply] at h
    split at h
    · next hpoint =>
      rw [Bool.and_eq_true, List.contains_iff_mem] at hpoint
      obtain ⟨stem, hcs, hlast⟩ := Text.exists_append_lastPiece hpoint.1
      have htake := Text.take_stem stem (Text.lastPiece (· == '.') file.toList)
      rw [← hcs] at htake
      rw [htake] at hpoint
      exact ⟨hfile, hcs, hlast, by simpa using hpoint.2, by simpa [Text.sameAsciiWord] using h⟩
    · cases h
  · rintro ⟨hfile, hpoint, hlast, hstem, hsame⟩
    rename_i file stem last
    have hpiece := Text.lastPiece_append hlast stem
    have hfound : ((stem ++ '.' :: last).contains '.' && !stem.isEmpty) = true := by
      simp [hstem]
    refine (Option.any_eq_true _ _).2 ⟨file, hfile, ?_⟩
    rw [Function.comp_apply, hpoint]
    dsimp only
    rw [hpiece, Text.take_stem, if_pos hfound]
    simpa [Text.sameAsciiWord] using hsame

instance : DecidablePred (HasFinalExtension extension) :=
  fun _ => decidable_of_iff _ hasExtension_iff

/-- Only the last point counts, letters may be of any case, and a name may not begin with its only
point. -/
example : HasFinalExtension "py" "users.test.PY" ∧ ¬ HasFinalExtension "py" ".py" := by
  decide +kernel

/-- The names that are read, in the order of their bytes. -/
theorem stablySorted_routerNames_iff {names sources : List String} :
    StablySorted id (names.filter (HasFinalExtension extension ·)) sources ↔
      sources = routerNames extension names := by
  have hsorted : StablySorted id (names.filter (HasFinalExtension extension ·))
      (routerNames extension names) := by
    have hfilter : names.filter (HasFinalExtension extension ·) =
        names.filter (hasExtension extension) :=
      List.filter_congr fun name _ => by rw [Bool.eq_iff_iff, decide_eq_true_iff, hasExtension_iff]
    rw [hfilter]
    exact stablySorted_sortByKey id _
  exact ⟨fun h => h.unique hsorted, fun h => h ▸ hsorted⟩

/-! ## The order of routes -/

/-- Routes in documented order, with those that agree in all that they are ordered by in the order
of a list. -/
structure Route.StablySorted (routes sorted : List Route) : Prop where
  perm : sorted.Perm routes
  ascending : sorted.Pairwise fun a b => ¬ b.Precedes a
  stable : ∀ keys, sorted.filter (·.sortKeys = keys) = routes.filter (·.sortKeys = keys)

theorem Route.stablySorted_sort (routes : List Route) :
    Route.StablySorted routes (Route.sort routes) := by
  refine ⟨List.mergeSort_perm _ _, Route.pairwise_sort routes, fun keys => ?_⟩
  rw [Route.filter_sort]
  refine List.mergeSort_of_pairwise (List.pairwise_of_forall_mem_list fun a ha b hb => ?_)
  have hkeys : a.sortKeys = b.sortKeys := by
    have hka := (List.mem_filter.1 ha).2
    have hkb := (List.mem_filter.1 hb).2
    rw [decide_eq_true_eq] at hka hkb
    rw [hka, hkb]
  have htotal := keysLe_total a.sortKeys b.sortKeys
  rw [hkeys, Bool.or_self] at htotal
  rwa [Route.le, hkeys]

theorem Route.precedes_iff {a b : Route} : a.Precedes b ↔ a.sortKeys < b.sortKeys := by
  have hrel : Text.Precedes = fun x y : String => x < y :=
    funext fun _ => funext fun _ => propext Text.precedes_iff
  rw [Route.Precedes, hrel]
  exact Iff.rfl

theorem Route.StablySorted.unique {routes xs ys : List Route} (hxs : Route.StablySorted routes xs)
    (hys : Route.StablySorted routes ys) : xs = ys := by
  have hle : ∀ {zs}, Route.StablySorted routes zs →
      zs.Pairwise fun a b => a.sortKeys ≤ b.sortKeys := by
    refine fun hzs => hzs.ascending.imp fun hnot => ?_
    rw [Route.precedes_iff] at hnot
    exact not_lt.1 hnot
  exact eq_of_ascending (hxs.perm.trans hys.perm.symm) (hle hxs) (hle hys)
    fun k => (hxs.stable k).trans (hys.stable k).symm

theorem Route.stablySorted_iff {routes sorted : List Route} :
    Route.StablySorted routes sorted ↔ sorted = Route.sort routes :=
  ⟨fun h => h.unique (Route.stablySorted_sort routes), fun h => h ▸ Route.stablySorted_sort routes⟩

/-! ## Reading the files -/

/-- The requests that are no entries of the log. -/
def Request.unlogged (requests : List Request) : List Request :=
  requests.filter fun
    | .log _ => false
    | _ => true

/-- A file of a directory is read and has these routes. -/
def HasRoutes (storage : Storage) (dir folder name : String) (found : List Route) : Prop :=
  ∃ text, storage.read (Path.join dir name) = .ok text ∧
    found = Router.routes (folder ++ "/" ++ name) text

/-- Files of a directory are read one after another, each once: all of them, or those up to the
first that cannot be read. -/
inductive ReadsFiles (storage : Storage) (dir folder : String) (sources : List String) :
    Outcome (List (List Route)) → List Request → Prop
  /-- A file cannot be read, while those before it can. -/
  | unread {before after : List String} {name message : String}
    (hsources : sources = before ++ name :: after)
    (hbefore : ∀ other ∈ before, ∃ text, storage.read (Path.join dir other) = .ok text)
    (hread : storage.read (Path.join dir name) = .error message) :
    ReadsFiles storage dir folder sources (.error (.reading (Path.join dir name) message))
      ((before ++ [name]).map fun file => .read (Path.join dir file))
  /-- All files are read, and their routes are known file by file. -/
  | all {files : List (List Route)}
    (hfiles : List.Forall₂ (HasRoutes storage dir folder) sources files) :
    ReadsFiles storage dir folder sources (.ok files)
      (sources.map fun file => .read (Path.join dir file))

/-- What a scan of a directory gives, and what it asks for. -/
inductive ScansDirectory (storage : Storage) (dir folder extension : String) :
    Outcome (List Route) → List Request → Prop
  /-- The directory cannot be listed. -/
  | unlisted {message : String} (hlist : storage.list dir = .error message) :
    ScansDirectory storage dir folder extension (.error (.listing dir message)) [.list dir]
  /-- A file with the extension cannot be read. -/
  | unread {names sources : List String} {failure : StageFailure} {asked : List Request}
    (hlist : storage.list dir = .ok names)
    (hsources : StablySorted id (names.filter (HasFinalExtension extension ·)) sources)
    (hread : ReadsFiles storage dir folder sources (.error failure) asked) :
    ScansDirectory storage dir folder extension (.error failure) (.list dir :: asked)
  /-- All files with the extension are read, and their routes are sorted. -/
  | all {names sources : List String} {files : List (List Route)} {sorted : List Route}
    {asked : List Request} (hlist : storage.list dir = .ok names)
    (hsources : StablySorted id (names.filter (HasFinalExtension extension ·)) sources)
    (hread : ReadsFiles storage dir folder sources (.ok files) asked)
    (hsorted : Route.StablySorted files.flatten sorted) :
    ScansDirectory storage dir folder extension (.ok sorted) (.list dir :: asked)

section ReadsFiles

variable {names : List String} {given : Outcome (List (List Route))} {asked : List Request}

theorem readsFiles_nil :
    ReadsFiles storage dir folder [] given asked ↔ given = .ok [] ∧ asked = [] := by
  constructor
  · intro h
    cases h with
    | unread hsources => simp at hsources
    | all hfiles =>
      cases hfiles
      exact ⟨rfl, rfl⟩
  · rintro ⟨rfl, rfl⟩
    exact .all .nil

theorem readsFiles_cons_of_error {message : String}
    (h : storage.read (Path.join dir name) = .error message) :
    ReadsFiles storage dir folder (name :: names) given asked ↔
      given = .error (.reading (Path.join dir name) message) ∧
        asked = [.read (Path.join dir name)] := by
  constructor
  · intro hreads
    cases hreads with
    | @unread before after other message' hsources hbefore hread =>
      cases before with
      | nil =>
        obtain ⟨rfl, rfl⟩ := List.cons.inj hsources
        obtain rfl := Except.error.inj (h.symm.trans hread)
        exact ⟨rfl, rfl⟩
      | cons first before =>
        obtain ⟨rfl, -⟩ := List.cons.inj hsources
        obtain ⟨text, htext⟩ := hbefore _ List.mem_cons_self
        exact nomatch h.symm.trans htext
    | all hfiles =>
      obtain ⟨_, _, ⟨text, htext, -⟩, -, -⟩ := List.forall₂_cons_left_iff.1 hfiles
      exact nomatch h.symm.trans htext
  · rintro ⟨rfl, rfl⟩
    have hsplit : name :: names = [] ++ name :: names := rfl
    exact .unread hsplit (fun _ h => nomatch h) h

theorem readsFiles_cons_of_ok {text : String}
    (h : storage.read (Path.join dir name) = .ok text) :
    ReadsFiles storage dir folder (name :: names) given asked ↔
      ∃ rest more, ReadsFiles storage dir folder names rest more ∧
        given = rest.map (Router.routes (folder ++ "/" ++ name) text :: ·) ∧
        asked = .read (Path.join dir name) :: more := by
  constructor
  · intro hreads
    cases hreads with
    | @unread before after other message hsources hbefore hread =>
      cases before with
      | nil =>
        obtain ⟨rfl, -⟩ := List.cons.inj hsources
        exact nomatch h.symm.trans hread
      | cons first before =>
        obtain ⟨rfl, rfl⟩ := List.cons.inj hsources
        exact ⟨_, _, .unread rfl (fun _ hmem => hbefore _ (List.mem_cons_of_mem _ hmem)) hread,
          rfl, rfl⟩
    | all hfiles =>
      obtain ⟨found, files, ⟨text', htext, rfl⟩, hrest, rfl⟩ := List.forall₂_cons_left_iff.1 hfiles
      obtain rfl := Except.ok.inj (h.symm.trans htext)
      exact ⟨_, _, .all hrest, rfl, rfl⟩
  · rintro ⟨rest, more, hrest, rfl, rfl⟩
    cases hrest with
    | @unread before after other message hsources hbefore hread =>
      have hsplit : name :: names = (name :: before) ++ other :: after := by
        rw [hsources, List.cons_append]
      exact .unread hsplit (List.forall_mem_cons.2 ⟨⟨text, h⟩, hbefore⟩) hread
    | all hfiles => exact .all (.cons ⟨text, h, rfl⟩ hfiles)

end ReadsFiles

/-- Reading files gives their routes one file after another, or the failure of the first that cannot
be read. -/
theorem readRouters_readsFiles (names : List String) :
    storage.Traces time (readRouters dir folder names) fun outcome requests =>
      ∃ files, outcome = files.map List.flatten ∧ ∀ given asked,
        ReadsFiles storage dir folder names given asked ↔
          given = files ∧ asked = Request.unlogged requests := by
  induction names with
  | nil => exact Storage.traces_pure ⟨.ok [], rfl, fun _ _ => readsFiles_nil⟩
  | cons name names ih =>
    refine (Storage.traces_read (Path.join dir name)).bind ?_
    rintro answer first ⟨hanswer, rfl⟩
    cases answer with
    | error message =>
      exact Storage.traces_pure ⟨_, rfl, fun _ _ => readsFiles_cons_of_error hanswer.symm⟩
    | ok content =>
      refine (Storage.traces_log _).bind ?_
      rintro - logged rfl
      refine ih.bind fun outcome rest hrest => ?_
      obtain ⟨files, rfl, hfiles⟩ := hrest
      have hreads : ∀ given asked,
          ReadsFiles storage dir folder (name :: names) given asked ↔
            given = files.map (Router.routes (folder ++ "/" ++ name) content :: ·) ∧
              asked = .read (Path.join dir name) :: Request.unlogged rest := by
        intro given asked
        rw [readsFiles_cons_of_ok hanswer.symm]
        simp only [hfiles, and_assoc, exists_and_left, exists_eq_left]
      cases files with
      | error e =>
        refine Storage.traces_pure ⟨.error e, rfl, fun given asked => ?_⟩
        rw [List.append_nil]
        exact hreads given asked
      | ok files =>
        refine Storage.traces_pure ⟨.ok (_ :: files), rfl, fun given asked => ?_⟩
        rw [List.append_nil]
        exact hreads given asked

/-! ## Scanning the directory -/

section ScansDirectory

variable {names : List String} {given : Outcome (List Route)} {asked : List Request}

theorem scansDirectory_of_error {message : String} (h : storage.list dir = .error message) :
    ScansDirectory storage dir folder extension given asked ↔
      given = .error (.listing dir message) ∧ asked = [.list dir] := by
  constructor
  · intro hscans
    cases hscans with
    | unlisted hlist =>
      obtain rfl := Except.error.inj (h.symm.trans hlist)
      exact ⟨rfl, rfl⟩
    | unread hlist | all hlist => exact nomatch h.symm.trans hlist
  · rintro ⟨rfl, rfl⟩
    exact .unlisted h

theorem scansDirectory_of_ok (h : storage.list dir = .ok names) :
    ScansDirectory storage dir folder extension given asked ↔
      ∃ files more, ReadsFiles storage dir folder (routerNames extension names) files more ∧
        given = files.map (fun found => Route.sort found.flatten) ∧ asked = .list dir :: more := by
  constructor
  · intro hscans
    cases hscans with
    | unlisted hlist => exact nomatch h.symm.trans hlist
    | unread hlist hsources hread =>
      obtain rfl := Except.ok.inj (h.symm.trans hlist)
      obtain rfl := stablySorted_routerNames_iff.1 hsources
      exact ⟨_, _, hread, rfl, rfl⟩
    | all hlist hsources hread hsorted =>
      obtain rfl := Except.ok.inj (h.symm.trans hlist)
      obtain rfl := stablySorted_routerNames_iff.1 hsources
      obtain rfl := Route.stablySorted_iff.1 hsorted
      exact ⟨_, _, hread, rfl, rfl⟩
  · rintro ⟨files, more, hread, rfl, rfl⟩
    have hsources := stablySorted_routerNames_iff.2 (Eq.refl (routerNames extension names))
    cases files with
    | error failure => exact .unread h hsources hread
    | ok files => exact .all h hsources hread (Route.stablySorted_sort _)

end ScansDirectory

theorem routes_scansDirectory (root routersDir extension : String) :
    storage.Traces time (Scan.routes root routersDir extension) fun outcome requests =>
      ∀ given asked, ScansDirectory storage (Path.join root routersDir) (sourceFolder routersDir)
        extension given asked ↔ given = outcome ∧ asked = Request.unlogged requests := by
  refine (Storage.traces_list (Path.join root routersDir)).bind ?_
  rintro answer first ⟨hanswer, rfl⟩
  cases answer with
  | error message =>
    exact Storage.traces_pure fun _ _ => scansDirectory_of_error hanswer.symm
  | ok names =>
    refine (readRouters_readsFiles _).bind fun outcome rest hrest => ?_
    obtain ⟨files, rfl, hfiles⟩ := hrest
    have hscans : ∀ given asked,
        ScansDirectory storage (Path.join root routersDir) (sourceFolder routersDir) extension
          given asked ↔ given = files.map (fun found => Route.sort found.flatten) ∧
            asked = .list (Path.join root routersDir) :: Request.unlogged rest := by
      intro given asked
      rw [scansDirectory_of_ok hanswer.symm]
      simp only [hfiles, and_assoc, exists_and_left, exists_eq_left]
    cases files with
    | error e =>
      refine Storage.traces_pure fun given asked => ?_
      rw [List.append_nil]
      exact hscans given asked
    | ok files =>
      refine Storage.traces_pure fun given asked => ?_
      rw [List.append_nil]
      exact hscans given asked

/-- A scan of a directory fails to list it just if it cannot be listed. What a scan gives and asks
for is what the answers of the storage say, and nothing else. -/
theorem directory_scan_exact (storage : Storage) (time : Instant)
    (root routersDir extension : String) (w : Written) :
    ∃ outcome requests,
      run (storage.world time) (Scan.routes root routersDir extension) w =
        ⟨.ok outcome, w, requests⟩ ∧
      ((∃ path message, outcome = .error (.listing path message)) ↔
        ∃ message, storage.list (Path.join root routersDir) = .error message) ∧
      ∀ given asked, ScansDirectory storage (Path.join root routersDir) (sourceFolder routersDir)
        extension given asked ↔ given = outcome ∧ asked = Request.unlogged requests := by
  obtain ⟨outcome, requests, hrun, hscans⟩ := routes_scansDirectory root routersDir extension w
  refine ⟨outcome, requests, hrun, ?_, hscans⟩
  have hself := (hscans outcome _).2 ⟨rfl, rfl⟩
  generalize Request.unlogged requests = asked at hself
  cases hself with
  | unlisted hlist => exact iff_of_true ⟨_, _, rfl⟩ ⟨_, hlist⟩
  | unread hlist hsources hread =>
    refine iff_of_false ?_ fun ⟨_, herror⟩ => nomatch hlist.symm.trans herror
    cases hread
    rintro ⟨_, _, h⟩
    cases h
  | all hlist =>
    refine iff_of_false ?_ fun ⟨_, herror⟩ => nomatch hlist.symm.trans herror
    rintro ⟨_, _, h⟩
    cases h

end Cadastre
