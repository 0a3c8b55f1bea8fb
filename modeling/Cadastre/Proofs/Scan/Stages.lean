import Cadastre.Proofs.Plan.Replies
import Cadastre.Proofs.Scan.Found
import Cadastre.Proofs.Snapshot.Order

/-!
# How the stages of a scan end

What each stage of a scan asks for, one request after the other, and how it ends by the replies to
them. Nothing is assumed about the replies: a file may be read twice and be answered differently.
The replies of a stage tell, whatever comes after them, where they end and how the stage ended. The
main statement is that a scan is answered stage by stage, and that its snapshot is put together from
the ends of its stages.
-/

namespace Cadastre.Scan

open Plan

variable {replies : List Reply}

/-- Why a stage failed, if it did. -/
def failureOf {α : Type} : Outcome α → Option StageFailure
  | .ok _ => none
  | .error e => some e

/-! ## Stages by their replies -/

/-- The replies to the loading of a registry, and why it failed. -/
inductive LoadsRegistry : ModuleSource → List Reply → Option StageFailure → Prop
  | builtin : LoadsRegistry .builtin [] none
  | inline {registry : Registry} : LoadsRegistry (.inline registry) [] none
  /-- The file cannot be read. -/
  | unread {path message : String} :
    LoadsRegistry (.file path) [⟨.read path, .ok (.error message)⟩] (some (.reading path message))
  /-- The file holds no registry. -/
  | bad {path text : String} {failure : Failure} (htext : Registry.decodeText text = .error failure) :
    LoadsRegistry (.file path) [⟨.read path, .ok (.ok text)⟩] (some (.registry path failure))
  | good {path text : String} {registry : Registry}
    (htext : Registry.decodeText text = .ok registry) :
    LoadsRegistry (.file path) [⟨.read path, .ok (.ok text)⟩] none

/-- The replies to the search of some directories for routers and schema, and the first directory
that has both. -/
inductive SearchesRoot (layout : Layout) : List String → List Reply → Option String → Prop
  | nowhere : SearchesRoot layout [] [] none
  | noRouters {dir : String} {dirs : List String} {replies : List Reply} {root : Option String}
    (hrest : SearchesRoot layout dirs replies root) :
    SearchesRoot layout (dir :: dirs)
      (⟨.probe (Path.join dir layout.routersDir), .ok false⟩ :: replies) root
  | noSchema {dir : String} {dirs : List String} {replies : List Reply} {root : Option String}
    (hrest : SearchesRoot layout dirs replies root) :
    SearchesRoot layout (dir :: dirs)
      (⟨.probe (Path.join dir layout.routersDir), .ok true⟩ ::
        ⟨.probe (Path.join dir layout.schemaFile), .ok false⟩ :: replies) root
  | here {dir : String} {dirs : List String} :
    SearchesRoot layout (dir :: dirs)
      [⟨.probe (Path.join dir layout.routersDir), .ok true⟩,
        ⟨.probe (Path.join dir layout.schemaFile), .ok true⟩] (some dir)

/-- The replies to the reading of files, one after another up to the first that cannot be read, and
why that failed. -/
inductive ReadsInTurn (dir : String) : List String → List Reply → Option StageFailure → Prop
  | done : ReadsInTurn dir [] [] none
  | unread {name message : String} {names : List String} :
    ReadsInTurn dir (name :: names) [⟨.read (Path.join dir name), .ok (.error message)⟩]
      (some (.reading (Path.join dir name) message))
  | read {name text : String} {names : List String} {replies : List Reply}
    {failure : Option StageFailure} (hrest : ReadsInTurn dir names replies failure) :
    ReadsInTurn dir (name :: names) (⟨.read (Path.join dir name), .ok (.ok text)⟩ :: replies) failure

/-- The replies to the reading of the routers in a directory, and why it failed. The names that have
the extension are read in the order of their bytes. -/
inductive ReadsRouters (dir extension : String) : List Reply → Option StageFailure → Prop
  | unlisted {message : String} :
    ReadsRouters dir extension [⟨.list dir, .ok (.error message)⟩] (some (.listing dir message))
  | listed {names sources : List String} {replies : List Reply} {failure : Option StageFailure}
    (hsources : StablySorted id (names.filter (hasExtension extension)) sources)
    (hread : ReadsInTurn dir sources replies failure) :
    ReadsRouters dir extension (⟨.list dir, .ok (.ok names)⟩ :: replies) failure

/-- The replies to the reading of a schema, and why it failed. -/
inductive ReadsSchema (path : String) : List Reply → Option StageFailure → Prop
  | unread {message : String} :
    ReadsSchema path [⟨.read path, .ok (.error message)⟩] (some (.reading path message))
  | read {text : String} : ReadsSchema path [⟨.read path, .ok (.ok text)⟩] none

/-- How the stages of a scan ended. Without a repository there is nothing to say of routers and
schema. -/
structure Ends where
  /-- Why the registry of modules could not be loaded. -/
  modules : Option StageFailure
  /-- The root of the repository. -/
  root : Option String
  /-- Why the routers could not be read. -/
  routers : Option StageFailure
  /-- Why the schema could not be read. -/
  schema : Option StageFailure

/-- The replies to a scan, stage by stage, and how the stages ended. The time is asked for last. -/
inductive Answered (options : Options) : List Reply → Ends → Prop
  | withoutRoot {loaded searched : List Reply} {modules : Option StageFailure} {time : Instant}
    (hload : LoadsRegistry options.modules loaded modules)
    (hsearch : SearchesRoot options.layout
      (candidates options.workingDirectory options.start options.depth) searched none) :
    Answered options (loaded ++ (searched ++ [⟨.now, .ok time⟩])) ⟨modules, none, none, none⟩
  | withRoot {loaded searched listed read : List Reply} {root : String}
    {modules routers schema : Option StageFailure} {time : Instant}
    (hload : LoadsRegistry options.modules loaded modules)
    (hsearch : SearchesRoot options.layout
      (candidates options.workingDirectory options.start options.depth) searched (some root))
    (hrouters : ReadsRouters (Path.join root options.layout.routersDir)
      options.layout.routerExtension listed routers)
    (hschema : ReadsSchema (Path.join root options.layout.schemaFile) read schema) :
    Answered options (loaded ++ (searched ++ (listed ++ (read ++ [⟨.now, .ok time⟩]))))
      ⟨modules, some root, routers, schema⟩

/-! ## What the replies tell -/

/-- The replies of a stage tell, whatever comes after them, where they end and how it ended. -/
def Tells {β : Type} (stage : List Reply → β → Prop) : Prop :=
  ∀ ⦃xs ys more rest a b⦄, stage xs a → stage ys b → xs ++ more = ys ++ rest → a = b ∧ more = rest

theorem loadsRegistry_tells (source : ModuleSource) : Tells (LoadsRegistry source) := by
  intro xs ys more rest a b hxs hys heq
  cases source with
  | builtin | inline =>
    cases hxs
    cases hys
    exact ⟨rfl, heq⟩
  | file path =>
    cases hxs with
    | unread =>
      cases hys with
      | unread =>
        obtain ⟨hanswer, hrest⟩ := Reply.cons_inj heq
        cases hanswer
        exact ⟨rfl, hrest⟩
      | bad | good => cases (Reply.cons_inj heq).1
    | bad htext =>
      cases hys with
      | unread => cases (Reply.cons_inj heq).1
      | bad htext' =>
        obtain ⟨hanswer, hrest⟩ := Reply.cons_inj heq
        cases hanswer
        cases htext.symm.trans htext'
        exact ⟨rfl, hrest⟩
      | good htext' =>
        cases (Reply.cons_inj heq).1
        cases htext.symm.trans htext'
    | good htext =>
      cases hys with
      | unread => cases (Reply.cons_inj heq).1
      | bad htext' =>
        cases (Reply.cons_inj heq).1
        cases htext.symm.trans htext'
      | good => exact ⟨rfl, (Reply.cons_inj heq).2⟩

theorem searchesRoot_tells (layout : Layout) (dirs : List String) :
    Tells (SearchesRoot layout dirs) := by
  intro xs ys more rest a b hxs hys heq
  induction hxs generalizing ys with
  | nowhere =>
    cases hys
    exact ⟨rfl, heq⟩
  | noRouters _ ih =>
    cases hys with
    | noRouters hrest => exact ih hrest (Reply.cons_inj heq).2
    | noSchema | here => cases (Reply.cons_inj heq).1
  | noSchema _ ih =>
    cases hys with
    | noRouters => cases (Reply.cons_inj heq).1
    | noSchema hrest => exact ih hrest (Reply.cons_inj (Reply.cons_inj heq).2).2
    | here => cases (Reply.cons_inj (Reply.cons_inj heq).2).1
  | here =>
    cases hys with
    | noRouters => cases (Reply.cons_inj heq).1
    | noSchema => cases (Reply.cons_inj (Reply.cons_inj heq).2).1
    | here => exact ⟨rfl, (Reply.cons_inj (Reply.cons_inj heq).2).2⟩

theorem readsInTurn_tells (dir : String) (names : List String) :
    Tells (ReadsInTurn dir names) := by
  intro xs ys more rest a b hxs hys heq
  induction hxs generalizing ys with
  | done =>
    cases hys
    exact ⟨rfl, heq⟩
  | unread =>
    cases hys with
    | unread =>
      obtain ⟨hanswer, hrest⟩ := Reply.cons_inj heq
      cases hanswer
      exact ⟨rfl, hrest⟩
    | read => cases (Reply.cons_inj heq).1
  | read _ ih =>
    cases hys with
    | unread => cases (Reply.cons_inj heq).1
    | read hrest => exact ih hrest (Reply.cons_inj heq).2

theorem readsRouters_tells (dir extension : String) : Tells (ReadsRouters dir extension) := by
  intro xs ys more rest a b hxs hys heq
  cases hxs with
  | unlisted =>
    cases hys with
    | unlisted =>
      obtain ⟨hanswer, hrest⟩ := Reply.cons_inj heq
      cases hanswer
      exact ⟨rfl, hrest⟩
    | listed => cases (Reply.cons_inj heq).1
  | listed hsources hread =>
    cases hys with
    | unlisted => cases (Reply.cons_inj heq).1
    | listed hsources' hread' =>
      obtain ⟨hanswer, hrest⟩ := Reply.cons_inj heq
      cases hanswer
      obtain rfl := hsources.unique hsources'
      exact readsInTurn_tells dir _ hread hread' hrest

theorem readsSchema_tells (path : String) : Tells (ReadsSchema path) := by
  intro xs ys more rest a b hxs hys heq
  cases hxs <;> cases hys <;> obtain ⟨hanswer, rfl⟩ := Reply.cons_inj heq <;> cases hanswer <;>
    exact ⟨rfl, rfl⟩

/-- The replies to a scan tell how its stages ended. -/
theorem Answered.unique {options : Options} {ends other : Ends}
    (h : Answered options replies ends) (h' : Answered options replies other) : other = ends := by
  generalize hreplies : replies = xs at h
  cases h with
  | withoutRoot hload hsearch =>
    cases h' with
    | withoutRoot hload' hsearch' =>
      obtain ⟨rfl, hrest⟩ := loadsRegistry_tells _ hload' hload hreplies
      rfl
    | withRoot hload' hsearch' =>
      obtain ⟨rfl, hrest⟩ := loadsRegistry_tells _ hload' hload hreplies
      cases (searchesRoot_tells _ _ hsearch' hsearch hrest).1
  | withRoot hload hsearch hrouters hschema =>
    cases h' with
    | withoutRoot hload' hsearch' =>
      obtain ⟨rfl, hrest⟩ := loadsRegistry_tells _ hload' hload hreplies
      cases (searchesRoot_tells _ _ hsearch' hsearch hrest).1
    | withRoot hload' hsearch' hrouters' hschema' =>
      obtain ⟨rfl, hsearched⟩ := loadsRegistry_tells _ hload' hload hreplies
      obtain ⟨hroot, hlisted⟩ := searchesRoot_tells _ _ hsearch' hsearch hsearched
      cases hroot
      obtain ⟨rfl, hread⟩ := readsRouters_tells _ _ hrouters' hrouters hlisted
      obtain ⟨rfl, -⟩ := readsSchema_tells _ hschema' hschema hread
      rfl

/-! ## The courses of the stages -/

section Course

variable {α : Type}

/-- Whatever a plan does with the log, the other replies are those of its other requests. -/
theorem course_log_bind {entry : Log.Entry} {k : Unit → Plan α} {a : α}
    (h : (Plan.log entry >>= k).Course replies a) :
    ∃ rest, (k ()).Course rest a ∧ Reply.unlogged replies = Reply.unlogged rest := by
  obtain ⟨_, rest, rfl, hrest⟩ := course_request_bind_iff.1 h
  exact ⟨rest, hrest, rfl⟩

/-- A stage that only goes on from what another one gave is asked nothing more, and fails as that one
does. -/
theorem course_onward {β : Type} {stage : Plan (Outcome α)} {k : Outcome α → Plan (Outcome β)}
    {f : α → β} {outcome : Outcome β} (h : (stage >>= k).Course replies outcome)
    (herror : ∀ e, k (.error e) = pure (.error e)) (hok : ∀ a, k (.ok a) = pure (.ok (f a))) :
    ∃ given, stage.Course replies given ∧ failureOf outcome = failureOf given := by
  obtain ⟨given, first, second, hstage, hend, rfl⟩ := course_bind_iff.1 h
  refine ⟨given, ?_⟩
  cases given with
  | error e =>
    rw [herror] at hend
    obtain ⟨rfl, rfl⟩ := course_pure_iff.1 hend
    exact ⟨by rwa [List.append_nil], rfl⟩
  | ok a =>
    rw [hok] at hend
    obtain ⟨rfl, rfl⟩ := course_pure_iff.1 hend
    exact ⟨by rwa [List.append_nil], rfl⟩

theorem modules_course {source : ModuleSource} {outcome : Outcome (List AdminModule)}
    (h : (modules source).Course replies outcome) :
    LoadsRegistry source (Reply.unlogged replies) (failureOf outcome) := by
  obtain ⟨loaded, hregistry, hfailure⟩ := course_onward h (fun _ => rfl) fun _ => rfl
  rw [hfailure]
  cases source with
  | builtin =>
    obtain ⟨rfl, rfl⟩ := course_pure_iff.1 hregistry
    exact .builtin
  | inline r =>
    obtain ⟨rfl, rfl⟩ := course_pure_iff.1 hregistry
    exact .inline
  | file path =>
    obtain ⟨answer, rest, rfl, hanswer⟩ := course_request_bind_iff.1 hregistry
    cases answer with
    | error message =>
      obtain ⟨rfl, rfl⟩ := course_pure_iff.1 hanswer
      exact .unread
    | ok text =>
      dsimp only at hanswer
      cases htext : Registry.decodeText text with
      | error failure =>
        rw [htext] at hanswer
        obtain ⟨rfl, rfl⟩ := course_pure_iff.1 hanswer
        exact .bad htext
      | ok r =>
        rw [htext] at hanswer
        obtain ⟨rfl, rfl⟩ := course_pure_iff.1 hanswer
        exact .good htext

theorem firstRoot?_course {layout : Layout} {dirs : List String} {root : Option String}
    (h : (firstRoot? layout dirs).Course replies root) :
    SearchesRoot layout dirs (Reply.unlogged replies) root := by
  induction dirs generalizing replies with
  | nil =>
    obtain ⟨rfl, rfl⟩ := course_pure_iff.1 h
    exact .nowhere
  | cons dir dirs ih =>
    obtain ⟨found, first, second, hholds, hafter, rfl⟩ := course_bind_iff.1 h
    obtain ⟨rest, hrest, hunlogged⟩ := course_log_bind hafter
    rw [Reply.unlogged_append, hunlogged]
    obtain ⟨there, more, rfl, hmore⟩ := course_request_bind_iff.1 hholds
    cases there with
    | false =>
      obtain ⟨rfl, rfl⟩ := course_pure_iff.1 hmore
      exact .noRouters (ih hrest)
    | true =>
      obtain rfl := course_request_iff.1 hmore
      cases found with
      | false => exact .noSchema (ih hrest)
      | true =>
        obtain ⟨rfl, rfl⟩ := course_pure_iff.1 hrest
        exact .here

theorem readRouters_course {dir folder : String} {names : List String}
    {outcome : Outcome (List Route)} (h : (readRouters dir folder names).Course replies outcome) :
    ReadsInTurn dir names (Reply.unlogged replies) (failureOf outcome) := by
  induction names generalizing replies outcome with
  | nil =>
    obtain ⟨rfl, rfl⟩ := course_pure_iff.1 h
    exact .done
  | cons name names ih =>
    obtain ⟨answer, rest, rfl, hanswer⟩ := course_request_bind_iff.1 h
    cases answer with
    | error message =>
      obtain ⟨rfl, rfl⟩ := course_pure_iff.1 hanswer
      exact .unread
    | ok text =>
      obtain ⟨_, more, rfl, hmore⟩ := course_request_bind_iff.1 hanswer
      obtain ⟨others, hothers, hfailure⟩ := course_onward hmore (fun _ => rfl) fun _ => rfl
      have hrest : ReadsInTurn dir names (Reply.unlogged more) (failureOf others) := ih hothers
      rw [hfailure]
      exact .read hrest

theorem routes_course {root routersDir extension : String} {outcome : Outcome (List Route)}
    (h : (routes root routersDir extension).Course replies outcome) :
    ReadsRouters (Path.join root routersDir) extension (Reply.unlogged replies)
      (failureOf outcome) := by
  obtain ⟨answer, rest, rfl, hanswer⟩ := course_request_bind_iff.1 h
  cases answer with
  | error message =>
    obtain ⟨rfl, rfl⟩ := course_pure_iff.1 hanswer
    exact .unlisted
  | ok names =>
    obtain ⟨found, hfound, hfailure⟩ := course_onward hanswer (fun _ => rfl) fun _ => rfl
    rw [hfailure]
    exact .listed (stablySorted_sortByKey id _) (readRouters_course hfound)

theorem tables_course {root schemaFile : String} {outcome : Outcome (List Table)}
    (h : (tables root schemaFile).Course replies outcome) :
    ReadsSchema (Path.join root schemaFile) (Reply.unlogged replies) (failureOf outcome) := by
  obtain ⟨answer, rest, rfl, hanswer⟩ := course_request_bind_iff.1 h
  cases answer with
  | error message =>
    obtain ⟨rfl, rfl⟩ := course_pure_iff.1 hanswer
    exact .unread
  | ok text =>
    obtain ⟨_, rest, rfl, hend⟩ := course_request_bind_iff.1 hanswer
    obtain ⟨rfl, rfl⟩ := course_pure_iff.1 hend
    exact .read

/-! ## The course of a scan -/

/-- A stage that fails leaves the empty list and its warning, and is asked no more. -/
theorem orWarn_course {source : Stage} {message : String} {stage : Plan (Outcome (List α))}
    {found : List α × List Warning} (h : (orWarn source message stage).Course replies found) :
    ∃ outcome asked, stage.Course asked outcome ∧
      Reply.unlogged replies = Reply.unlogged asked ∧
      found = (entriesOf outcome, failureWarnings source message outcome) := by
  obtain ⟨outcome, asked, more, hstage, hend, rfl⟩ := course_bind_iff.1 h
  refine ⟨outcome, asked, hstage, ?_⟩
  cases outcome with
  | ok entries =>
    obtain ⟨rfl, rfl⟩ := course_pure_iff.1 hend
    exact ⟨by rw [List.append_nil], rfl⟩
  | error e =>
    obtain ⟨_, rest, rfl, hpure⟩ := course_request_bind_iff.1 hend
    obtain ⟨rfl, rfl⟩ := course_pure_iff.1 hpure
    exact ⟨by rw [Reply.unlogged_append]; exact List.append_nil _, rfl⟩

theorem warnIfEmpty_course {source : Stage} {message : String} {entries : List α}
    {warnings : List Warning} (h : (warnIfEmpty source message entries).Course replies warnings) :
    Reply.unlogged replies = [] ∧ warnings = emptyWarnings source message entries := by
  rw [warnIfEmpty] at h
  rw [emptyWarnings]
  split_ifs at h ⊢
  · obtain ⟨_, rest, rfl, hend⟩ := course_request_bind_iff.1 h
    obtain ⟨rfl, rfl⟩ := course_pure_iff.1 hend
    exact ⟨rfl, rfl⟩
  · obtain ⟨rfl, rfl⟩ := course_pure_iff.1 h
    exact ⟨rfl, rfl⟩

end Course

/-- The snapshot that is put together from what the stages gave. -/
inductive Composed (options : Options) : Ends → Snapshot → Prop
  | withoutRoot {modules : Outcome (List AdminModule)} {time : Instant} :
    Composed options ⟨failureOf modules, none, none, none⟩
      ⟨time, [], [], entriesOf modules, moduleWarnings modules ++ [rootWarning options]⟩
  | withRoot {root : String} {modules : Outcome (List AdminModule)} {routes : Outcome (List Route)}
    {tables : Outcome (List Table)} {time : Instant} :
    Composed options ⟨failureOf modules, some root, failureOf routes, failureOf tables⟩
      ⟨time, entriesOf routes, entriesOf tables, entriesOf modules,
        moduleWarnings modules ++ repositoryWarnings options.layout routes tables⟩

/-- In a repository routers and schema are read, and the time is asked for last. -/
theorem withRoot_course {root : String} {layout : Layout} {modules : List AdminModule}
    {warnings : List Warning} {s : Snapshot}
    (h : (withRoot root layout modules warnings).Course replies s) :
    ∃ routes tables listed read time,
      ReadsRouters (Path.join root layout.routersDir) layout.routerExtension listed
        (failureOf routes) ∧
      ReadsSchema (Path.join root layout.schemaFile) read (failureOf tables) ∧
      Reply.unlogged replies = listed ++ (read ++ [⟨.now, .ok time⟩]) ∧
      s = ⟨time, entriesOf routes, entriesOf tables, modules,
        warnings ++ repositoryWarnings layout routes tables⟩ := by
  obtain ⟨inside, hinside, hreplies⟩ := course_log_bind h
  obtain ⟨_, first, _, hfirst, hwith, rfl⟩ := course_bind_iff.1 hinside
  obtain ⟨routes, listed, hroutes, hlisted, rfl⟩ := orWarn_course hfirst
  obtain ⟨_, second, _, hsecond, hread, rfl⟩ := course_bind_iff.1 hwith
  obtain ⟨tables, read, htables, hschema, rfl⟩ := orWarn_course hsecond
  obtain ⟨_, third, _, hthird, hwarned, rfl⟩ := course_bind_iff.1 hread
  obtain ⟨hnoRoutes, rfl⟩ := warnIfEmpty_course hthird
  obtain ⟨_, fourth, _, hfourth, hlast, rfl⟩ := course_bind_iff.1 hwarned
  obtain ⟨hnoTables, rfl⟩ := warnIfEmpty_course hfourth
  obtain ⟨_, hclock, hlogged⟩ := course_log_bind hlast
  obtain ⟨time, _, rfl, hpure⟩ := course_request_bind_iff.1 hclock
  obtain ⟨rfl, rfl⟩ := course_pure_iff.1 hpure
  refine ⟨routes, tables, _, _, time, routes_course hroutes, tables_course htables, ?_, ?_⟩
  · simp only [hreplies, Reply.unlogged_append, hlisted, hschema, hnoRoutes, hnoTables, hlogged,
      List.nil_append]
    rfl
  · simp only [repositoryWarnings, List.append_assoc]

/-- A scan is answered stage by stage, and its snapshot is put together from what they gave. -/
theorem snapshot_course {options : Options} {s : Snapshot}
    (h : (snapshot options).Course replies s) :
    ∃ ends, Answered options (Reply.unlogged replies) ends ∧ Composed options ends s := by
  obtain ⟨_, first, _, hfirst, hloading, rfl⟩ := course_bind_iff.1 h
  obtain ⟨modules, loaded, hmodules, hloaded, rfl⟩ := orWarn_course hfirst
  obtain ⟨root, searched, _, hsearched, hsnapshot, rfl⟩ := course_bind_iff.1 hloading
  have hload := modules_course hmodules
  have hsearch := firstRoot?_course hsearched
  rw [Reply.unlogged_append, Reply.unlogged_append, hloaded]
  cases root with
  | none =>
    obtain ⟨_, hclock, hlogged⟩ := course_log_bind hsnapshot
    obtain ⟨time, _, rfl, hpure⟩ := course_request_bind_iff.1 hclock
    obtain ⟨rfl, rfl⟩ := course_pure_iff.1 hpure
    rw [hlogged]
    exact ⟨_, .withoutRoot hload hsearch, .withoutRoot⟩
  | some root =>
    obtain ⟨routes, tables, listed, read, time, hrouters, hschema, hreplies, rfl⟩ :=
      withRoot_course hsnapshot
    rw [hreplies]
    exact ⟨_, .withRoot hload hsearch hrouters hschema, .withRoot⟩

end Cadastre.Scan
