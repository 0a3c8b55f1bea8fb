import Cadastre.Proofs.Command.Unchanged
import Cadastre.Proofs.Plan.Outcome
import Cadastre.Proofs.Plan.Replies

/-!
# What a command leaves behind

A command prints and saves last of all, when nothing can fail any more but the saving itself. So one
that fails has printed nothing and saved nothing, and one that ends well has either printed or saved
its result, as it was asked to. The scan in between never writes. All of this holds in every world,
whatever it answers and however its answers change on the way.
-/

namespace Cadastre

namespace Request

/-- Whether a request is to put a text into a file. -/
def Writes : Request → Prop
  | write _ _ => True
  | _ => False

/-- Whether a request is one to the files and directories. -/
def AsksFiles : Request → Prop
  | probe _ | isFile _ | read _ | readStart _ | list _ | write _ _ => True
  | now | log _ | print _ | abort _ => False

theorem Scans.not_writes {q : Request} (h : q.Scans) : ¬ q.Writes := by
  intro hwrites
  rcases h with hlooks | rfl
  · cases q with
    | write path text => exact hlooks
    | _ => exact hwrites
  · exact hwrites

end Request

/-- The reply to a request that has put a text into a file. -/
def Plan.Reply.saved (path text : String) : Plan.Reply :=
  ⟨.write path text, .ok (.ok ())⟩

namespace Command

open Plan (Reply Run World after_requests only_pure only_request run_bind_eq_ok_iff
  run_pure_eq_ok_iff run_request_eq_ok_iff)

variable {σ : Type} {world : World σ} {options : Options} {s u : σ} {requests : List Request}
  {outcome : Except CommandFailure Unit}

/-- A snapshot narrowed by a query, if there is one. -/
def narrowed (query : Option String) (found : Snapshot) : Snapshot :=
  query.elim found found.filter

/-! ## The requests of a command -/

/-- A command never gives up by itself. -/
theorem run_only (options : Options) (command : Command) :
    (run options command).Only fun q => ∀ message, q ≠ .abort message := by
  have hscan : (Scan.snapshot options).Only fun q => ∀ message, q ≠ .abort message :=
    (Scan.snapshot_only options).mono fun q hq => hq.ne_abort
  have htake : ∀ query, (take options query).Only fun q => ∀ message, q ≠ .abort message :=
    fun query => hscan.bind fun found => only_pure _
  cases command with
  | build format query output =>
    refine (htake query).bind fun taken => ?_
    cases output with
    | none => exact (only_request (by simp)).bind fun _ => only_pure _
    | some path =>
      refine (only_request (by simp)).bind fun answer => ?_
      cases answer with
      | error message => exact only_pure _
      | ok => exact (only_request (by simp)).bind fun _ => only_pure _
  | summary query =>
    refine (htake query).bind fun taken => ?_
    exact (only_request (by simp)).bind fun _ => only_pure _
  | diff previous =>
    refine (only_request (by simp)).bind fun answer => ?_
    cases answer with
    | error message => exact only_pure _
    | ok text =>
      dsimp only
      split
      · exact only_pure _
      · refine hscan.bind fun found => ?_
        exact (only_request (by simp)).bind fun _ => only_pure _

/-! ## The courses of the commands -/

/-- A scan that ended well in some state, with the requests that it made. -/
def Scanned (world : World σ) (options : Options) (s : σ) (found : Snapshot) (t : σ)
    (scanned : List Request) : Prop :=
  Plan.run world (Scan.snapshot options) s = ⟨.ok found, t, scanned⟩

theorem Scanned.scans {found : Snapshot} {t : σ} {scanned : List Request}
    (h : Scanned world options s found t scanned) : ∀ q ∈ scanned, q.Scans := by
  intro q hq
  have hrequests : (Plan.run world (Scan.snapshot options) s).requests = scanned :=
    congrArg Run.requests h
  exact (Scan.snapshot_only options).of_mem_requests (hrequests ▸ hq)

theorem Scanned.outcome_eq {found : Snapshot} {t : σ} {scanned : List Request}
    (h : Scanned world options s found t scanned) :
    (Plan.run world (Scan.snapshot options) s).outcome = .ok found :=
  congrArg Run.outcome h

theorem Scanned.after_eq {found : Snapshot} {t : σ} {scanned : List Request}
    (h : Scanned world options s found t scanned) : World.after world scanned s = t := by
  have hstate := after_requests world (Scan.snapshot options) s
  rw [Scanned] at h
  rwa [h] at hstate

/-- A scan whose result is printed writes nothing. -/
theorem Scanned.not_writes {found : Snapshot} {t : σ} {scanned : List Request}
    (h : Scanned world options s found t scanned) (text : String) :
    ∀ q ∈ scanned ++ [.print text], ¬ q.Writes := by
  intro q hq
  rcases List.mem_append.1 hq with hscanned | hprint
  · exact (h.scans q hscanned).not_writes
  · rw [List.mem_singleton.1 hprint]
    exact id

theorem run_take_eq_ok {query : Option String} {taken : Snapshot}
    (h : Plan.run world (take options query) s = ⟨.ok taken, u, requests⟩) :
    ∃ found, Scanned world options s found u requests ∧ taken = narrowed query found := by
  obtain ⟨found, t, scanned, rest, hscan, hpure, rfl⟩ := run_bind_eq_ok_iff.1 h
  obtain ⟨rfl, rfl, rfl⟩ := run_pure_eq_ok_iff.1 hpure
  exact ⟨found, by rwa [List.append_nil], rfl⟩

/-- A plan that prints a text and is done. -/
theorem run_print_eq_ok {text : String}
    (h : Plan.run world (Plan.print text >>= fun _ => pure (.ok ())) s = ⟨.ok outcome, u, requests⟩) :
    outcome = .ok () ∧ requests = [.print text] := by
  obtain ⟨_, _, _, _, hprint, hpure, rfl⟩ := run_bind_eq_ok_iff.1 h
  obtain ⟨-, rfl⟩ := run_request_eq_ok_iff.1 hprint
  obtain ⟨rfl, -, rfl⟩ := run_pure_eq_ok_iff.1 hpure
  exact ⟨rfl, rfl⟩

theorem run_build_printing {format : Format} {query : Option String}
    (h : Plan.run world (runBuild options format query none) s = ⟨.ok outcome, u, requests⟩) :
    ∃ found t scanned, Scanned world options s found t scanned ∧ outcome = .ok () ∧
      requests = scanned ++ [.print ((narrowed query found).render format)] := by
  obtain ⟨taken, t, scanned, rest, htake, hrest, rfl⟩ := run_bind_eq_ok_iff.1 h
  obtain ⟨found, hscan, rfl⟩ := run_take_eq_ok htake
  obtain ⟨houtcome, rfl⟩ := run_print_eq_ok hrest
  exact ⟨found, t, scanned, hscan, houtcome, rfl⟩

/-- A build that is to save writes right after its scan, and fails if and only if that fails. -/
theorem run_build_saving {format : Format} {query : Option String} {path : String}
    (h : Plan.run world (runBuild options format query (some path)) s = ⟨.ok outcome, u, requests⟩) :
    ∃ found t scanned answer v rest, Scanned world options s found t scanned ∧
      world (.write path ((narrowed query found).render format)) t = (.ok answer, v) ∧
      requests = scanned ++ .write path ((narrowed query found).render format) :: rest ∧
      ((∃ message, answer = .error message ∧ outcome = .error (.writing path message) ∧ rest = []) ∨
        ∃ entry, answer = .ok () ∧ outcome = .ok () ∧ rest = [.log entry]) := by
  obtain ⟨taken, t, scanned, rest, htake, hrest, rfl⟩ := run_bind_eq_ok_iff.1 h
  obtain ⟨found, hscan, rfl⟩ := run_take_eq_ok htake
  dsimp only at hrest
  obtain ⟨answer, v, _, rest, hwrite, hend, rfl⟩ := run_bind_eq_ok_iff.1 hrest
  obtain ⟨hanswer, rfl⟩ := run_request_eq_ok_iff.1 hwrite
  refine ⟨found, t, scanned, answer, v, rest, hscan, hanswer, rfl, ?_⟩
  rcases answer with message | _
  · left
    obtain ⟨rfl, -, rfl⟩ := run_pure_eq_ok_iff.1 hend
    exact ⟨message, rfl, rfl, rfl⟩
  · right
    obtain ⟨_, _, _, _, hlog, hpure, rfl⟩ := run_bind_eq_ok_iff.1 hend
    obtain ⟨-, rfl⟩ := run_request_eq_ok_iff.1 hlog
    obtain ⟨rfl, -, rfl⟩ := run_pure_eq_ok_iff.1 hpure
    exact ⟨_, rfl, rfl, rfl⟩

theorem run_summary {query : Option String}
    (h : Plan.run world (runSummary options query) s = ⟨.ok outcome, u, requests⟩) :
    ∃ found t scanned, Scanned world options s found t scanned ∧ outcome = .ok () ∧
      requests = scanned ++ [.print ((narrowed query found).summary ++ "\n")] := by
  obtain ⟨taken, t, scanned, rest, htake, hrest, rfl⟩ := run_bind_eq_ok_iff.1 h
  obtain ⟨found, hscan, rfl⟩ := run_take_eq_ok htake
  obtain ⟨houtcome, rfl⟩ := run_print_eq_ok hrest
  exact ⟨found, t, scanned, hscan, houtcome, rfl⟩

/-- A comparison that fails has asked for the saved snapshot and for nothing else. -/
theorem run_diff {previous : String}
    (h : Plan.run world (runDiff options previous) s = ⟨.ok outcome, u, requests⟩) :
    (∃ failure, outcome = .error failure ∧ requests = [.read previous]) ∨
      ∃ t found v scanned text, Scanned world options t found v scanned ∧ outcome = .ok () ∧
        requests = .read previous :: scanned ++ [.print text] := by
  obtain ⟨answer, t, _, rest, hread, hrest, rfl⟩ := run_bind_eq_ok_iff.1 h
  obtain ⟨-, rfl⟩ := run_request_eq_ok_iff.1 hread
  rcases answer with message | text
  · left
    obtain ⟨rfl, -, rfl⟩ := run_pure_eq_ok_iff.1 hrest
    exact ⟨_, rfl, rfl⟩
  · dsimp only at hrest
    rcases hparsed : parseSaved previous text with failure | old
    · left
      rw [hparsed] at hrest
      obtain ⟨rfl, -, rfl⟩ := run_pure_eq_ok_iff.1 hrest
      exact ⟨_, rfl, rfl⟩
    · right
      rw [hparsed] at hrest
      obtain ⟨found, v, scanned, last, hscan, hprint, rfl⟩ := run_bind_eq_ok_iff.1 hrest
      obtain ⟨houtcome, rfl⟩ := run_print_eq_ok hprint
      exact ⟨t, found, v, scanned, _, hscan, houtcome, rfl⟩

/-! ## Nothing is left behind by a failure -/

/-- Requests that have printed nothing and, as they were answered, saved nothing. -/
def Untouched (world : World σ) (s : σ) (requests : List Request) : Prop :=
  Request.printed requests = "" ∧
    ∀ path text, Reply.saved path text ∉ World.replies world requests s

theorem untouched_of_scans (h : ∀ q ∈ requests, q.Scans) : Untouched world s requests := by
  refine ⟨Request.printed_of_scans h, ?_⟩
  intro path text hsaved
  have hwrite : Request.write path text ∈ requests := World.mem_of_mem_replies hsaved
  exact (h _ hwrite).not_writes trivial

/-- A write that failed, after requests of a scan, has saved nothing either. -/
theorem untouched_of_write_error {scanned : List Request} {t v : σ} {path text message : String}
    (hscans : ∀ q ∈ scanned, q.Scans) (hafter : World.after world scanned s = t)
    (hwrite : world (.write path text) t = (.ok (.error message), v)) :
    Untouched world s (scanned ++ [.write path text]) := by
  constructor
  · rw [Request.printed_append, Request.printed_of_scans hscans]
    rfl
  · intro other saved hsaved
    rw [World.replies_append, hafter] at hsaved
    rcases List.mem_append.1 hsaved with hearlier | hlast
    · exact (untouched_of_scans hscans).2 other saved hearlier
    · have heq : Reply.saved other saved = ⟨.write path text, (world (.write path text) t).1⟩ :=
        List.mem_singleton.1 hlast
      rw [hwrite, Reply.saved] at heq
      cases heq

theorem untouched_of_failure {command : Command} {failure : CommandFailure}
    (h : Plan.run world (run options command) s = ⟨.ok (.error failure), u, requests⟩) :
    Untouched world s requests := by
  cases command with
  | build format query output =>
    cases output with
    | none =>
      obtain ⟨_, _, _, _, hok, _⟩ := run_build_printing h
      cases hok
    | some path =>
      obtain ⟨found, t, scanned, answer, v, rest, hscan, hwrite, rfl, hend⟩ := run_build_saving h
      rcases hend with ⟨message, rfl, -, rfl⟩ | ⟨_, _, hok, _⟩
      · exact untouched_of_write_error hscan.scans hscan.after_eq hwrite
      · cases hok
  | summary query =>
    obtain ⟨_, _, _, _, hok, _⟩ := run_summary h
    cases hok
  | diff previous =>
    rcases run_diff h with ⟨_, _, rfl⟩ | ⟨_, _, _, _, _, _, hok, _⟩
    · exact untouched_of_scans (List.forall_mem_singleton.2 (.inl trivial))
    · cases hok

/-! ## What a command that ends well has done -/

/-- What the requests of a command have done that ended well: a build has printed the snapshot and
written nothing, or has written it once and asked for no file after that, and the other commands have
written nothing. -/
def Carried (world : World σ) (options : Options) (s : σ) (requests : List Request) :
    Command → Prop
  | build format query none =>
    (∃ found, (Plan.run world (Scan.snapshot options) s).outcome = .ok found ∧
      Request.printed requests = (narrowed query found).render format) ∧
    ∀ q ∈ requests, ¬ q.Writes
  | build format query (some path) =>
    Request.printed requests = "" ∧
    ∃ found, (Plan.run world (Scan.snapshot options) s).outcome = .ok found ∧
      Reply.saved path ((narrowed query found).render format) ∈ World.replies world requests s ∧
      ∃ before rest,
        requests = before ++ .write path ((narrowed query found).render format) :: rest ∧
        (∀ q ∈ before, ¬ q.Writes) ∧ ∀ q ∈ rest, ¬ q.AsksFiles
  | summary _ => ∀ q ∈ requests, ¬ q.Writes
  | diff _ => ∀ q ∈ requests, ¬ q.Writes

theorem carried_of_ok {command : Command}
    (h : Plan.run world (run options command) s = ⟨.ok (.ok ()), u, requests⟩) :
    command.Carried world options s requests := by
  cases command with
  | build format query output =>
    cases output with
    | none =>
      obtain ⟨found, t, scanned, hscan, -, rfl⟩ := run_build_printing h
      refine ⟨⟨found, hscan.outcome_eq, ?_⟩, hscan.not_writes _⟩
      rw [Request.printed_append, Request.printed_of_scans hscan.scans]
      simp [Request.printed]
    | some path =>
      obtain ⟨found, t, scanned, answer, v, rest, hscan, hwrite, rfl, hend⟩ := run_build_saving h
      rcases hend with ⟨_, _, hfailed, _⟩ | ⟨entry, rfl, -, rfl⟩
      · cases hfailed
      · refine ⟨?_, found, hscan.outcome_eq, ?_, scanned, [.log entry], rfl, ?_, ?_⟩
        · rw [Request.printed_append, Request.printed_of_scans hscan.scans]
          rfl
        · rw [World.replies_append, hscan.after_eq]
          refine List.mem_append_right _ (List.mem_cons.2 (.inl ?_))
          rw [hwrite, Reply.saved]
        · intro q hq
          exact (hscan.scans q hq).not_writes
        · intro q hq
          rw [List.mem_singleton.1 hq]
          exact id
  | summary query =>
    obtain ⟨found, t, scanned, hscan, -, rfl⟩ := run_summary h
    exact hscan.not_writes _
  | diff previous =>
    rcases run_diff h with ⟨_, hfailed, _⟩ | ⟨t, found, v, scanned, text, hscan, -, rfl⟩
    · cases hfailed
    · intro q hq
      rcases List.mem_cons.1 hq with rfl | hq
      · exact id
      · exact hscan.not_writes text q hq

/-- A command that fails has printed nothing and saved nothing, one that ends well has done what it
was asked for and nothing else, and a scan writes nothing. A command ends in every world that answers
what it is asked. -/
theorem all_or_nothing (world : World σ) (options : Options) (command : Command) (s : σ) :
    (∀ failure, (Plan.run world (run options command) s).outcome = .ok (.error failure) →
      Untouched world s (Plan.run world (run options command) s).requests) ∧
    ((Plan.run world (run options command) s).outcome = .ok (.ok ()) →
      command.Carried world options s (Plan.run world (run options command) s).requests) ∧
    (∀ q ∈ (Plan.run world (Scan.snapshot options) s).requests, ¬ q.Writes) ∧
    ((world.Answers fun q => ∀ message, q ≠ .abort message) →
      ∃ outcome, (Plan.run world (run options command) s).outcome = .ok outcome) := by
  refine ⟨?_, ?_, ?_, ?_⟩
  · intro failure h
    obtain ⟨t, requests, hrun⟩ := Plan.exists_run_eq_of_outcome h
    rw [hrun]
    exact untouched_of_failure hrun
  · intro h
    obtain ⟨t, requests, hrun⟩ := Plan.exists_run_eq_of_outcome h
    rw [hrun]
    exact carried_of_ok hrun
  · intro q hq
    exact ((Scan.snapshot_only options).of_mem_requests hq).not_writes
  · intro hworld
    exact (run_only options command).exists_outcome hworld s

/-- The storage of the sample repository on a disk that takes no more. -/
def fullStorage : Storage where
  probe := sampleTree.storage.probe
  isFile := sampleTree.storage.isFile
  read := sampleTree.storage.read
  list := sampleTree.storage.list
  write _ _ := .error "No space left on device"

/-- A build of the sample repository that cannot be saved leaves nothing, and one that can is saved
as a whole. Its summary ends. -/
theorem all_or_nothing_sample :
    Untouched (fullStorage.world .epoch) []
        (Plan.run (fullStorage.world .epoch)
          (run sampleOptions (.build .json none (some "/r/out.json"))) []).requests ∧
      Carried (sampleTree.storage.world .epoch) sampleOptions []
        (Plan.run (sampleTree.storage.world .epoch)
          (run sampleOptions (.build .json none (some "/r/out.json"))) []).requests
        (.build .json none (some "/r/out.json")) ∧
      ∃ outcome, (Plan.run (sampleTree.storage.world .epoch)
        (run sampleOptions (.summary none)) []).outcome = .ok outcome := by
  refine ⟨?_, ?_, ?_⟩
  · obtain ⟨s, requests, hrun⟩ := Scan.exists_run_snapshot fullStorage sampleOptions
    have hscan := hrun fullStorage (fun q _ => fullStorage.agree_refl q) .epoch []
    exact (all_or_nothing (fullStorage.world .epoch) sampleOptions
      (.build .json none (some "/r/out.json")) []).1 _ (build_of_write_error hscan rfl)
  · obtain ⟨s, requests, hrun⟩ := Scan.exists_run_snapshot sampleTree.storage sampleOptions
    have hscan := hrun sampleTree.storage (fun q _ => Storage.agree_refl _ q) .epoch []
    exact (all_or_nothing (sampleTree.storage.world .epoch) sampleOptions
      (.build .json none (some "/r/out.json")) []).2.1 (build_of_write_ok "/r/out.json" hscan rfl).1
  · exact (all_or_nothing (sampleTree.storage.world .epoch) sampleOptions (.summary none) []).2.2.2
      (sampleTree.storage.world_answers .epoch)

end Command

end Cadastre
