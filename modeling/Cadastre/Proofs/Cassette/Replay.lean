import Cadastre.Proofs.Cassette.Recording
import Cadastre.Proofs.Cassette.Reel
import Cadastre.Proofs.Scan.Looks
import Cadastre.World.Tree

/-!
# Playing what was recorded

A scan that is played from the recording of itself gives what it gave. The players always have left
what the rest of the scan was answered: by each step, the question that is asked loses its first
answer, which is the one that was given.
-/

namespace Cadastre

open Plan

variable {α : Type} {q : Question} {output : Json} {calls : List (Question × Json)} {p : Players}

/-! ## Players that are ready -/

/-- The answers to a question among some calls, in their order. -/
def answersTo (q : Question) (calls : List (Question × Json)) : List Json :=
  (calls.filter fun c => c.1 = q).map Prod.snd

theorem answersTo_cons_self : answersTo q ((q, output) :: calls) = output :: answersTo q calls := by
  simp [answersTo]

theorem answersTo_cons_of_ne {other : Question} (h : other ≠ q) :
    answersTo other ((q, output) :: calls) = answersTo other calls := by
  simp [answersTo, h.symm]

namespace Players

/-- The players have left the answers to some calls that are still to be made; only the clock is
asked for the time. -/
def Ready (calls : List (Question × Json)) (p : Players) : Prop :=
  (∀ q, q ≠ .now → p.files.Holds q (answersTo q calls)) ∧ p.clock.Holds .now (answersTo .now calls)

/-- The players of a cassette are ready for the calls that it records. -/
theorem ready_of_cassette (c : Cassette) :
    c.players.Ready (c.interactions.map fun i => (i.question, i.output)) := by
  have hholds : ∀ q, Player.Holds { reel := c.reel } q
      (answersTo q (c.interactions.map fun i => (i.question, i.output))) := by
    intro q
    refine ⟨rfl, ?_⟩
    simp only [Reel.queue, Cassette.reel, answersTo, List.filter_map, List.map_map]
    rfl
  exact ⟨fun q _ => hholds q, hholds .now⟩

/-- A call about files is answered as it was. -/
theorem fromFiles_of_ready (answer : Json → α) (hq : q ≠ .now)
    (h : p.Ready ((q, output) :: calls)) :
    ∃ rest : Players, p.fromFiles q answer = (.ok (answer output), rest) ∧ rest.Ready calls := by
  obtain ⟨hfiles, hclock⟩ := h
  have hq' := hfiles q hq
  rw [answersTo_cons_self] at hq'
  obtain ⟨player, hnext, hsame, hothers⟩ := Player.next_of_holds hq'
  refine ⟨{ p with files := player }, by rw [fromFiles, hnext], fun other hother => ?_, ?_⟩
  · by_cases heq : other = q
    · rw [heq]
      exact hsame
    · have hheld := hfiles other hother
      rw [answersTo_cons_of_ne heq] at hheld
      exact hothers other heq _ hheld
  · rw [answersTo_cons_of_ne hq.symm] at hclock
    exact hclock

/-- The time is given as it was. -/
theorem fromClock_of_ready {t : Instant} (h : p.Ready ((.now, .text t.text) :: calls)) :
    ∃ rest : Players, p.fromClock = (.ok t, rest) ∧ rest.Ready calls := by
  obtain ⟨hfiles, hclock⟩ := h
  rw [answersTo_cons_self] at hclock
  obtain ⟨player, hnext, hsame, -⟩ := Player.next_of_holds hclock
  refine ⟨{ p with clock := player }, ?_, fun other hother => ?_, hsame⟩
  · rw [fromClock, hnext]
    simp only [recordedTime_text]
  · have hheld := hfiles other hother
    rw [answersTo_cons_of_ne hother] at hheld
    exact hheld

end Players

/-! ## Runs -/

/-- A request that a scan makes is answered by the players as it was by the storage, and they are
ready for what comes after it. -/
theorem exists_players_world (storage : Storage) (time : Instant) {q : Request} (hq : q.Scans)
    {w : Written} {r : q.Answer} (hr : storage.world time q w = (.ok r, w))
    (h : p.Ready ((storage.call? time q).toList ++ calls)) :
    ∃ rest : Players, Players.world q p = (.ok r, rest) ∧ rest.Ready calls := by
  rcases hq with hlooks | rfl
  · cases q with
    | probe path =>
      obtain rfl : storage.probe path = r := Except.ok.inj (Prod.mk.inj hr).1
      have hthere := Players.fromFiles_of_ready Players.wasThere (by decide) h
      rwa [wasThere_bool] at hthere
    | read path =>
      obtain rfl : storage.read path = r := Except.ok.inj (Prod.mk.inj hr).1
      have hread := Players.fromFiles_of_ready wasRead (by decide) h
      rwa [wasRead_recordedResult] at hread
    | list path =>
      obtain rfl : storage.list path = r := Except.ok.inj (Prod.mk.inj hr).1
      have hlisted := Players.fromFiles_of_ready wasListed (by decide) h
      rwa [wasListed_recordedResult] at hlisted
    | log entry => exact ⟨p, rfl, h⟩
    | _ => exact hlooks.elim
  · obtain rfl : time = r := Except.ok.inj (Prod.mk.inj hr).1
    exact Players.fromClock_of_ready h

/-- Players that are ready for the calls of a run give the plan the same outcome. -/
theorem run_players_eq (storage : Storage) (time : Instant) {plan : Plan α}
    (hplan : plan.Only Request.Scans) {w : Written}
    (h : p.Ready ((run (storage.world time) plan w).requests.filterMap (storage.call? time))) :
    (run Players.world plan p).outcome = (run (storage.world time) plan w).outcome := by
  induction plan generalizing p with
  | done a => rfl
  | ask q k ih =>
    obtain ⟨r, hr⟩ := storage.exists_world_of_scans time hplan.1
    have hrun : run (storage.world time) (ask q k) w =
        { run (storage.world time) (k r) w with
          requests := q :: (run (storage.world time) (k r) w).requests } := by
      rw [run, hr w]
    have hcalls : ∀ requests : List Request, (q :: requests).filterMap (storage.call? time) =
        (storage.call? time q).toList ++ requests.filterMap (storage.call? time) := by
      intro requests
      rw [List.filterMap_cons]
      cases storage.call? time q <;> rfl
    rw [hrun, hcalls] at h
    obtain ⟨rest, hanswer, hrest⟩ := exists_players_world storage time hplan.1 (hr w) h
    rw [hrun, run, hanswer]
    exact ih r (hplan.2 r) hrest

/-! ## The scan -/

/-- A scan that is played from a recording of what it was answered takes the same snapshot, and
no player runs out of answers. -/
theorem replay_snapshot (storage : Storage) (time : Instant) (options : Options) (w : Written)
    (c : Cassette)
    (hc : c.Records storage time
      (run (storage.world time) (Scan.snapshot options) w).requests) :
    ∃ s, (run (storage.world time) (Scan.snapshot options) w).outcome = .ok s ∧
      (run Players.world (Scan.snapshot options) c.players).outcome = .ok s := by
  obtain ⟨s, requests, hrun⟩ := Scan.exists_run_snapshot storage options
  have hscan := hrun storage (fun q _ => storage.agree_refl q) time w
  refine ⟨{ s with generatedAt := time }, congrArg Run.outcome hscan, ?_⟩
  have hready := Players.ready_of_cassette c
  rw [hc] at hready
  rw [run_players_eq storage time (Scan.snapshot_only options) hready]
  exact congrArg Run.outcome hscan

/-- A recorded scan of a repository whose schema cannot be read. -/
theorem replay_snapshot_unreadable :
    let tree : Tree :=
      { files := [("/r/a/x.py", .ok "@router.get(\"/p\")\ndef h():\n"), ("/r/s.sql", .error "denied")] }
    let options : Options :=
      { workingDirectory := "/", start := "/r", layout := { routersDir := "a", schemaFile := "s.sql" } }
    let scanned := run (tree.storage.world Instant.epoch) (Scan.snapshot options) []
    let c := tree.storage.recording Instant.epoch scanned.requests
    ∃ s, scanned.outcome = .ok s ∧ (run Players.world (Scan.snapshot options) c.players).outcome = .ok s :=
  replay_snapshot _ _ _ _ _ (Storage.recording_records _ _ _)

end Cadastre
