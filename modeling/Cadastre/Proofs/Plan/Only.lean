import Cadastre.Plan

/-!
# The requests that a plan can make

A plan may be known to make requests of one kind only, whatever it is answered. This is shown part by
part along the way the plan is written, and then holds of every run. A run of one plan after another
is put together from their runs in the same way.
-/

namespace Cadastre.Plan

variable {α β : Type} {allowed : Request → Prop}

instance : LawfulMonad Plan :=
  LawfulMonad.mk' Plan bind_done done_bind bind_assoc

/-- Whatever the answers are, a plan makes requests of one kind only. -/
def Only (allowed : Request → Prop) : Plan α → Prop
  | done _ => True
  | ask q k => allowed q ∧ ∀ r, (k r).Only allowed

theorem only_pure (a : α) : (pure a : Plan α).Only allowed :=
  trivial

theorem only_request {q : Request} (h : allowed q) : (request q).Only allowed :=
  ⟨h, fun _ => trivial⟩

theorem Only.bind {p : Plan α} {k : α → Plan β} (hp : p.Only allowed)
    (hk : ∀ a, (k a).Only allowed) : (p >>= k).Only allowed := by
  induction p with
  | done a => exact hk a
  | ask q next ih => exact ⟨hp.1, fun r => ih r (hp.2 r)⟩

theorem Only.mono {other : Request → Prop} (h : ∀ q, allowed q → other q) {p : Plan α}
    (hp : p.Only allowed) : p.Only other := by
  induction p with
  | done a => trivial
  | ask q k ih => exact ⟨h q hp.1, fun r => ih r (hp.2 r)⟩

/-- Every run of a plan makes only requests of the kind that the plan is bound to. -/
theorem Only.of_mem_requests {σ : Type} {world : World σ} {p : Plan α} (hp : p.Only allowed)
    {s : σ} {q : Request} (hq : q ∈ (run world p s).requests) : allowed q := by
  induction p generalizing s with
  | done a => simp [run] at hq
  | ask q' k ih =>
    rw [run] at hq
    split at hq
    · rcases List.mem_cons.1 hq with rfl | hq
      · exact hp.1
      · exact ih _ (hp.2 _) hq
    · rw [List.mem_singleton.1 hq]
      exact hp.1

theorem run_request_of_ok {σ : Type} {world : World σ} {q : Request} {r : q.Answer} {s t : σ}
    (h : world q s = (.ok r, t)) : run world (request q) s = ⟨.ok r, t, [q]⟩ := by
  rw [request, run, h]
  rfl

/-- A plan after one that ended well runs on from where that one ended. -/
theorem run_bind_of_ok {σ : Type} {world : World σ} {p : Plan α} {k : α → Plan β} {s t : σ} {a : α}
    {requests : List Request} (h : run world p s = ⟨.ok a, t, requests⟩) :
    run world (p >>= k) s =
      { run world (k a) t with requests := requests ++ (run world (k a) t).requests } := by
  show run world (p.bind k) s = _
  rw [run_bind, h]
  rfl

end Cadastre.Plan

namespace Cadastre.Request

/-- Whether a request looks at files and directories or writes a log, and does nothing else. -/
def Looks : Request → Prop
  | probe _ => True
  | read _ => True
  | list _ => True
  | log _ => True
  | _ => False

/-- Whether a request is one that a scan makes: it only looks, or asks for the time. -/
def Scans (q : Request) : Prop := q.Looks ∨ q = .now

theorem Scans.ne_abort {q : Request} (h : q.Scans) (message : String) : q ≠ .abort message := by
  rintro rfl
  rcases h with hlooks | hnow
  · exact hlooks
  · cases hnow

theorem printed_append (qs rs : List Request) : printed (qs ++ rs) = printed qs ++ printed rs := by
  simp [printed, List.filterMap_append]

/-- The requests of a scan print nothing. -/
theorem printed_of_scans {requests : List Request} (h : ∀ q ∈ requests, q.Scans) :
    printed requests = "" := by
  rw [printed, List.filterMap_eq_nil_iff.2]
  · rfl
  · intro q hq
    rcases h q hq with hlooks | rfl
    · cases q <;> first | rfl | exact hlooks.elim
    · rfl

end Cadastre.Request
