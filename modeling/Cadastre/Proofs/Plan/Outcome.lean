import Cadastre.Proofs.Plan.Only
import Cadastre.World.Storage

/-!
# The outcomes of a plan

A run that ended well went through every part of its plan, each from where the one before it ended,
and its requests are those of the parts in order. What holds of every outcome of a plan, whatever it
is answered, is shown part by part, as the kind of its requests is. A world that answers all requests
of that kind brings the plan to its end.
-/

namespace Cadastre.Plan

variable {α β σ : Type} {world : World σ} {s t u : σ} {requests : List Request}

/-! ## Runs that ended well -/

theorem run_pure_eq_ok_iff {a b : α} :
    run world (pure a) s = ⟨.ok b, t, requests⟩ ↔ b = a ∧ t = s ∧ requests = [] := by
  show Run.mk (.ok a) s [] = _ ↔ _
  constructor
  · intro h
    cases h
    exact ⟨rfl, rfl, rfl⟩
  · rintro ⟨rfl, rfl, rfl⟩
    rfl

theorem run_request_eq_ok_iff {q : Request} {r : q.Answer} :
    run world (request q) s = ⟨.ok r, t, requests⟩ ↔
      world q s = (.ok r, t) ∧ requests = [q] := by
  constructor
  · intro h
    rw [request, run] at h
    rcases hreply : world q s with ⟨message | r', t'⟩
    · rw [hreply] at h
      cases h
    · rw [hreply] at h
      cases h
      exact ⟨rfl, rfl⟩
  · rintro ⟨h, rfl⟩
    exact run_request_of_ok h

/-- A plan and one after it ended well just if the first did and the second did from there. -/
theorem run_bind_eq_ok_iff {p : Plan α} {k : α → Plan β} {b : β} :
    run world (p >>= k) s = ⟨.ok b, u, requests⟩ ↔
      ∃ a t first second, run world p s = ⟨.ok a, t, first⟩ ∧
        run world (k a) t = ⟨.ok b, u, second⟩ ∧ requests = first ++ second := by
  constructor
  · intro h
    have hparts : (run world p s).andThen world k = ⟨.ok b, u, requests⟩ :=
      (run_bind world p k s).symm.trans h
    rcases hfirst : run world p s with ⟨message | a, t, first⟩
    · rw [hfirst, Run.andThen] at hparts
      cases hparts
    · rcases hsecond : run world (k a) t with ⟨outcome, v, second⟩
      rw [hfirst, Run.andThen] at hparts
      dsimp only at hparts
      rw [hsecond] at hparts
      cases hparts
      exact ⟨a, t, first, second, rfl, hsecond, rfl⟩
  · rintro ⟨a, t, first, second, hfirst, hsecond, rfl⟩
    rw [run_bind_of_ok hfirst, hsecond]

theorem exists_run_eq_of_outcome {p : Plan α} {a : α} (h : (run world p s).outcome = .ok a) :
    ∃ t requests, run world p s = ⟨.ok a, t, requests⟩ :=
  ⟨_, _, by rw [← h]⟩

/-! ## Worlds that answer -/

/-- A world that never gives up on a request of one kind. -/
def World.Answers (world : World σ) (allowed : Request → Prop) : Prop :=
  ∀ q, allowed q → ∀ s, ∃ r t, world q s = (.ok r, t)

/-- A plan ends in a world that answers every request which the plan can make. -/
theorem Only.exists_outcome {allowed : Request → Prop} {p : Plan α} (hp : p.Only allowed)
    (hworld : world.Answers allowed) (s : σ) : ∃ a, (run world p s).outcome = .ok a := by
  induction p generalizing s with
  | done a => exact ⟨a, rfl⟩
  | ask q k ih =>
    obtain ⟨r, t, hreply⟩ := hworld q hp.1 s
    obtain ⟨a, hrest⟩ := ih r (hp.2 r) t
    refine ⟨a, ?_⟩
    rw [run, hreply]
    exact hrest

/-! ## What holds of every outcome -/

/-- Whatever the answers are, the outcome of a plan has a property. -/
def Ensures (property : α → Prop) : Plan α → Prop
  | done a => property a
  | ask _ k => ∀ r, (k r).Ensures property

section Ensures

variable {property : α → Prop} {other : β → Prop}

theorem ensures_pure {a : α} (h : property a) : (pure a : Plan α).Ensures property :=
  h

/-- Nothing is known of the answer to a request. -/
theorem ensures_request_bind {q : Request} {k : q.Answer → Plan α}
    (h : ∀ r, (k r).Ensures property) : (request q >>= k).Ensures property :=
  h

theorem ensures_true (p : Plan α) : p.Ensures fun _ => True := by
  induction p with
  | done a => trivial
  | ask q k ih => exact ih

theorem Ensures.bind {p : Plan α} {k : α → Plan β} (hp : p.Ensures property)
    (hk : ∀ a, property a → (k a).Ensures other) : (p >>= k).Ensures other := by
  induction p with
  | done a => exact hk a hp
  | ask q next ih => exact fun r => ih r (hp r)

/-- Every outcome of a run has a property that the plan ensures. -/
theorem Ensures.of_outcome {p : Plan α} (hp : p.Ensures property) {a : α}
    (h : (run world p s).outcome = .ok a) : property a := by
  induction p generalizing s with
  | done b =>
    obtain rfl : b = a := Except.ok.inj h
    exact hp
  | ask q k ih =>
    rw [run] at h
    rcases hreply : world q s with ⟨message | r, t⟩
    · rw [hreply] at h
      cases h
    · rw [hreply] at h
      exact ih r (hp r) h

end Ensures

end Cadastre.Plan

namespace Cadastre

/-- A storage answers everything but giving up. -/
theorem Storage.world_answers (storage : Storage) (time : Instant) :
    (storage.world time).Answers fun q => ∀ message, q ≠ .abort message := by
  intro q hq w
  cases q with
  | write path text =>
    rcases hwrite : storage.write path text with message | written
    · exact ⟨.error message, w, by rw [world, hwrite]⟩
    · exact ⟨.ok (), w ++ [(path, text)], by rw [world, hwrite]⟩
  | abort message => exact (hq message rfl).elim
  | _ => exact ⟨_, _, rfl⟩

end Cadastre
