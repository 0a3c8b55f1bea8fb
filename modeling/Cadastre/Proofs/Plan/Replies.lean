import Cadastre.Proofs.Plan.Only
import Mathlib.Data.List.Basic

/-!
# Replies to requests in sequence

Requests can be made of a world one after the other without a plan. A world that gives up on one of
them is asked the next one all the same, in the state that it is left in. The requests that a plan
has made get the replies on which the plan went on, so they tell what a run has done to the world.
What the outcome of a plan says about its replies can be shown without a world: along the courses
that a plan can take, part by part.
-/

namespace Cadastre.Plan

/-- A request with the answer to it, or with the reason for which the world gave up on it. -/
abbrev Reply := (q : Request) × Except String q.Answer

namespace World

variable {σ : Type} {world : World σ} {s : σ}

/-- The state of a world after some requests. -/
def after (world : World σ) (qs : List Request) (s : σ) : σ :=
  qs.foldl (fun s q => (world q s).2) s

/-- The replies of a world to some requests. -/
def replies (world : World σ) : List Request → σ → List Reply
  | [], _ => []
  | q :: qs, s => ⟨q, (world q s).1⟩ :: replies world qs (world q s).2

theorem after_cons (q : Request) (qs : List Request) :
    after world (q :: qs) s = after world qs (world q s).2 :=
  rfl

theorem after_append (qs more : List Request) :
    after world (qs ++ more) s = after world more (after world qs s) :=
  List.foldl_append

theorem replies_append (qs more : List Request) :
    replies world (qs ++ more) s =
      replies world qs s ++ replies world more (after world qs s) := by
  induction qs generalizing s with
  | nil => rfl
  | cons q qs ih =>
    rw [List.cons_append, replies, replies, ih, after_cons]
    rfl

theorem map_fst_replies (qs : List Request) : (replies world qs s).map Sigma.fst = qs := by
  induction qs generalizing s with
  | nil => rfl
  | cons q qs ih => rw [replies, List.map_cons, ih]

theorem mem_of_mem_replies {qs : List Request} {reply : Reply} (h : reply ∈ replies world qs s) :
    reply.1 ∈ qs := by
  have hmem : reply.1 ∈ (replies world qs s).map Sigma.fst := List.mem_map_of_mem h
  rwa [map_fst_replies] at hmem

/-- A request that is answered alike in every state has one answer among the replies. -/
theorem eq_of_mem_replies {q : Request} {r r' : Except String q.Answer}
    (h : ∀ s, (world q s).1 = r) {qs : List Request} (hmem : ⟨q, r'⟩ ∈ replies world qs s) :
    r' = r := by
  induction qs generalizing s with
  | nil => cases hmem
  | cons first qs ih =>
    rcases List.mem_cons.1 hmem with hfirst | hrest
    · cases hfirst
      exact h s
    · exact ih hrest

/-- Each request gets the reply of the world as the requests before it have left it. -/
theorem replies_getElem? {qs : List Request} {n : Nat} {q : Request} (h : qs[n]? = some q) :
    (replies world qs s)[n]? = some ⟨q, (world q (after world (qs.take n) s)).1⟩ := by
  induction qs generalizing s n with
  | nil => cases h
  | cons first qs ih =>
    cases n with
    | zero =>
      obtain rfl := Option.some.inj h
      rfl
    | succ n => exact ih h

end World

/-! ## Replies to a plan -/

/-- The requests of a run bring the world where the run has brought it. -/
theorem after_requests {σ α : Type} (world : World σ) (p : Plan α) (s : σ) :
    World.after world (run world p s).requests s = (run world p s).state := by
  induction p generalizing s with
  | done a => rfl
  | ask q k ih =>
    rw [run]
    rcases hreply : world q s with ⟨message | r, t⟩
    · show (world q s).2 = t
      rw [hreply]
    · show World.after world (run world (k r) t).requests (world q s).2 = _
      rw [hreply]
      exact ih r t

/-- The replies that a plan gets in its run. -/
def received {σ α : Type} (world : World σ) (p : Plan α) (s : σ) : List Reply :=
  World.replies world (run world p s).requests s

/-- The replies that bring a plan to an outcome, in order. -/
inductive Course {α : Type} : Plan α → List Reply → α → Prop
  /-- Nothing is left to ask. -/
  | done (a : α) : Course (.done a) [] a
  /-- A request is answered, and the plan goes on with the answer. -/
  | ask {q : Request} {k : q.Answer → Plan α} {r : q.Answer} {replies : List Reply} {a : α}
    (h : Course (k r) replies a) : Course (.ask q k) (⟨q, .ok r⟩ :: replies) a

section Course

variable {α β σ : Type} {replies : List Reply}

theorem course_pure_iff {a b : α} : (pure a : Plan α).Course replies b ↔ b = a ∧ replies = [] := by
  constructor
  · intro h
    cases h
    exact ⟨rfl, rfl⟩
  · rintro ⟨rfl, rfl⟩
    exact .done b

theorem course_request_iff {q : Request} {r : q.Answer} :
    (request q).Course replies r ↔ replies = [⟨q, .ok r⟩] := by
  constructor
  · intro h
    cases h with
    | ask h =>
      cases h
      rfl
  · rintro rfl
    exact .ask (.done r)

theorem course_request_bind_iff {q : Request} {k : q.Answer → Plan β} {b : β} :
    (request q >>= k).Course replies b ↔
      ∃ r rest, replies = ⟨q, .ok r⟩ :: rest ∧ (k r).Course rest b := by
  constructor
  · intro h
    cases h with
    | ask h => exact ⟨_, _, rfl, h⟩
  · rintro ⟨r, rest, rfl, h⟩
    exact .ask h

/-- The course of one plan and another after it is a course of the first and one of the second. -/
theorem course_bind_iff {p : Plan α} {k : α → Plan β} {b : β} :
    (p >>= k).Course replies b ↔
      ∃ a first second, p.Course first a ∧ (k a).Course second b ∧ replies = first ++ second := by
  constructor
  · intro h
    induction p generalizing replies with
    | done a => exact ⟨a, [], replies, .done a, h, rfl⟩
    | ask q next ih =>
      cases h with
      | ask h =>
        obtain ⟨a, first, second, hfirst, hsecond, rfl⟩ := ih _ h
        exact ⟨a, _, second, .ask hfirst, hsecond, rfl⟩
  · rintro ⟨a, first, second, hfirst, hsecond, rfl⟩
    induction hfirst with
    | done a => exact hsecond
    | ask _ ih => exact .ask (ih hsecond)

/-- A run that ended well was a course of its plan. -/
theorem course_of_outcome {world : World σ} {p : Plan α} {s : σ} {a : α}
    (h : (run world p s).outcome = .ok a) : p.Course (received world p s) a := by
  rw [received]
  induction p generalizing s with
  | done b =>
    obtain rfl : b = a := Except.ok.inj h
    exact .done b
  | ask q k ih =>
    rw [run] at h ⊢
    rcases hreply : world q s with ⟨message | r, t⟩
    · rw [hreply] at h
      cases h
    · rw [hreply] at h
      rw [World.replies, hreply]
      exact .ask (ih r h)

end Course

/-- One request with two answers in front is answered alike. -/
theorem Reply.cons_inj {q : Request} {r r' : q.Answer} {xs ys : List Reply}
    (h : (⟨q, .ok r⟩ : Reply) :: xs = ⟨q, .ok r'⟩ :: ys) : r = r' ∧ xs = ys := by
  obtain ⟨hreply, hrest⟩ := List.cons.inj h
  exact ⟨Except.ok.inj (eq_of_heq (Sigma.mk.inj hreply).2), hrest⟩

/-- The replies that are not to entries of the log. -/
def Reply.unlogged (replies : List Reply) : List Reply :=
  replies.filter fun
    | ⟨.log _, _⟩ => false
    | _ => true

theorem Reply.unlogged_append (xs ys : List Reply) :
    unlogged (xs ++ ys) = unlogged xs ++ unlogged ys :=
  List.filter_append xs ys

end Cadastre.Plan
