import Cadastre.Cassette.Replay

/-!
# The order of a reel

The interactions for one question form a queue. Asking that question takes the first of them, and
asking another one leaves the queue as it is.
-/

namespace Cadastre

variable {q other : Question} {i : Interaction} {is left others : List Interaction}

/-! ## Reels -/

/-- The interactions for a question that were not yet handed out. -/
def Reel.queue (r : Reel) (q : Question) : List Interaction :=
  r.left.filter fun i => i.question = q

/-- What is taken is the first of its queue, and only that queue gets shorter. -/
theorem takeFirst_of_filter (h : left.filter (fun i => i.question = q) = i :: is) :
    ∃ others, takeFirst q left = some (i, others) ∧
      others.filter (fun i => i.question = q) = is ∧
      ∀ other, other ≠ q → others.filter (fun i => i.question = other) =
        left.filter (fun i => i.question = other) := by
  induction left with
  | nil => simp at h
  | cons first rest ih =>
    unfold takeFirst
    by_cases hq : first.question = q
    · rw [List.filter_cons_of_pos (by simpa using hq)] at h
      obtain ⟨rfl, rfl⟩ := List.cons.inj h
      refine ⟨rest, if_pos hq, rfl, fun other hother => ?_⟩
      rw [List.filter_cons_of_neg (by simpa [hq] using hother.symm)]
    · rw [List.filter_cons_of_neg (by simpa using hq)] at h
      obtain ⟨others, htake, hsame, hothers⟩ := ih h
      refine ⟨first :: others, by rw [if_neg hq, htake]; rfl, ?_, fun other hother => ?_⟩
      · rw [List.filter_cons_of_neg (by simpa using hq), hsame]
      · rw [List.filter_cons, List.filter_cons, hothers other hother]

/-- A question is answered with the first interaction of its queue; the other queues stay. -/
theorem Reel.next_of_queue {r : Reel} (h : r.queue q = i :: is) :
    ∃ rest : Reel, r.next q = (.ok i, rest) ∧ rest.queue q = is ∧
      ∀ other, other ≠ q → rest.queue other = r.queue other := by
  obtain ⟨others, htake, hsame, hothers⟩ := takeFirst_of_filter h
  refine ⟨{ r with left := others }, ?_, hsame, hothers⟩
  rw [next, htake]

/-! ## Players -/

/-- A player that works and has these answers left for a question, in this order. -/
def Player.Holds (p : Player) (q : Question) (outputs : List Json) : Prop :=
  p.broken = false ∧ (p.reel.queue q).map Interaction.output = outputs

/-- A player gives the first answer that it has left for a question; what it has left for other
questions stays. -/
theorem Player.next_of_holds {p : Player} {output : Json} {outputs : List Json}
    (h : p.Holds q (output :: outputs)) :
    ∃ rest : Player, p.next q = (.ok output, rest) ∧ rest.Holds q outputs ∧
      ∀ other, other ≠ q → ∀ ys, p.Holds other ys → rest.Holds other ys := by
  obtain ⟨hworks, houtputs⟩ := h
  obtain ⟨i, is, hqueue, rfl, rfl⟩ := List.map_eq_cons_iff.1 houtputs
  obtain ⟨reel, hnext, hsame, hothers⟩ := Reel.next_of_queue hqueue
  refine ⟨{ p with reel := reel }, ?_, ⟨hworks, congrArg (List.map _) hsame⟩, ?_⟩
  · rw [next, hworks, hnext]
    rfl
  · intro other hother ys hys
    exact ⟨hworks, by rw [hothers other hother]; exact hys.2⟩

end Cadastre
