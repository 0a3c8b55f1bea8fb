import Cadastre.Proofs.Cassette.Reel
import Cadastre.Proofs.Snapshot.Order

/-!
# The order in which a cassette answers

However the calls for different questions are mixed, the k-th call for one of them is answered with
the k-th interaction that was recorded for it. A call for which nothing is left is refused, and the
reel stays as it is.
-/

namespace Cadastre

variable {r rest : Reel} {q : Question} {qs : List Question} {i : Interaction}

/-! ## One call -/

/-- Why a reel refuses a question that it has no interaction left for. -/
def Reel.refusal (r : Reel) (q : Question) : Exhausted :=
  if q ∈ r.recorded then .consumed q else .unrecorded q r.recorded

theorem takeFirst_eq_none {left : List Interaction}
    (h : left.filter (fun i => i.question = q) = []) : takeFirst q left = none := by
  induction left with
  | nil => rfl
  | cons first others ih =>
    by_cases hq : first.question = q
    · rw [List.filter_cons_of_pos (by simpa using hq)] at h
      cases h
    · rw [List.filter_cons_of_neg (by simpa using hq)] at h
      rw [takeFirst, if_neg hq, ih h]
      rfl

theorem perm_of_takeFirst {left others : List Interaction}
    (h : takeFirst q left = some (i, others)) : (i :: others).Perm left := by
  induction left generalizing others with
  | nil => cases h
  | cons first left ih =>
    unfold takeFirst at h
    by_cases hq : first.question = q
    · rw [if_pos hq] at h
      obtain ⟨rfl, rfl⟩ := Prod.mk.inj (Option.some.inj h)
      exact List.Perm.refl _
    · rw [if_neg hq, Option.map_eq_some_iff] at h
      obtain ⟨⟨found, kept⟩, htake, heq⟩ := h
      obtain ⟨rfl, rfl⟩ := Prod.mk.inj heq
      exact (List.Perm.swap first found kept).trans ((ih htake).cons first)

/-- A call takes the first interaction of its queue and leaves the other queues, or it finds its
queue empty and changes nothing. -/
theorem Reel.next_cases (r : Reel) (q : Question) :
    (∃ i is rest, r.queue q = i :: is ∧ r.next q = (.ok i, rest) ∧ rest.recorded = r.recorded ∧
      rest.queue q = is ∧ (∀ other, other ≠ q → rest.queue other = r.queue other) ∧
      (i :: rest.left).Perm r.left) ∨
    (r.queue q = [] ∧ r.next q = (.error (r.refusal q), r)) := by
  rcases hqueue : r.queue q with - | ⟨i, is⟩
  · right
    refine ⟨rfl, ?_⟩
    rw [next, takeFirst_eq_none hqueue, refusal]
    by_cases hrecorded : q ∈ r.recorded
    · simp [hrecorded]
    · simp [hrecorded]
  · left
    obtain ⟨others, htake, hsame, hothers⟩ := takeFirst_of_filter hqueue
    refine ⟨i, is, { r with left := others }, rfl, ?_, rfl, hsame, hothers, perm_of_takeFirst htake⟩
    rw [next, htake]

theorem Reel.recorded_next (r : Reel) (q : Question) : (r.next q).2.recorded = r.recorded := by
  rcases r.next_cases q with ⟨i, is, rest, -, hnext, hrecorded, -⟩ | ⟨-, hnext⟩
  · rw [hnext, hrecorded]
  · rw [hnext]

/-- The queue of a question is without its first entry after a call for that question. -/
theorem Reel.queue_next (r : Reel) (q other : Question) :
    (r.next q).2.queue other = (r.queue other).drop ([q].count other) := by
  rcases r.next_cases q with ⟨i, is, rest, hqueue, hnext, -, hsame, hothers, -⟩ | ⟨hqueue, hnext⟩
  · rw [hnext]
    by_cases hother : other = q
    · subst hother
      rw [hsame, hqueue, List.count_singleton_self]
      rfl
    · rw [hothers other hother, List.count_eq_zero.2 (by simpa using hother)]
      rfl
  · rw [hnext]
    by_cases hother : other = q
    · subst hother
      rw [hqueue, List.drop_nil]
    · rw [List.count_eq_zero.2 (by simpa using hother)]
      rfl

theorem Reel.next_fst (r : Reel) (q : Question) :
    (r.next q).1 = match (r.queue q).head? with
      | some i => .ok i
      | none => .error (r.refusal q) := by
  rcases r.next_cases q with ⟨i, is, rest, hqueue, hnext, -⟩ | ⟨hqueue, hnext⟩
  · rw [hnext, hqueue]
    rfl
  · rw [hnext, hqueue]
    rfl

/-! ## Calls in sequence -/

/-- The answers to calls in sequence, and the reel after them. -/
def Reel.play (r : Reel) : List Question → List (Except Exhausted Interaction) × Reel
  | [] => ([], r)
  | q :: qs => (((r.next q).1 :: ((r.next q).2.play qs).1), ((r.next q).2.play qs).2)

/-- The interactions among some answers. -/
def served (answers : List (Except Exhausted Interaction)) : List Interaction :=
  answers.filterMap Except.toOption

/-- The interactions of a cassette that a question was recorded for, in their order. -/
def Cassette.recordedFor (c : Cassette) (q : Question) : List Interaction :=
  c.interactions.filter fun i => i.question = q

theorem Reel.length_play (r : Reel) (qs : List Question) : (r.play qs).1.length = qs.length := by
  induction qs generalizing r with
  | nil => rfl
  | cons q qs ih => rw [play, List.length_cons, List.length_cons, ih]

theorem Reel.play_append (r : Reel) (qs more : List Question) :
    r.play (qs ++ more) =
      ((r.play qs).1 ++ ((r.play qs).2.play more).1, ((r.play qs).2.play more).2) := by
  induction qs generalizing r with
  | nil => rfl
  | cons q qs ih =>
    rw [List.cons_append, play, ih, play]
    rfl

theorem Reel.recorded_play (r : Reel) (qs : List Question) :
    (r.play qs).2.recorded = r.recorded := by
  induction qs generalizing r with
  | nil => rfl
  | cons q qs ih => rw [play, ih, recorded_next]

/-- What is left for a question is what its calls have not taken. -/
theorem Reel.queue_play (r : Reel) (qs : List Question) (q : Question) :
    (r.play qs).2.queue q = (r.queue q).drop (qs.count q) := by
  induction qs generalizing r with
  | nil => rfl
  | cons first qs ih =>
    have hcount : (first :: qs).count q = [first].count q + qs.count q := by
      rw [← List.count_append, List.singleton_append]
    rw [play, ih, queue_next, List.drop_drop, hcount]

/-- Each call is answered by the reel as the calls before it have left it. -/
theorem Reel.play_getElem? {n : Nat} (h : qs[n]? = some q) :
    (r.play qs).1[n]? = some ((r.play (qs.take n)).2.next q).1 ∧
      (r.play (qs.take (n + 1))).2 = ((r.play (qs.take n)).2.next q).2 := by
  obtain ⟨hn, hq⟩ := List.getElem?_eq_some_iff.1 h
  have hsplit : qs = qs.take n ++ q :: qs.drop (n + 1) := by
    rw [← hq, ← List.drop_eq_getElem_cons hn, List.take_append_drop]
  have hlength : (r.play (qs.take n)).1.length = n := by
    rw [length_play, List.length_take, Nat.min_eq_left hn.le]
  constructor
  · have hplay : r.play qs = r.play (qs.take n ++ q :: qs.drop (n + 1)) := congrArg _ hsplit
    rw [hplay, play_append, List.getElem?_append_right hlength.le, hlength, Nat.sub_self]
    rfl
  · rw [List.take_add_one, h, play_append]
    rfl

/-- What was handed out for a question is the beginning of its queue. -/
theorem Reel.served_play (r : Reel) (qs : List Question) (q : Question) :
    (served (r.play qs).1).filter (fun i => i.question = q) = (r.queue q).take (qs.count q) := by
  induction qs generalizing r with
  | nil => rw [List.count_nil, List.take_zero]; rfl
  | cons first qs ih =>
    rw [play]
    rcases r.next_cases first with ⟨i, is, rest, hqueue, hnext, -, hsame, hothers, -⟩ | ⟨hqueue, hnext⟩
    · have hi : i.question = first := by
        have hmem : i ∈ r.queue first := by rw [hqueue]; exact List.mem_cons_self
        simpa using (List.mem_filter.1 hmem).2
      have hserved : served (.ok i :: (rest.play qs).1) = i :: served (rest.play qs).1 := rfl
      rw [hnext, hserved]
      by_cases hq : first = q
      · subst hq
        rw [List.filter_cons_of_pos (by simpa using hi), ih, hsame, hqueue, List.count_cons_self,
          List.take_succ_cons]
      · rw [List.filter_cons_of_neg (by simpa [hi] using hq), ih, hothers q (Ne.symm hq),
          List.count_cons_of_ne hq]
    · -- a refused call hands out nothing, and its queue stays empty
      have hserved : served (.error (r.refusal first) :: (r.play qs).1) = served (r.play qs).1 := rfl
      rw [hnext, hserved, ih]
      by_cases hq : first = q
      · subst hq
        rw [hqueue, List.take_nil, List.take_nil]
      · rw [List.count_cons_of_ne hq]

/-- Every interaction is either handed out once or still there. -/
theorem Reel.served_append_left_perm (r : Reel) (qs : List Question) :
    (served (r.play qs).1 ++ (r.play qs).2.left).Perm r.left := by
  induction qs generalizing r with
  | nil => exact List.Perm.refl _
  | cons q qs ih =>
    rw [play]
    rcases r.next_cases q with ⟨i, is, rest, -, hnext, -, -, -, hperm⟩ | ⟨-, hnext⟩
    · rw [hnext]
      exact ((ih rest).cons i).trans hperm
    · rw [hnext]
      exact ih r

/-! ## Reels that answer alike -/

/-- Two reels with the same queues and the same recorded questions. -/
def Reel.Alike (r s : Reel) : Prop :=
  (∀ q, r.queue q = s.queue q) ∧ ∀ q, q ∈ r.recorded ↔ q ∈ s.recorded

/-- An answer with the words of a refusal in place of its cause. -/
def worded (answer : Except Exhausted Interaction) : Except String Interaction :=
  answer.mapError Exhausted.text

theorem nodup_eraseDups : ∀ xs : List Question, xs.eraseDups.Nodup
  | [] => List.nodup_nil
  | q :: xs => by
    have hshorter := List.length_filter_le (fun other => !other == q) xs
    rw [List.eraseDups_cons, List.nodup_cons, List.mem_eraseDups]
    refine ⟨fun hmem => ?_, nodup_eraseDups _⟩
    simpa using (List.mem_filter.1 hmem).2
  termination_by xs => xs.length

theorem perm_eraseDups {xs ys : List Question} (h : ∀ q, q ∈ xs ↔ q ∈ ys) :
    xs.eraseDups.Perm ys.eraseDups := by
  refine (List.perm_ext_iff_of_nodup (nodup_eraseDups xs) (nodup_eraseDups ys)).2 fun q => ?_
  rw [List.mem_eraseDups, List.mem_eraseDups, h q]

theorem Question.available_congr {xs ys : List Question} (h : ∀ q, q ∈ xs ↔ q ∈ ys) :
    Question.available xs = Question.available ys := by
  unfold Question.available
  exact sortByKey_id_of_perm ((perm_eraseDups h).map _)

theorem Reel.Alike.text_refusal {r s : Reel} (h : r.Alike s) (q : Question) :
    (r.refusal q).text = (s.refusal q).text := by
  unfold Reel.refusal
  by_cases hq : q ∈ r.recorded
  · rw [if_pos hq, if_pos ((h.2 q).1 hq)]
  · have hs : q ∉ s.recorded := fun hs => hq ((h.2 q).2 hs)
    rw [if_neg hq, if_neg hs]
    unfold Exhausted.text
    simp only [Question.available_congr h.2]

theorem Reel.Alike.next {r s : Reel} (h : r.Alike s) (q : Question) :
    worded (r.next q).1 = worded (s.next q).1 ∧ (r.next q).2.Alike (s.next q).2 := by
  constructor
  · rw [r.next_fst, s.next_fst, h.1 q]
    cases (s.queue q).head? with
    | none => exact congrArg Except.error (h.text_refusal q)
    | some i => rfl
  · refine ⟨fun other => ?_, fun other => ?_⟩
    · rw [r.queue_next, s.queue_next, h.1 other]
    · rw [r.recorded_next, s.recorded_next, h.2 other]

theorem Reel.Alike.play {r s : Reel} (h : r.Alike s) (qs : List Question) :
    (r.play qs).1.map worded = (s.play qs).1.map worded := by
  induction qs generalizing r s with
  | nil => rfl
  | cons q qs ih =>
    obtain ⟨hanswer, hrest⟩ := h.next q
    rw [Reel.play, Reel.play, List.map_cons, List.map_cons, hanswer, ih hrest]

/-! ## Cassettes -/

theorem Cassette.mem_recorded_reel {c : Cassette} :
    q ∈ c.reel.recorded ↔ c.recordedFor q ≠ [] := by
  rw [reel, recordedFor, List.mem_map, ne_eq, List.filter_eq_nil_iff]
  simp

theorem Cassette.reel_alike {c d : Cassette} (h : ∀ q, c.recordedFor q = d.recordedFor q) :
    c.reel.Alike d.reel := by
  refine ⟨h, fun q => ?_⟩
  rw [mem_recorded_reel, mem_recorded_reel, h q]

/-- The names in a refusal: all questions that were recorded, each once, in the order of bytes. -/
theorem Question.available_spec (recorded : List Question) :
    ∃ pairs : List Question, pairs.Nodup ∧ (∀ q, q ∈ pairs ↔ q ∈ recorded) ∧
      (available recorded).Perm (pairs.map fun q => s!"{q.part}::{q.method}") ∧
      (available recorded).Pairwise fun a b => ¬ Text.Precedes b a := by
  refine ⟨recorded.eraseDups, nodup_eraseDups recorded, fun q => List.mem_eraseDups, ?_, ?_⟩
  · unfold available
    exact (stablySorted_sortByKey id _).perm
  · unfold available
    exact (stablySorted_sortByKey id _).ascending

/-- The text of a refusal for a question of which all interactions were handed out. -/
def consumedText (q : Question) : String :=
  s!"Cassette exhausted: all interactions for port={Text.quoted q.part} " ++
    s!"method={Text.quoted q.method} have been consumed"

/-- The text of a refusal for a question that was not recorded, with the names of those that were. -/
def unrecordedText (q : Question) (names : List String) : String :=
  s!"Cassette exhausted: no interactions recorded for port={Text.quoted q.part} " ++
    s!"method={Text.quoted q.method}. Available port::method pairs: [" ++
    ", ".intercalate names ++ "]"

/-- A call after all interactions of its question were handed out, or for a question that has none,
is refused in these words. -/
theorem Cassette.text_refusal (c : Cassette) (qs : List Question) (q : Question) :
    (c.recordedFor q ≠ [] → ((c.reel.play qs).2.refusal q).text = consumedText q) ∧
    (c.recordedFor q = [] → ∃ pairs : List Question, ∃ names : List String,
      pairs.Nodup ∧ (∀ p, p ∈ pairs ↔ c.recordedFor p ≠ []) ∧
      names.Perm (pairs.map fun p => s!"{p.part}::{p.method}") ∧
      names.Pairwise (fun a b => ¬ Text.Precedes b a) ∧
      ((c.reel.play qs).2.refusal q).text = unrecordedText q names) := by
  have hrecorded := c.reel.recorded_play qs
  constructor
  · intro h
    have hmem : q ∈ (c.reel.play qs).2.recorded := hrecorded ▸ mem_recorded_reel.2 h
    rw [Reel.refusal, if_pos hmem]
    rfl
  · intro h
    have hmem : q ∉ (c.reel.play qs).2.recorded := hrecorded ▸ fun hq => mem_recorded_reel.1 hq h
    obtain ⟨pairs, hnodup, hpairs, hperm, hascending⟩ := Question.available_spec c.reel.recorded
    refine ⟨pairs, _, hnodup, fun p => ?_, hperm, hascending, ?_⟩
    · rw [hpairs, mem_recorded_reel]
    · rw [Reel.refusal, if_neg hmem, hrecorded]
      rfl

/-- A cassette answers every sequence of calls in the recorded order of each question: the call that
is the k-th one for its question gets the k-th interaction recorded for it; when there are fewer it
is refused, with the words that tell a question that was used up from one that was not recorded, and
the reel stays as it is. What is handed out and what is left make up the cassette, question by
question, and cassettes with the same interactions for every question answer alike. -/
theorem Cassette.play_in_order (c : Cassette) (qs : List Question) :
    (c.reel.play qs).1.length = qs.length ∧
    (∀ n q, qs[n]? = some q →
      (∀ i, (c.recordedFor q)[(qs.take n).count q]? = some i →
        (c.reel.play qs).1[n]? = some (.ok i)) ∧
      ((c.recordedFor q).length ≤ (qs.take n).count q →
        (c.reel.play (qs.take (n + 1))).2 = (c.reel.play (qs.take n)).2 ∧
        ∃ cause, (c.reel.play qs).1[n]? = some (.error cause) ∧
          (c.recordedFor q ≠ [] → cause.text = consumedText q) ∧
          (c.recordedFor q = [] → ∃ pairs : List Question, ∃ names : List String,
            pairs.Nodup ∧ (∀ p, p ∈ pairs ↔ c.recordedFor p ≠ []) ∧
            names.Perm (pairs.map fun p => s!"{p.part}::{p.method}") ∧
            names.Pairwise (fun a b => ¬ Text.Precedes b a) ∧
            cause.text = unrecordedText q names))) ∧
    (∀ q,
      (served (c.reel.play qs).1).filter (fun i => i.question = q) =
        (c.recordedFor q).take (qs.count q) ∧
      (c.reel.play qs).2.left.filter (fun i => i.question = q) =
        (c.recordedFor q).drop (qs.count q)) ∧
    (served (c.reel.play qs).1 ++ (c.reel.play qs).2.left).Perm c.interactions ∧
    ∀ d : Cassette, (∀ q, c.recordedFor q = d.recordedFor q) →
      (c.reel.play qs).1.map worded = (d.reel.play qs).1.map worded := by
  refine ⟨c.reel.length_play qs, fun n q hq => ?_,
    fun q => ⟨c.reel.served_play qs q, c.reel.queue_play qs q⟩,
    c.reel.served_append_left_perm qs, fun d hd => (c.reel_alike hd).play qs⟩
  obtain ⟨hanswer, hafter⟩ := c.reel.play_getElem? hq
  -- the queue that the call finds is what the calls before it have left
  have hhead : ((c.reel.play (qs.take n)).2.queue q).head? =
      (c.recordedFor q)[(qs.take n).count q]? := by
    rw [Reel.queue_play, List.head?_drop]
    rfl
  constructor
  · intro i hi
    rw [hanswer, Reel.next_fst, hhead, hi]
  · intro hlength
    have hnone : (c.recordedFor q)[(qs.take n).count q]? = none := List.getElem?_eq_none hlength
    rcases (c.reel.play (qs.take n)).2.next_cases q with ⟨i, is, rest, hqueue, -⟩ | ⟨-, hnext⟩
    · rw [hnone, hqueue] at hhead
      cases hhead
    · refine ⟨by rw [hafter, hnext], _, by rw [hanswer, hnext], ?_⟩
      exact c.text_refusal (qs.take n) q

/-- A recording of some interactions. -/
def sampleTape (interactions : List Interaction) : Cassette where
  name := "sample"
  recordedAt := .epoch
  interactions := interactions

/-- A probe that found nothing. -/
def missing : Interaction := ⟨0, "fs", "exists", .null, .bool false⟩

/-- The reading of a file. -/
def reading : Interaction := ⟨1, "fs", "read_to_string", .null, .text "a"⟩

/-- A probe that found something. -/
def present : Interaction := ⟨2, "fs", "exists", .null, .bool true⟩

/-- Two probes with a reading between them are played to calls that ask for a second reading: that is
refused and nothing else is, and a recording with the reading in front is played alike. -/
theorem Cassette.play_in_order_interleaved :
    let calls : List Question := [.read, .probe, .read, .probe]
    let answers := ((sampleTape [missing, reading, present]).reel.play calls).1
    answers[1]? = some (.ok missing) ∧ answers[3]? = some (.ok present) ∧
    (∃ cause, answers[2]? = some (.error cause) ∧ cause.text = consumedText .read) ∧
    answers.map worded =
      ((sampleTape [reading, missing, present]).reel.play calls).1.map worded := by
  intro calls answers
  obtain ⟨-, hcalls, -, -, halike⟩ := play_in_order (sampleTape [missing, reading, present]) calls
  have hread : (sampleTape [missing, reading, present]).recordedFor .read = [reading] := rfl
  obtain ⟨-, cause, hanswer, htext, -⟩ := (hcalls 2 .read rfl).2 (by rw [hread]; decide)
  refine ⟨(hcalls 1 .probe rfl).1 _ rfl, (hcalls 3 .probe rfl).1 _ rfl,
    ⟨cause, hanswer, htext (by rw [hread]; simp)⟩, halike _ fun q => ?_⟩
  unfold recordedFor sampleTape
  by_cases hq : reading.question = q
  · subst hq
    rfl
  · simp only [List.filter_cons, hq, decide_false, Bool.false_eq_true, if_false]

end Cadastre
