import Cadastre.Proofs.Cassette.Order
import Cadastre.Proofs.Cassette.Output
import Cadastre.Proofs.Plan.Replies
import Mathlib.Data.List.Induction

/-!
# Exhausted players

A player answers from its recording until it is asked for something of which nothing is left. That
call breaks it, and every later call to it is refused, also one for something that is still there.
The player for files and the player for the time do not notice each other.
-/

namespace Cadastre

open Plan (World)

/-! ## Two players -/

/-- A part of the world that has a player of its own. -/
inductive Part where
  /-- Files and directories. -/
  | files
  /-- The time. -/
  | clock
deriving DecidableEq

/-- What a request asks the player of a part, if it asks that player at all. -/
def Request.question? : Part → Request → Option Question
  | .files, probe _ => some .probe
  | .files, read _ => some .read
  | .files, list _ => some .list
  | .files, write _ _ => some .write
  | .clock, now => some .now
  | _, _ => none

/-- The questions to the player of a part among some calls. -/
def Request.asked (part : Part) (calls : List Request) : List Question :=
  calls.filterMap (question? part)

/-- The reply to a request for which an output was recorded; a request that no cassette can hold gets
the reply that it always gets. -/
def Request.replay : (q : Request) → Json → Except String q.Answer
  | probe _, output => .ok (Players.wasThere output)
  | read _, output => .ok (wasRead output)
  | list _, output => .ok (wasListed output)
  | write _ _, output => .ok (wasWritten output)
  | now, output => recordedTime output
  | isFile _, _ => .ok false
  | readStart _, _ => .ok (.ok "")
  | log _, _ => .ok ()
  | print _, _ => .ok ()
  | abort message, _ => .error message

/-- What comes of the answer of a player: the reading of an output, or the words of a refusal. -/
def answered {α : Type} (read : Json → Except String α) : Except Refusal Json → Except String α
  | .ok output => read output
  | .error refusal => .error refusal.text

namespace Players

variable {part other : Part} {q : Request} {k : Question} {p p' : Players}

/-- The player for a part. -/
def of (p : Players) : Part → Player
  | .files => p.files
  | .clock => p.clock

/-- The players with another one for a part. -/
def put (p : Players) (player : Player) : Part → Players
  | .files => { p with files := player }
  | .clock => { p with clock := player }

theorem of_put_self (p : Players) (player : Player) : (p.put player part).of part = player := by
  cases part <;> rfl

theorem of_put_of_ne (p : Players) (player : Player) (h : other ≠ part) :
    (p.put player part).of other = p.of other := by
  cases part with
  | files =>
    cases other with
    | files => exact absurd rfl h
    | clock => rfl
  | clock =>
    cases other with
    | files => rfl
    | clock => exact absurd rfl h

theorem fromFiles_eq {α : Type} (p : Players) (k : Question) (answer : Json → α) :
    p.fromFiles k answer =
      (answered (fun output => .ok (answer output)) (p.files.next k).1,
        p.put (p.files.next k).2 .files) := by
  unfold fromFiles
  rcases p.files.next k with ⟨refusal | output, player⟩
  · rfl
  · rfl

theorem fromClock_eq (p : Players) :
    p.fromClock =
      (answered recordedTime (p.clock.next .now).1, p.put (p.clock.next .now).2 .clock) := by
  unfold fromClock
  rcases p.clock.next .now with ⟨refusal | output, player⟩
  · rfl
  · rfl

/-- A request that asks a player is answered by that player, and the other one stays. -/
theorem world_of_question (h : q.question? part = some k) (p : Players) :
    world q p = (answered q.replay ((p.of part).next k).1, p.put ((p.of part).next k).2 part) := by
  cases part with
  | files =>
    cases q with
    | probe path => cases h; exact p.fromFiles_eq .probe wasThere
    | read path => cases h; exact p.fromFiles_eq .read wasRead
    | list path => cases h; exact p.fromFiles_eq .list wasListed
    | write path text => cases h; exact p.fromFiles_eq .write wasWritten
    | _ => cases h
  | clock =>
    cases q with
    | now => cases h; exact p.fromClock_eq
    | _ => cases h

theorem world_of_no_question (h : ∀ part, q.question? part = none) (p : Players) :
    world q p = (q.replay .null, p) := by
  cases q with
  | probe path => cases h .files
  | read path => cases h .files
  | list path => cases h .files
  | write path text => cases h .files
  | now => cases h .clock
  | _ => rfl

theorem of_world_of_some (h : q.question? part = some k) (p : Players) :
    (world q p).2.of part = ((p.of part).next k).2 := by
  rw [world_of_question h, of_put_self]

theorem of_world_of_none (h : q.question? part = none) (p : Players) :
    (world q p).2.of part = p.of part := by
  by_cases hnone : ∀ other, q.question? other = none
  · rw [world_of_no_question hnone]
  · obtain ⟨other, hother⟩ := not_forall.1 hnone
    obtain ⟨k, hk⟩ := Option.ne_none_iff_exists'.1 hother
    have hne : part ≠ other := by
      rintro rfl
      exact hother h
    rw [world_of_question hk, of_put_of_ne p _ hne]

/-- The replies of one player are the same without the calls to the other. -/
theorem replies_filter (part : Part) (calls : List Request) (hp : p.of part = p'.of part) :
    (World.replies world calls p).filter (fun r => (r.1.question? part).isSome) =
      World.replies world (calls.filter fun q => (q.question? part).isSome) p' := by
  induction calls generalizing p p' with
  | nil => rfl
  | cons q calls ih =>
    rw [World.replies]
    rcases hq : q.question? part with - | k
    · rw [List.filter_cons_of_neg (by simp [hq]), List.filter_cons_of_neg (by simp [hq])]
      exact ih ((of_world_of_none hq p).trans hp)
    · rw [List.filter_cons_of_pos (by simp [hq]), List.filter_cons_of_pos (by simp [hq]),
        World.replies]
      have hreply : (world q p).1 = (world q p').1 := by
        rw [world_of_question hq, world_of_question hq, hp]
      have hrest : (world q p).2.of part = (world q p').2.of part := by
        rw [of_world_of_some hq, of_world_of_some hq, hp]
      rw [hreply, ih hrest]

end Players

/-! ## One player -/

namespace Cassette

variable {c : Cassette} {part : Part} {qs : List Question} {k : Question} {p : Player}

/-- Whether something was asked for more often than it was recorded. -/
def Overasked (c : Cassette) (qs : List Question) : Prop :=
  ∃ k, (c.recordedFor k).length < qs.count k

theorem overasked_append_singleton :
    c.Overasked (qs ++ [k]) ↔ c.Overasked qs ∨ (c.recordedFor k).length ≤ qs.count k := by
  constructor
  · rintro ⟨j, hj⟩
    rw [List.count_append] at hj
    by_cases hjk : k = j
    · subst hjk
      rw [List.count_singleton_self] at hj
      right
      omega
    · rw [List.count_singleton, beq_false_of_ne hjk] at hj
      exact .inl ⟨j, hj⟩
  · rintro (⟨j, hj⟩ | hk)
    · refine ⟨j, ?_⟩
      rw [List.count_append]
      omega
    · refine ⟨k, ?_⟩
      rw [List.count_append, List.count_singleton_self]
      omega

/-- A player that has been asked some questions: it is broken if it was asked for too much, and
otherwise its reel has moved on by the questions. -/
def Played (c : Cassette) (qs : List Question) (p : Player) : Prop :=
  (p.broken = true ↔ c.Overasked qs) ∧ (p.broken = false → p.reel = (c.reel.play qs).2)

/-- A player is broken, or breaks now, or hands out the interaction whose turn it is. -/
theorem Played.next_cases (h : c.Played qs p) (k : Question) :
    (c.Overasked qs ∧ p.next k = (.error .broken, p)) ∨
    (¬ c.Overasked qs ∧ (c.recordedFor k).length ≤ qs.count k ∧
      p.next k = (.error (.exhausted ((c.reel.play qs).2.refusal k)), { p with broken := true })) ∨
    (¬ c.Overasked qs ∧ qs.count k < (c.recordedFor k).length ∧ p.broken = false ∧
      ∃ i, (c.recordedFor k)[qs.count k]? = some i ∧
        p.next k = (.ok i.output, { p with reel := (c.reel.play (qs ++ [k])).2 })) := by
  obtain ⟨hbroken, hreel⟩ := h
  by_cases hover : c.Overasked qs
  · left
    refine ⟨hover, ?_⟩
    rw [Player.next, if_pos (hbroken.2 hover)]
  · right
    have hworks : p.broken = false := by
      rw [← Bool.not_eq_true]
      intro hp
      exact hover (hbroken.1 hp)
    have hqueue : ((c.reel.play qs).2).queue k = (c.recordedFor k).drop (qs.count k) :=
      c.reel.queue_play qs k
    have hafter : (c.reel.play (qs ++ [k])).2 = ((c.reel.play qs).2.next k).2 := by
      rw [Reel.play_append]
      rfl
    rw [Player.next, if_neg (by rw [hworks]; decide), hreel hworks, hafter]
    rcases (c.reel.play qs).2.next_cases k with
      ⟨i, is, rest, hfirst, hnext, -⟩ | ⟨hempty, hnext⟩
    · right
      rw [hqueue] at hfirst
      have hget : (c.recordedFor k)[qs.count k]? = some i := by
        rw [← List.head?_drop, hfirst]
        rfl
      refine ⟨hover, (List.getElem?_eq_some_iff.1 hget).1, hworks, i, hget, ?_⟩
      rw [hnext]
    · left
      rw [hqueue, List.drop_eq_nil_iff] at hempty
      refine ⟨hover, hempty, ?_⟩
      rw [hnext]

theorem Played.next (h : c.Played qs p) (k : Question) : c.Played (qs ++ [k]) (p.next k).2 := by
  unfold Played
  rw [overasked_append_singleton]
  rcases h.next_cases k with ⟨hover, hnext⟩ | ⟨hover, hlength, hnext⟩ |
    ⟨hover, hlength, hworks, i, -, hnext⟩
  · rw [hnext]
    have hbroken := h.1.2 hover
    refine ⟨⟨fun _ => .inl hover, fun _ => hbroken⟩, fun hworks => ?_⟩
    rw [hbroken] at hworks
    cases hworks
  · rw [hnext]
    refine ⟨⟨fun _ => .inr hlength, fun _ => rfl⟩, fun hworks => ?_⟩
    cases hworks
  · rw [hnext]
    refine ⟨⟨fun hbroken => ?_, fun hor => ?_⟩, fun _ => rfl⟩
    · rw [hworks] at hbroken
      cases hbroken
    · rcases hor with hyes | hle
      · exact absurd hyes hover
      · omega

/-! ## Calls in sequence -/

/-- Each player of a cassette has been asked the questions among the calls that are its own. -/
theorem played_after (c : Cassette) (calls : List Request) (part : Part) :
    c.Played (Request.asked part calls) ((World.after Players.world calls c.players).of part) := by
  induction calls using List.reverseRecOn with
  | nil =>
    have hworks : (c.players.of part).broken = false := by cases part <;> rfl
    have hreel : (c.players.of part).reel = c.reel := by cases part <;> rfl
    refine ⟨⟨fun h => ?_, fun ⟨k, hk⟩ => ?_⟩, fun _ => hreel⟩
    · rw [World.after, List.foldl_nil, hworks] at h
      cases h
    · cases hk
  | append_singleton calls q ih =>
    rw [World.after_append, World.after_cons, Request.asked, List.filterMap_append]
    rcases hq : q.question? part with - | k
    · rw [List.filterMap_cons_none hq, List.filterMap_nil, List.append_nil]
      have hsame := Players.of_world_of_none hq (World.after Players.world calls c.players)
      exact hsame ▸ ih
    · rw [List.filterMap_cons_some hq, List.filterMap_nil]
      have hnext := Players.of_world_of_some hq (World.after Players.world calls c.players)
      exact hnext ▸ ih.next k

/-- The call at a place asks a player for something of which nothing recorded is left. -/
def LacksAt (c : Cassette) (part : Part) (calls : List Request) (n : Nat) : Prop :=
  ∃ k ∈ calls[n]?.bind (Request.question? part),
    (c.recordedFor k).length ≤ (Request.asked part (calls.take n)).count k

instance (c : Cassette) (part : Part) (calls : List Request) (n : Nat) :
    Decidable (c.LacksAt part calls n) :=
  inferInstanceAs (Decidable (∃ k ∈ calls[n]?.bind (Request.question? part),
    (c.recordedFor k).length ≤ (Request.asked part (calls.take n)).count k))

theorem lacksAt_iff {calls : List Request} {n : Nat} {q : Request} (hcall : calls[n]? = some q)
    (hq : q.question? part = some k) :
    c.LacksAt part calls n ↔
      (c.recordedFor k).length ≤ (Request.asked part (calls.take n)).count k := by
  simp [LacksAt, hcall, hq]

/-- A player is asked for too much when one of the calls to it finds nothing left. -/
theorem overasked_take_iff {calls : List Request} {n : Nat} :
    c.Overasked (Request.asked part (calls.take n)) ↔ ∃ m < n, c.LacksAt part calls m := by
  induction n with
  | zero =>
    constructor
    · rintro ⟨k, hk⟩
      cases hk
    · rintro ⟨m, hm, -⟩
      omega
  | succ n ih =>
    have hlast : (∃ m < n + 1, c.LacksAt part calls m) ↔
        (∃ m < n, c.LacksAt part calls m) ∨ c.LacksAt part calls n := by
      simp only [Nat.lt_succ_iff_lt_or_eq, or_and_right, exists_or, exists_eq_left]
    rw [hlast, ← ih, Request.asked, List.take_add_one, List.filterMap_append]
    rcases hcall : calls[n]? with - | q
    · have hlacks : ¬ c.LacksAt part calls n := by simp [LacksAt, hcall]
      simp [hlacks, Request.asked]
    · rcases hq : q.question? part with - | k
      · have hlacks : ¬ c.LacksAt part calls n := by simp [LacksAt, hcall, hq]
        simp [hlacks, Request.asked, hq]
      · rw [lacksAt_iff hcall hq, Option.toList_some, List.filterMap_cons_some hq,
          List.filterMap_nil]
        exact overasked_append_singleton

/-- A call comes after one that found nothing left, or finds nothing left itself, or is answered with
the interaction whose turn it is. -/
theorem reply_cases (c : Cassette) {calls : List Request} {n : Nat} {q : Request}
    (hcall : calls[n]? = some q) (hq : q.question? part = some k) :
    ((∃ m < n, c.LacksAt part calls m) ∧
      (World.replies Players.world calls c.players)[n]? = some ⟨q, .error Refusal.broken.text⟩) ∨
    ((¬ ∃ m < n, c.LacksAt part calls m) ∧ c.LacksAt part calls n ∧
      (World.replies Players.world calls c.players)[n]? =
        some ⟨q, .error ((c.reel.play (Request.asked part (calls.take n))).2.refusal k).text⟩) ∨
    ((¬ ∃ m < n, c.LacksAt part calls m) ∧ ¬ c.LacksAt part calls n ∧
      ∃ i, (c.recordedFor k)[(Request.asked part (calls.take n)).count k]? = some i ∧
        (World.replies Players.world calls c.players)[n]? = some ⟨q, q.replay i.output⟩) := by
  have hreply : (World.replies Players.world calls c.players)[n]? = _ :=
    World.replies_getElem? hcall
  have hplayed := c.played_after (calls.take n) part
  rw [hreply, Players.world_of_question hq, ← overasked_take_iff, lacksAt_iff hcall hq]
  rcases hplayed.next_cases k with ⟨hover, hnext⟩ | ⟨hover, hlength, hnext⟩ |
    ⟨hover, hlength, -, i, hi, hnext⟩
  · left
    rw [hnext]
    exact ⟨hover, rfl⟩
  · right; left
    rw [hnext]
    exact ⟨hover, hlength, rfl⟩
  · right; right
    rw [hnext]
    exact ⟨hover, by omega, i, hi, rfl⟩

/-! ## Replies -/

/-- The words in which a call is refused that finds nothing left: they tell a question that was used
up from one that was never recorded, and then name those that were. -/
def RefusesIn (c : Cassette) (k : Question) (words : String) : Prop :=
  (c.recordedFor k ≠ [] → words = consumedText k) ∧
  (c.recordedFor k = [] → ∃ pairs : List Question, ∃ names : List String,
    pairs.Nodup ∧ (∀ p, p ∈ pairs ↔ c.recordedFor p ≠ []) ∧
    names.Perm (pairs.map fun p => s!"{p.part}::{p.method}") ∧
    names.Pairwise (fun a b => ¬ Text.Precedes b a) ∧
    words = unrecordedText k names)

end Cassette

/-- How the calls read a recorded output. Calls for files are always answered, with an error, or with
a no, if the output has not the shape of an answer; a time that is none is given up on. -/
structure Json.AnswersCalls (output : Json) : Prop where
  probe : ∀ path, ∃ there : Bool, (Request.probe path).replay output = .ok there ∧
    (there = true ↔ output.StandsFor (.bool true))
  read : ∀ path, ∃ answer : Except String String, (Request.read path).replay output = .ok answer ∧
    ∀ text, answer = .ok text ↔ output.StandsFor (.text text)
  list : ∀ path, ∃ answer : Except String (List String),
    (Request.list path).replay output = .ok answer ∧
    ∀ names, answer = .ok names ↔ output.StandsFor (.array (names.map .text))
  write : ∀ path text, ∃ answer : Except String Unit,
    (Request.write path text).replay output = .ok answer ∧
    (answer = .ok () ↔ output.member? "err" = none)
  now : ∀ t : Instant, Request.now.replay output = .ok t ↔
    ∃ s, output = .text s ∧ Instant.ofString? s = some t
  noTime : (∀ s t, output = .text s → Instant.ofString? s ≠ some t) →
    Request.now.replay output = .error "clock::now: failed to deserialize DateTime<Utc>"

theorem Json.answersCalls (output : Json) : output.AnswersCalls where
  probe _ := ⟨_, rfl, wasThere_eq_true_iff⟩
  read _ := ⟨_, rfl, fun _ => wasRead_eq_ok_iff⟩
  list _ := ⟨_, rfl, fun _ => wasListed_eq_ok_iff⟩
  write _ _ := ⟨_, rfl, wasWritten_eq_ok_iff⟩
  now _ := recordedTime_eq_ok_iff
  noTime h := by
    rcases recordedTime_cases output with ⟨t, ht⟩ | hfail
    · obtain ⟨s, hs, hread⟩ := recordedTime_eq_ok_iff.1 ht
      exact absurd hread (h s t hs)
    · exact hfail

/-- Each of the two players answers the calls to it, whatever the order of all calls is, from what was
recorded for each, up to the first call that finds nothing left. That one is refused as exhausted,
and every call to the same player after it as broken. A reading that comes to nothing breaks no
player, and the replies of a player are those that it gives without the calls to the other. -/
theorem Cassette.replies_until_exhausted (c : Cassette) (calls : List Request) :
    (∀ part n q k, calls[n]? = some q → q.question? part = some k →
      ((∀ m ≤ n, ¬ c.LacksAt part calls m) →
        ∃ i, (c.recordedFor k)[(Request.asked part (calls.take n)).count k]? = some i ∧
          (World.replies Players.world calls c.players)[n]? = some ⟨q, q.replay i.output⟩) ∧
      (c.LacksAt part calls n → (∀ m < n, ¬ c.LacksAt part calls m) →
        ∃ words, (World.replies Players.world calls c.players)[n]? = some ⟨q, .error words⟩ ∧
          c.RefusesIn k words) ∧
      ((∃ m < n, c.LacksAt part calls m) →
        (World.replies Players.world calls c.players)[n]? =
          some ⟨q, .error "replayer lock poisoned: PoisonError \x7b .. \x7d"⟩)) ∧
    (∀ output : Json, output.AnswersCalls) ∧
    ∀ part,
      (World.replies Players.world calls c.players).filter
          (fun r => (r.1.question? part).isSome) =
        World.replies Players.world (calls.filter fun q => (q.question? part).isSome) c.players := by
  refine ⟨?_, Json.answersCalls, fun part => Players.replies_filter part calls rfl⟩
  intro part n q k hcall hq
  rcases c.reply_cases hcall hq with ⟨hbefore, hreply⟩ | ⟨hbefore, hnow, hreply⟩ |
    ⟨hbefore, hnow, i, hi, hreply⟩
  · obtain ⟨m, hm, hlacks⟩ := hbefore
    refine ⟨fun hnone => ?_, fun _ hnone => ?_, fun _ => hreply⟩
    · exact absurd hlacks (hnone m hm.le)
    · exact absurd hlacks (hnone m hm)
  · refine ⟨fun hnone => ?_, fun _ _ => ?_, fun hyes => ?_⟩
    · exact absurd hnow (hnone n le_rfl)
    · exact ⟨_, hreply, c.text_refusal (Request.asked part (calls.take n)) k⟩
    · exact absurd hyes hbefore
  · refine ⟨fun _ => ⟨i, hi, hreply⟩, fun hyes _ => ?_, fun hyes => ?_⟩
    · exact absurd hyes hnow
    · exact absurd hyes hbefore

/-- An answer of the clock that is no time. -/
def noon : Interaction := ⟨3, "clock", "now", .null, .text "noon"⟩

/-- An answer of the clock that is a time. -/
def midnight : Interaction := ⟨4, "clock", "now", .null, .text "1970-01-01T00:00:00Z"⟩

/-- A file is read once too often; the time, which was asked for in vain before, is still there. -/
theorem Cassette.replies_until_exhausted_second_read :
    let c := sampleTape [missing, reading, noon, midnight]
    let calls : List Request := [.read "/a", .now, .read "/b", .probe "/c", .now]
    let replies := World.replies Players.world calls c.players
    replies[0]? = some ⟨.read "/a", .ok (.ok "a")⟩ ∧
    replies[1]? = some ⟨.now, .error "clock::now: failed to deserialize DateTime<Utc>"⟩ ∧
    replies[2]? = some ⟨.read "/b", .error (consumedText .read)⟩ ∧
    replies[3]? =
      some ⟨.probe "/c", .error "replayer lock poisoned: PoisonError \x7b .. \x7d"⟩ ∧
    replies[4]? = some ⟨.now, .ok .epoch⟩ := by
  intro c calls replies
  obtain ⟨hcalls, -, -⟩ := replies_until_exhausted c calls
  have hfirst : ∀ m < 2, ¬ c.LacksAt .files calls m := by decide +kernel
  have hclock : ∀ m < 5, ¬ c.LacksAt .clock calls m := by decide +kernel
  have hlacks : c.LacksAt .files calls 2 := by decide +kernel
  obtain ⟨i, hi, hread⟩ := (hcalls .files 0 _ .read rfl rfl).1 fun m hm => hfirst m (by omega)
  obtain ⟨j, hj, hnoon⟩ := (hcalls .clock 1 _ .now rfl rfl).1 fun m hm => hclock m (by omega)
  obtain ⟨k, hk, hmidnight⟩ := (hcalls .clock 4 _ .now rfl rfl).1 fun m hm => hclock m (by omega)
  obtain ⟨words, hrefused, hwords, -⟩ := (hcalls .files 2 _ .read rfl rfl).2.1 hlacks hfirst
  have hpoisoned := (hcalls .files 3 _ .probe rfl rfl).2.2 ⟨2, by decide, hlacks⟩
  obtain rfl : reading = i := Option.some.inj hi
  obtain rfl : noon = j := Option.some.inj hj
  obtain rfl : midnight = k := Option.some.inj hk
  have hepoch : Instant.ofString? "1970-01-01T00:00:00Z" = some .epoch := by decide +kernel
  have hnever : ∀ t, Instant.ofString? "noon" ≠ some t := by
    intro t
    rw [show Instant.ofString? "noon" = none by decide +kernel]
    nofun
  rw [noon.output.answersCalls.noTime fun s t hs => by cases hs; exact hnever t] at hnoon
  rw [(midnight.output.answersCalls.now .epoch).2 ⟨_, rfl, hepoch⟩] at hmidnight
  rw [hwords (by decide +kernel)] at hrefused
  exact ⟨hread, hnoon, hrefused, hpoisoned, hmidnight⟩

end Cadastre
