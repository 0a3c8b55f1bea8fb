import Cadastre.Cassette.Replay

/-!
# Recorded outputs

An output that a cassette holds is read as an answer only if it has the shape of one: it is the
value itself, or an object with the value under `ok` and nothing under `err`. Every other output is
read as an error, whatever it is.
-/

namespace Cadastre

/-! ## Held values -/

namespace Decode

variable {α : Type} {read : Json → Decoding α} {toJson : α → Json} {v : Json} {a : α}

/-- A reader reads the held values that stand for something and refuses all others. -/
structure Reads (read : Json → Decoding α) (toJson : α → Json) : Prop where
  accepts : ∀ a, read (toJson a) = pure a
  refuses : ∀ v, (∃ a, v = toJson a) ∨ ∃ failure, read v = .fail failure

theorem Reads.within_eq_ok_iff (h : Reads read toJson) :
    (read v).within 0 = .ok a ↔ v = toJson a := by
  constructor
  · intro hread
    rcases h.refuses v with ⟨b, rfl⟩ | ⟨failure, hfail⟩
    · rw [h.accepts] at hread
      have hb : b = a := Except.ok.inj hread
      rw [hb]
    · rw [hfail] at hread
      cases hread
  · rintro rfl
    rw [h.accepts]
    rfl

theorem reads_string : Reads string Json.text := by
  refine ⟨fun s => rfl, ?_⟩
  intro v
  cases v with
  | text s => exact .inl ⟨s, rfl⟩
  | number n => right; cases n <;> exact ⟨_, rfl⟩
  | _ => exact .inr ⟨_, rfl⟩

theorem reads_bool : Reads Source.bool Json.bool := by
  refine ⟨fun b => rfl, ?_⟩
  intro v
  cases v with
  | bool b => exact .inl ⟨b, rfl⟩
  | number n => right; cases n <;> exact ⟨_, rfl⟩
  | _ => exact .inr ⟨_, rfl⟩

theorem Reads.mapM_map (h : Reads read toJson) (as : List α) :
    (as.map toJson).mapM read = pure as := by
  induction as with
  | nil => rfl
  | cons a as ih => rw [List.map_cons, List.mapM_cons, h.accepts, pure_bind, ih, pure_bind]

/-- Items are read one by one, and the first one that is refused stops the reading. -/
theorem Reads.mapM_cases (h : Reads read toJson) (items : List Json) :
    (∃ as : List α, items = as.map toJson) ∨ ∃ failure, items.mapM read = .fail failure := by
  induction items with
  | nil => exact .inl ⟨[], rfl⟩
  | cons v items ih =>
    rw [List.mapM_cons]
    rcases h.refuses v with ⟨a, rfl⟩ | ⟨failure, hfail⟩
    · rcases ih with ⟨as, rfl⟩ | ⟨failure, hfail⟩
      · exact .inl ⟨a :: as, rfl⟩
      · right
        refine ⟨failure, ?_⟩
        rw [h.accepts, pure_bind, hfail]
        rfl
    · right
      refine ⟨failure, ?_⟩
      rw [hfail]
      rfl

theorem Reads.list (h : Reads read toJson) :
    Reads (list read) fun as => .array (as.map toJson) := by
  have harray : ∀ items, Decode.list read (Json.array items) = items.mapM read := by
    intro items
    show items.mapM read >>= pure = _
    rw [bind_pure]
  constructor
  · intro as
    rw [harray, h.mapM_map]
  · intro v
    cases v with
    | array items =>
      rw [harray]
      rcases h.mapM_cases items with ⟨as, rfl⟩ | hfail
      · exact .inl ⟨as, rfl⟩
      · exact .inr hfail
    | number n => right; cases n <;> exact ⟨_, rfl⟩
    | _ => exact .inr ⟨_, rfl⟩

theorem instant_text (s : String) :
    instant (Json.text s) =
      match Instant.ofString? s with
      | some i => pure i
      | none => .fail (.malformed "invalid timestamp") :=
  rfl

/-- A held timestamp is a string that names an instant. -/
theorem within_instant_eq_ok_iff {t : Instant} :
    (instant v).within 0 = .ok t ↔ ∃ s, v = .text s ∧ Instant.ofString? s = some t := by
  constructor
  · intro h
    cases v with
    | text s =>
      refine ⟨s, rfl, ?_⟩
      rw [instant_text] at h
      rcases hs : Instant.ofString? s with - | i
      · rw [hs] at h
        cases h
      · rw [hs] at h
        have hi : i = t := Except.ok.inj h
        rw [hi]
    | number n => cases n <;> cases h
    | _ => cases h
  · rintro ⟨s, rfl, hs⟩
    rw [instant_text, hs]
    rfl

end Decode

/-! ## Outputs -/

/-- A recorded output stands for a value: it does not stand for a failure, and is the value or has it
under `ok`. -/
def Json.StandsFor (output v : Json) : Prop :=
  output.member? "err" = none ∧ (output.member? "ok").getD output = v

variable {α : Type} {call : String} {read : Json → Decoding α} {toJson : α → Json} {output : Json}

theorem recordedOutcome_eq_ok_iff (h : Decode.Reads read toJson) {a : α} :
    recordedOutcome call read output = .ok a ↔ output.StandsFor (toJson a) := by
  rw [recordedOutcome, recordedError?, Json.StandsFor]
  rcases herr : output.member? "err" with - | e
  · rw [← h.within_eq_ok_iff]
    rcases (read ((output.member? "ok").getD output)).within 0 with failure | b
    · simp
    · simp
  · simp

theorem wasRead_eq_ok_iff {text : String} :
    wasRead output = .ok text ↔ output.StandsFor (.text text) :=
  recordedOutcome_eq_ok_iff Decode.reads_string

theorem wasListed_eq_ok_iff {names : List String} :
    wasListed output = .ok names ↔ output.StandsFor (.array (names.map .text)) :=
  recordedOutcome_eq_ok_iff Decode.reads_string.list

theorem wasThere_eq_true_iff : Players.wasThere output = true ↔ output.StandsFor (.bool true) := by
  have hiff : probed output = .ok true ↔ _ := recordedOutcome_eq_ok_iff Decode.reads_bool
  rw [← hiff, Players.wasThere]
  rcases probed output with message | b
  · simp [Except.toOption]
  · simp [Except.toOption]

theorem wasWritten_eq_ok_iff : wasWritten output = .ok () ↔ output.member? "err" = none := by
  rw [wasWritten, recordedError?]
  rcases output.member? "err" with - | e
  · simp
  · simp

theorem recordedTime_eq_ok_iff {t : Instant} :
    recordedTime output = .ok t ↔ ∃ s, output = .text s ∧ Instant.ofString? s = some t := by
  rw [← Decode.within_instant_eq_ok_iff, recordedTime]
  rcases (Decode.instant output).within 0 with failure | i
  · simp
  · simp

theorem recordedTime_cases (output : Json) :
    (∃ t, recordedTime output = .ok t) ∨
      recordedTime output = .error "clock::now: failed to deserialize DateTime<Utc>" := by
  rw [recordedTime]
  rcases (Decode.instant output).within 0 with failure | t
  · exact .inr rfl
  · exact .inl ⟨t, rfl⟩

end Cadastre
