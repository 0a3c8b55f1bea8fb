import Cadastre.Cassette.Replay
import Cadastre.Proofs.Decode.Json
import Cadastre.World.Storage

/-!
# Recordings

What a cassette holds of the requests to a storage: a bare truth value for looking whether something
is there, an outcome under `ok` or `err` for reading and listing, and the text of the time. What was
recorded so is read as the answer that was given.
-/

namespace Cadastre

open Json

variable {α : Type} {call : String} {read : Json → Decoding α} {v : Json} {a : α}

/-! ## Calls -/

/-- The outcome of a call that can fail, as it is recorded. -/
def recordedResult : Except String Json → Json
  | .ok v => .object [("ok", v)]
  | .error message => .object [("err", .text message)]

/-- What is recorded of a request to a storage at a time: the question and the answer. -/
def Storage.call? (storage : Storage) (time : Instant) : Request → Option (Question × Json)
  | .probe path => some (.probe, .bool (storage.probe path))
  | .read path => some (.read, recordedResult ((storage.read path).map .text))
  | .list path =>
    some (.list, recordedResult ((storage.list path).map fun names => .array (names.map .text)))
  | .now => some (.now, .text time.text)
  | _ => none

/-- The interactions of a cassette are the calls among some requests, in their order. -/
def Cassette.Records (c : Cassette) (storage : Storage) (time : Instant)
    (requests : List Request) : Prop :=
  c.interactions.map (fun i => (i.question, i.output)) = requests.filterMap (storage.call? time)

/-- A recording of requests with nothing in it that is for readers only. -/
def Storage.recording (storage : Storage) (time : Instant) (requests : List Request) : Cassette where
  name := ""
  recordedAt := time
  interactions := (requests.filterMap (storage.call? time)).map fun (q, output) =>
    ⟨0, q.part, q.method, .null, output⟩

theorem Storage.recording_records (storage : Storage) (time : Instant) (requests : List Request) :
    (storage.recording time requests).Records storage time requests := by
  rw [Cassette.Records, recording, List.map_map]
  exact List.map_id _

/-! ## Recorded answers -/

theorem recordedOutcome_ok (h : read v = pure a) :
    recordedOutcome call read (recordedResult (.ok v)) = .ok a := by
  have hfine : recordedError? (recordedResult (.ok v)) = none := rfl
  have hvalue : ((recordedResult (.ok v)).member? "ok").getD (recordedResult (.ok v)) = v := rfl
  rw [recordedOutcome, hfine]
  dsimp only
  rw [hvalue, h]
  rfl

theorem recordedOutcome_error (message : String) :
    recordedOutcome call read (recordedResult (.error message)) = .error message :=
  rfl

theorem wasThere_bool (b : Bool) : Players.wasThere (.bool b) = b :=
  rfl

theorem wasRead_recordedResult (result : Except String String) :
    wasRead (recordedResult (result.map .text)) = result := by
  cases result with
  | error message => exact recordedOutcome_error message
  | ok text => exact recordedOutcome_ok (Decode.string_eq (presents_self _))

theorem wasListed_recordedResult (result : Except String (List String)) :
    wasListed (recordedResult (result.map fun names => .array (names.map .text))) = result := by
  cases result with
  | error message => exact recordedOutcome_error message
  | ok names =>
    exact recordedOutcome_ok
      (Decode.list_eq (fun _ _ _ => Decode.string_eq) (presents_self (.array (names.map .text))))

theorem recordedTime_text (t : Instant) : recordedTime (.text t.text) = .ok t := by
  rw [recordedTime, Decode.instant_eq (presents_self (.text t.text))]
  rfl

end Cadastre
