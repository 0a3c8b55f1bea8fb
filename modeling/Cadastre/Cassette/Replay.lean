import Cadastre.Cassette.Reel
import Cadastre.Plan

/-!
# A world from a cassette

A plan can be run on a cassette in place of the world: files are answered by one player and the time
by another, each with the whole recording. Only the order within one method counts, and the
arguments do not. A player that is asked for what is not there breaks, and from then on refuses
every question; the other player does not notice.
-/

namespace Cadastre

/-- A reel, and whether it was once asked for what it does not have. -/
structure Player where
  /-- The reel. -/
  reel : Reel
  /-- Whether the player is broken. -/
  broken : Bool := false

/-- Why a player gives no answer. -/
inductive Refusal where
  /-- The reel has no answer. -/
  | exhausted (cause : Exhausted)
  /-- The player was broken before. -/
  | broken

/-- The refusal in words. -/
def Refusal.text : Refusal → String
  | exhausted cause => cause.text
  | broken => "replayer lock poisoned: PoisonError \x7b .. \x7d"

/-- The answer to a question from a player. -/
def Player.next (p : Player) (q : Question) : Except Refusal Json × Player :=
  if p.broken then (.error .broken, p)
  else
    match p.reel.next q with
    | (.ok i, reel) => (.ok i.output, { p with reel := reel })
    | (.error cause, reel) => (.error (.exhausted cause), { reel := reel, broken := true })

/-- The two players of a cassette. -/
structure Players where
  /-- The player that answers for files and directories. -/
  files : Player
  /-- The player that answers for the time. -/
  clock : Player

/-- The players of a cassette from its beginning. -/
def Cassette.players (c : Cassette) : Players := ⟨{ reel := c.reel }, { reel := c.reel }⟩

/-! ## Recorded answers -/

/-- The recorded failure of a call that can fail. -/
def recordedError? (output : Json) : Option String :=
  (output.member? "err").map fun e => e.text?.getD "unknown error"

/-- The outcome that was recorded for a call: an object with `err` stands for a failure, one with
`ok` for the value under it, and anything else for itself. -/
def recordedOutcome {α : Type} (call : String) (read : Json → Decoding α) (output : Json) :
    Except String α :=
  match recordedError? output with
  | some message => .error message
  | none =>
    match (read ((output.member? "ok").getD output)).within 0 with
    | .ok a => .ok a
    | .error failure => .error s!"{call}: failed to deserialize: {failure.text}"

namespace Question

/-- Whether something is at a path. -/
def probe : Question := ⟨"fs", "exists"⟩

/-- The text of a file. -/
def read : Question := ⟨"fs", "read_to_string"⟩

/-- The names in a directory. -/
def list : Question := ⟨"fs", "list_dir"⟩

/-- To put a text into a file. -/
def write : Question := ⟨"fs", "write"⟩

/-- The time. -/
def now : Question := ⟨"clock", "now"⟩

end Question

/-- The recorded outcome of looking whether something is there. -/
def probed (output : Json) : Except String Bool :=
  recordedOutcome "fs::exists" Source.bool output

/-- The recorded outcome of reading. -/
def wasRead (output : Json) : Except String String :=
  recordedOutcome "fs::read_to_string" Decode.string output

/-- The recorded outcome of listing. -/
def wasListed (output : Json) : Except String (List String) :=
  recordedOutcome "fs::list_dir" (Decode.list Decode.string) output

/-- The recorded outcome of writing. -/
def wasWritten (output : Json) : Except String Unit :=
  (recordedError? output).elim (.ok ()) .error

/-- The recorded time. -/
def recordedTime (output : Json) : Except String Instant :=
  match (Decode.instant output).within 0 with
  | .ok t => .ok t
  | .error _ => .error "clock::now: failed to deserialize DateTime<Utc>"

/-! ## The world -/

namespace Players

/-- An answer for files and directories, in place of the world's. -/
def fromFiles {α : Type} (p : Players) (q : Question) (answer : Json → α) :
    Except String α × Players :=
  match p.files.next q with
  | (.ok output, player) => (.ok (answer output), { p with files := player })
  | (.error refusal, player) => (.error refusal.text, { p with files := player })

/-- An answer for the time; a recorded time that is none gives up, but breaks nothing. -/
def fromClock (p : Players) : Except String Instant × Players :=
  match p.clock.next .now with
  | (.ok output, player) => (recordedTime output, { p with clock := player })
  | (.error refusal, player) => (.error refusal.text, { p with clock := player })

/-- Whether something was there; what cannot be read counts as missing. -/
def wasThere (output : Json) : Bool := (probed output).toOption.getD false

/-- The world of a cassette; what is not recorded is answered at once. -/
def world : Plan.World Players
  | .probe _, p => p.fromFiles .probe wasThere
  | .read _, p => p.fromFiles .read wasRead
  | .readStart _, p => (.ok (.ok ""), p)
  | .list _, p => p.fromFiles .list wasListed
  | .write _ _, p => p.fromFiles .write wasWritten
  | .now, p => p.fromClock
  | .isFile _, p => (.ok false, p)
  | .log _, p => (.ok (), p)
  | .print _, p => (.ok (), p)
  | .abort message, p => (.error message, p)

end Players

/-! ## Playing a plan -/

/-- Whether a cassette can hold the answer to a request. -/
def Request.isRecorded : Request → Bool
  | probe _ => true
  | read _ => true
  | list _ => true
  | write _ _ => true
  | now => true
  | _ => false

/-- The entry of the log about a recorded answer that counts as missing because it cannot be
read. -/
def Players.complaint? (p : Players) : Request → Option Log.Entry
  | .probe _ =>
    match p.files.next .probe with
    | (.ok output, _) =>
      match probed output with
      | .ok _ => none
      | .error message =>
        some
          { level := .warn
            target := "docsnap::adapters::replaying::filesystem"
            message := "treating unreadable exists output as missing"
            fields := [("err", message)] }
    | _ => none
  | _ => none

namespace Plan

variable {α : Type}

/-- An entry put into the log, if there is one, before a plan. -/
def logFirst (entry : Option Log.Entry) (p : Plan α) : Plan α :=
  match entry with
  | some e => ask (.log e) fun _ => p
  | none => p

/-- A plan with the players in place of the world for everything that a cassette can hold. -/
def played : Plan α → Players → Plan α
  | done a, _ => done a
  | ask q k, p =>
    if q.isRecorded then
      logFirst (p.complaint? q) <|
        match Players.world q p with
        | (.ok r, p) => (k r).played p
        | (.error message, _) => abort message
    else ask q fun r => (k r).played p

end Plan

end Cadastre
