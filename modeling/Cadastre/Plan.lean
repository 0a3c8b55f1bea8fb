import Cadastre.Log.Entry
import Cadastre.Time.Instant

/-!
# Plans

A plan is a piece of work that asks the world around it: for files and directories, for the time,
and to be heard. It says what it asks next and how it goes on after each possible answer, and
nothing about how the world finds its answers. A world is a state and a way to answer; running a
plan in it gives the outcome, the last state, and everything that was asked, in order. The main
statements say that running one plan after another is running both.
-/

namespace Cadastre

/-- What a plan can ask. -/
inductive Request where
  /-- Whether something is at a path. -/
  | probe (path : String)
  /-- Whether a file is at a path. -/
  | isFile (path : String)
  /-- The text of a file. -/
  | read (path : String)
  /-- The text of a file up to the first line that is no text. -/
  | readStart (path : String)
  /-- The names in a directory. -/
  | list (path : String)
  /-- To put a text into a file. -/
  | write (path text : String)
  /-- The time. -/
  | now
  /-- To put an entry into the log. -/
  | log (entry : Log.Entry)
  /-- To print a text. -/
  | print (text : String)
  /-- To give up. -/
  | abort (message : String)
deriving DecidableEq

namespace Request

/-- What a request is answered with; a request that can fail is answered with a message if it
does, and giving up is not answered. -/
def Answer : Request → Type
  | probe _ => Bool
  | isFile _ => Bool
  | read _ => Except String String
  | readStart _ => Except String String
  | list _ => Except String (List String)
  | write _ _ => Except String Unit
  | now => Instant
  | log _ => Unit
  | print _ => Unit
  | abort _ => Empty

end Request

/-- A piece of work with an outcome. -/
inductive Plan (α : Type) where
  /-- Nothing is left to ask. -/
  | done (outcome : α)
  /-- A request, and how the work goes on. -/
  | ask (request : Request) (next : request.Answer → Plan α)

namespace Plan

variable {α β γ : Type}

/-- One plan, and then another one that depends on its outcome. -/
def bind (p : Plan α) (f : α → Plan β) : Plan β :=
  match p with
  | done a => f a
  | ask q k => ask q fun r => (k r).bind f

instance : Monad Plan where
  pure := done
  bind := bind

/-- A request as a plan. -/
def request (q : Request) : Plan q.Answer := ask q done

/-- Whether something is at a path. -/
def probe (path : String) : Plan Bool := request (.probe path)

/-- Whether a file is at a path. -/
def isFile (path : String) : Plan Bool := request (.isFile path)

/-- The text of a file. -/
def read (path : String) : Plan (Except String String) := request (.read path)

/-- The text of a file up to the first line that is no text. -/
def readStart (path : String) : Plan (Except String String) := request (.readStart path)

/-- The names in a directory. -/
def list (path : String) : Plan (Except String (List String)) := request (.list path)

/-- Puts a text into a file. -/
def write (path text : String) : Plan (Except String Unit) := request (.write path text)

/-- The time. -/
def now : Plan Instant := request .now

/-- Puts an entry into the log. -/
def log (entry : Log.Entry) : Plan Unit := request (.log entry)

/-- Prints a text. -/
def print (text : String) : Plan Unit := request (.print text)

/-- Gives up. -/
def abort (message : String) : Plan α := ask (.abort message) fun r => nomatch r

theorem done_bind (a : α) (f : α → Plan β) : (done a).bind f = f a := rfl

theorem bind_done (p : Plan α) : p.bind done = p := by
  induction p with
  | done a => rfl
  | ask q k ih => simp only [bind]; congr 1; funext r; exact ih r

theorem bind_assoc (p : Plan α) (f : α → Plan β) (g : β → Plan γ) :
    (p.bind f).bind g = p.bind fun a => (f a).bind g := by
  induction p with
  | done a => rfl
  | ask q k ih => simp only [bind]; congr 1; funext r; exact ih r

/-! ## Running -/

/-- A way to answer requests that depends on a state; no answer is given where the world gives up,
for a reason. -/
abbrev World (σ : Type) := (q : Request) → σ → Except String q.Answer × σ

/-- What running a plan gives. -/
structure Run (σ α : Type) where
  /-- The outcome, or why the world gave up. -/
  outcome : Except String α
  /-- The state at the end. -/
  state : σ
  /-- The requests, in order. -/
  requests : List Request

/-- Runs a plan in a world from a state on. -/
def run {σ : Type} (world : World σ) : Plan α → σ → Run σ α
  | done a, s => ⟨.ok a, s, []⟩
  | ask q k, s =>
    match world q s with
    | (.ok r, s) =>
      let rest := run world (k r) s
      { rest with requests := q :: rest.requests }
    | (.error message, s) => ⟨.error message, s, [q]⟩

/-- The run of a second plan, after a first one that ended in a state with requests made. -/
def Run.andThen {σ : Type} (world : World σ) (r : Run σ α) (f : α → Plan β) : Run σ β :=
  match r.outcome with
  | .ok a =>
    let rest := run world (f a) r.state
    { rest with requests := r.requests ++ rest.requests }
  | .error message => ⟨.error message, r.state, r.requests⟩

/-- Running one plan and then another is running the second from where the first ended. -/
theorem run_bind {σ : Type} (world : World σ) (p : Plan α) (f : α → Plan β) (s : σ) :
    run world (p.bind f) s = (run world p s).andThen world f := by
  induction p generalizing s with
  | done a => simp [bind, run, Run.andThen]
  | ask q k ih =>
    simp only [bind, run]
    cases h : world q s with
    | mk r s' =>
      cases r with
      | error m => simp [Run.andThen]
      | ok r =>
        simp only [ih r s', Run.andThen]
        cases (run world (k r) s').outcome <;> rfl

end Plan

/-! ## What was asked -/

namespace Request

/-- What the requests print. -/
def printed (requests : List Request) : String :=
  String.join <| requests.filterMap fun
    | print text => some text
    | _ => none

/-- The entries that the requests put into the log. -/
def logged (requests : List Request) : List Log.Entry :=
  requests.filterMap fun
    | log entry => some entry
    | _ => none

end Request

end Cadastre
