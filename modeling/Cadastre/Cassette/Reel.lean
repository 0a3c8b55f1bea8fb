import Cadastre.Cassette.Basic
import Cadastre.Snapshot.Order

/-!
# Playing a cassette

A reel hands out the interactions of a cassette. Each question, that is each pair of a part of the
world and a method, has its own order: asked for the k-th time, it is answered with the k-th
interaction that was recorded for it, whatever else was asked between. A question for which nothing
is left changes nothing.
-/

namespace Cadastre

/-- What is asked: the part of the world, and the method. -/
structure Question where
  /-- The part of the world. -/
  part : String
  /-- The method. -/
  method : String
deriving DecidableEq, Repr

/-- What an interaction was asked. -/
def Interaction.question (i : Interaction) : Question := ⟨i.part, i.method⟩

/-- A cassette while it is played. -/
structure Reel where
  /-- All questions that were recorded. -/
  recorded : List Question
  /-- The interactions that were not yet handed out, in their order. -/
  left : List Interaction

/-- Why a reel has no answer. -/
inductive Exhausted where
  /-- All interactions for a question were handed out. -/
  | consumed (question : Question)
  /-- A question was not recorded, but others were. -/
  | unrecorded (question : Question) (recorded : List Question)

/-- The questions of a list in ascending order as they are named in a message, each once. -/
def Question.available (recorded : List Question) : List String :=
  sortByKey id (recorded.eraseDups.map fun q => s!"{q.part}::{q.method}")

/-- The cause in words. -/
def Exhausted.text : Exhausted → String
  | consumed q =>
    s!"Cassette exhausted: all interactions for port={Text.quoted q.part} " ++
      s!"method={Text.quoted q.method} have been consumed"
  | unrecorded q recorded =>
    s!"Cassette exhausted: no interactions recorded for port={Text.quoted q.part} " ++
      s!"method={Text.quoted q.method}. Available port::method pairs: [" ++
      ", ".intercalate (Question.available recorded) ++ "]"

/-- The reel of a cassette from its beginning. -/
def Cassette.reel (c : Cassette) : Reel :=
  ⟨c.interactions.map Interaction.question, c.interactions⟩

/-- The first interaction with a question, and the others. -/
def takeFirst (q : Question) : List Interaction → Option (Interaction × List Interaction)
  | [] => none
  | i :: rest =>
    if i.question = q then some (i, rest)
    else (takeFirst q rest).map fun (found, others) => (found, i :: others)

/-- The next interaction for a question. -/
def Reel.next (r : Reel) (q : Question) : Except Exhausted Interaction × Reel :=
  match takeFirst q r.left with
  | some (i, others) => (.ok i, { r with left := others })
  | none =>
    if r.recorded.contains q then (.error (.consumed q), r)
    else (.error (.unrecorded q r.recorded), r)

end Cadastre
