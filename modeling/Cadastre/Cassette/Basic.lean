import Cadastre.Decode.JsonSource
import Cadastre.Decode.YamlSource
import Cadastre.Plan
import Cadastre.Time.Writer

/-!
# Cassettes

A cassette is a recording of what a scan asked of the world around it and what it was answered, so
that the scan can be played again without that world. It is written by hand in YAML, and loaded from
a file.
-/

namespace Cadastre

/-- A recorded call and its answer. -/
structure Interaction where
  /-- The position in the recording. -/
  seq : Nat
  /-- Which part of the world was asked. -/
  part : String
  /-- What was asked of it. -/
  method : String
  /-- The arguments, for readers only. -/
  input : Json
  /-- The answer. -/
  output : Json
deriving Repr

/-- A recording. -/
structure Cassette where
  /-- The name. -/
  name : String
  /-- When it was recorded. -/
  recordedAt : Instant
  /-- The calls in their order. -/
  interactions : List Interaction

/-- An interaction as a saved value. -/
def Interaction.toJson (i : Interaction) : Json :=
  .object
    [ ("seq", .number (.whole i.seq)), ("port", .text i.part), ("method", .text i.method),
      ("input", i.input), ("output", i.output) ]

/-- A cassette as a saved value. -/
def Cassette.toJson (c : Cassette) : Json :=
  .object
    [ ("name", .text c.name), ("recorded_at", .text c.recordedAt.text),
      ("interactions", .array (c.interactions.map Interaction.toJson)) ]

/-- Equality of interactions. -/
def Interaction.same (a b : Interaction) : Bool :=
  a.seq == b.seq && a.part == b.part && a.method == b.method && a.input.same b.input &&
    a.output.same b.output

/-- Equality of cassettes. -/
def Cassette.same (a b : Cassette) : Bool :=
  a.name == b.name && a.recordedAt == b.recordedAt &&
    a.interactions.length == b.interactions.length &&
    (a.interactions.zip b.interactions).all fun (x, y) => x.same y

section

open Decode

variable {σ : Type} [Source σ]

/-- How an interaction is read. -/
def Interaction.shape : Shape σ Interaction where
  name := "Interaction"
  fields :=
    [ field "seq" (Source.natural "u64" (Nat.pow 2 64)) fun v i => { i with seq := v },
      field "port" string fun v i => { i with part := v },
      field "method" string fun v i => { i with method := v },
      optionalField "input" Source.any fun v i => { i with input := v },
      field "output" Source.any fun v i => { i with output := v } ]
  blank := ⟨0, "", "", .null, .null⟩

/-- How a cassette is read. -/
def Cassette.shape : Shape σ Cassette where
  name := "Cassette"
  fields :=
    [ field "name" string fun v c => { c with name := v },
      field "recorded_at" instant fun v c => { c with recordedAt := v },
      field "interactions" (list (record Interaction.shape))
        fun v c => { c with interactions := v } ]
  blank := ⟨"", Instant.epoch, []⟩

/-- A cassette read from a saved value. -/
def Cassette.decode (s : σ) : Decoding Cassette := record Cassette.shape s

end

/-- A cassette read from a YAML text. -/
def Cassette.decodeText (text : String) : Decoded Cassette :=
  Yaml.decodeString Cassette.decode text

/-! ## Loading -/

/-- Why a cassette cannot be loaded. -/
inductive CassetteFailure where
  /-- The file cannot be read. -/
  | reading (path message : String)
  /-- The text is no cassette. -/
  | parsing (path : String) (failure : Failure)

/-- The failure in words. -/
def CassetteFailure.text : CassetteFailure → String
  | reading path message => s!"failed to read cassette {path}: {message}"
  | parsing path failure => s!"failed to parse cassette {path}: {failure.text}"

/-- The cassette in a file. -/
def Cassette.load (path : String) : Plan (Except CassetteFailure Cassette) := do
  match ← Plan.read path with
  | .error message => pure (.error (.reading path message))
  | .ok text =>
    match Cassette.decodeText text with
    | .error failure => pure (.error (.parsing path failure))
    | .ok c => pure (.ok c)

end Cadastre
