import Cadastre.Decode.JsonSource
import Cadastre.Proofs.Decode.Presented
import Cadastre.Proofs.Json.RoundTrip

/-!
# JSON presents its values

A held value presents itself. The draft of a value presents that value, so a text that holds the
value is read as whatever the value is read as.
-/

namespace Cadastre.Json

open Decode

/-! ## Drafts -/

theorem keepsRead_draft (d : Draft) : KeepsRead d := fun _ => rfl

theorem readChoice_text {s : String} {names : List String} (h : s ∈ names) :
    Draft.readChoice names (.text s) = .ok s := by
  rw [Draft.readChoice, Draft.checkChoice, if_pos (List.contains_iff_mem.2 h)]

theorem readNatural_whole {n : Int} {bound : Nat} (expected : String) (h0 : 0 ≤ n) (h : n < bound) :
    Draft.readNatural expected bound (.number (.whole n)) = .ok n.toNat := by
  simp [Draft.readNatural, h0, h]

mutual

/-- The draft of a value presents the value. -/
theorem presents_toDraft : ∀ v : Json, Presents v.toDraft v
  | .null => rfl
  | .bool _ => rfl
  | .number (.whole n) => by
    intro expected bound h0 h
    show (Draft.readNatural expected bound (.number (.whole n))).plain = pure n.toNat
    rw [readNatural_whole expected h0 h]
    rfl
  | .number (.real _) => trivial
  | .text s => by
    refine ⟨fun _ => rfl, rfl, fun names h => ?_⟩
    show (Draft.readChoice names (.text s)).plain = pure s
    rw [readChoice_text h]
    rfl
  | .array items => ⟨_, rfl, keepsRead_draft _, presentItems_toDraft items⟩
  | .object members => ⟨_, fun _ => rfl, keepsRead_draft _, presentMembers_toDraft members⟩

/-- The drafts of a list of values present the values. -/
theorem presentItems_toDraft : ∀ vs : List Json, PresentItems (itemsToDraft vs) vs
  | [] => rfl
  | v :: vs => ⟨_, _, rfl, presents_toDraft v, presentItems_toDraft vs⟩

/-- The drafts of a list of members present the members. -/
theorem presentMembers_toDraft : ∀ ms : List (String × Json), PresentMembers (membersToDraft ms) ms
  | [] => rfl
  | (_, v) :: ms => ⟨_, _, _, rfl, rfl, presents_toDraft v, presentMembers_toDraft ms⟩

end

/-! ## Held values -/

theorem keepsRead_self (v : Json) : KeepsRead v := fun _ => rfl

mutual

/-- A held value presents itself. -/
theorem presents_self : ∀ v : Json, Presents v v
  | .null => rfl
  | .bool _ => rfl
  | .number (.whole n) => by
    intro expected bound h0 h
    show (Draft.readNatural expected bound (.number (.whole n))).plain = pure n.toNat
    rw [readNatural_whole expected h0 h]
    rfl
  | .number (.real _) => trivial
  | .text s => by
    refine ⟨fun _ => rfl, rfl, fun names h => ?_⟩
    show (Draft.readChoice names (.text s)).plain = pure s
    rw [readChoice_text h]
    rfl
  | .array items => ⟨_, rfl, keepsRead_self _, presentItems_self items⟩
  | .object members => ⟨_, fun _ => rfl, keepsRead_self _, presentMembers_self members⟩

theorem presentItems_self : ∀ vs : List Json, PresentItems vs vs
  | [] => rfl
  | v :: vs => ⟨_, _, rfl, presents_self v, presentItems_self vs⟩

theorem presentMembers_self : ∀ ms : List (String × Json),
    PresentMembers (ms.map fun (k, v) => (.text k, v)) ms
  | [] => rfl
  | (_, v) :: ms => ⟨_, _, _, rfl, rfl, presents_self v, presentMembers_self ms⟩

end

/-! ## Texts -/

/-- A value that any format reads as `a` is read as `a` from its own text. -/
theorem decodeString_pretty {α : Type} {read : Draft → Decoding α} {v : Json} {a : α}
    (hv : HasWords v) (hread : ∀ x, Presents x v → read x = pure a) :
    decodeString read (v.pretty ++ "\n") = .ok a := by
  simp only [decodeString, document_ofString_pretty hv, hread _ (presents_toDraft v)]
  rfl

end Cadastre.Json
