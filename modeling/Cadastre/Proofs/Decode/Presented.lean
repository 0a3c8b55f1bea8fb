import Cadastre.Decode.Source
import Cadastre.Proofs.Time.RoundTrip

/-!
# Reading what a value presents

A saved value presents a JSON value if the questions that a reader can ask are answered with the
parts of that value. Every reader of this library is then determined by the JSON value alone,
whatever the format of the saved value is: lists are read item by item, and a record is filled
member by member.
-/

namespace Cadastre.Decode

variable {σ α β : Type} [Source σ]

/-! ## Values that are presented -/

/-- A value that is read gets no place. -/
def KeepsRead (x : σ) : Prop := ∀ {α : Type} (a : α), Source.located x (pure a) = pure a

mutual

/-- A saved value presents a JSON value. -/
def Presents (x : σ) : Json → Prop
  | .null => Source.optional x = pure none
  | .bool b => Source.bool x = pure b
  | .number (.whole n) =>
    ∀ expected (bound : Nat), 0 ≤ n → n < bound → Source.natural expected bound x = pure n.toNat
  | .number (.real _) => True
  | .text s =>
    (∀ expected, Source.text expected x = pure s) ∧ Source.optional x = pure (some x) ∧
      ∀ names, s ∈ names → Source.choice names x = pure s
  | .array items => ∃ xs, Source.items x = pure ⟨xs, none⟩ ∧ KeepsRead x ∧ PresentItems xs items
  | .object members =>
    ∃ ms, (∀ expected, Source.entries expected x = pure (.named ms none)) ∧ KeepsRead x ∧
      PresentMembers ms members

/-- Saved values present the JSON values of a list, one for one. -/
def PresentItems (xs : List σ) : List Json → Prop
  | [] => xs = []
  | v :: vs => ∃ x rest, xs = x :: rest ∧ Presents x v ∧ PresentItems rest vs

/-- Saved members present the members of a list, one for one and with the same keys. -/
def PresentMembers (ms : List (σ × σ)) : List (String × Json) → Prop
  | [] => ms = []
  | (k, v) :: vs =>
    ∃ key x rest, ms = (key, x) :: rest ∧ Source.key key = pure k ∧ Presents x v ∧
      PresentMembers rest vs

end

/-! ## Single values -/

variable {x : σ}

theorem string_eq {s : String} (h : Presents x (.text s)) : string x = pure s :=
  h.1 _

theorem bool_eq {b : Bool} (h : Presents x (.bool b)) : Source.bool x = pure b :=
  h

theorem status_eq {n : UInt16} (h : Presents x (.number (.whole n.toNat))) :
    status x = pure n := by
  have hlt : n.toNat < Nat.pow 2 16 := n.toNat_lt
  have hread := h "u16" (Nat.pow 2 16) (by omega) (by exact_mod_cast hlt)
  simp [status, hread]

theorem instant_eq {t : Instant} (h : Presents x (.text t.text)) : instant x = pure t := by
  simp [instant, h.1, Instant.ofString?_text]

theorem optional_eq {s : String} (h : Presents x (.text s)) :
    optional string x = pure (some s) := by
  simp [optional, h.2.1, string_eq h]

/-- One of some values is found by its name, if it is the first one with that name. -/
theorem oneOf_eq {name : α → String} {values : List α} {a : α}
    (hfind : values.find? (fun v => name v == name a) = some a)
    (h : Presents x (.text (name a))) : oneOf name values x = pure a := by
  have hmem : name a ∈ values.map name := List.mem_map_of_mem (List.mem_of_find?_eq_some hfind)
  simp [oneOf, h.2.2 _ hmem, hfind]

/-! ## Lists -/

theorem mapM_eq {read : σ → Decoding α} {toJson : α → Json} {as : List α}
    (hread : ∀ a ∈ as, ∀ x, Presents x (toJson a) → read x = pure a) :
    ∀ {xs : List σ}, PresentItems xs (as.map toJson) → xs.mapM read = pure as := by
  induction as with
  | nil =>
    rintro xs rfl
    rfl
  | cons a as ih =>
    rintro xs ⟨x, rest, rfl, hx, hrest⟩
    obtain ⟨ha, has⟩ := List.forall_mem_cons.1 hread
    rw [List.mapM_cons, ha x hx, pure_bind, ih has hrest, pure_bind]

/-- A list is read if each of its items is. -/
theorem list_eq {read : σ → Decoding α} {toJson : α → Json} {as : List α}
    (hread : ∀ a ∈ as, ∀ x, Presents x (toJson a) → read x = pure a)
    (h : Presents x (.array (as.map toJson))) : list read x = pure as := by
  obtain ⟨xs, hitems, hkeeps, hxs⟩ := h
  rw [list, hitems, pure_bind, mapM_eq hread hxs, pure_bind, faultless]
  exact hkeeps as

/-! ## Records -/

/-- The members of a record, put one after the other into a value, give another value; no member has
the name of an earlier one, or a name that is seen before. -/
inductive Fills (shape : Shape σ α) : List (String × Json) → List String → α → α → Prop
  /-- Nothing is left to put. -/
  | done (seen : List String) (a : α) : Fills shape [] seen a a
  /-- The field of the first member takes its value. -/
  | put {name : String} {v : Json} {f : Field σ α} {members : List (String × Json)}
      {seen : List String} {a b c : α}
      (hfind : shape.fields.find? (fun f => f.name == name) = some f)
      (hnew : seen.contains name = false)
      (hput : ∀ x, Presents x v → f.put x a = pure b)
      (hrest : Fills shape members (name :: seen) b c) :
      Fills shape ((name, v) :: members) seen a c

theorem putNamed_eq {shape : Shape σ α} {members : List (String × Json)} {seen : List String}
    {a b : α} (h : Fills shape members seen a b) :
    ∀ {ms : List (σ × σ)}, PresentMembers ms members →
      putNamed shape none ms seen a = pure ((members.map Prod.fst).reverse ++ seen, b) := by
  induction h with
  | done seen a =>
    rintro ms rfl
    rfl
  | put hfind hnew hput _ ih =>
    rintro ms ⟨key, x, rest, rfl, hkey, hx, hrest⟩
    rw [putNamed, hkey, pure_bind, hfind]
    simp only [hnew, hput x hx, pure_bind, ih hrest, List.map_cons, List.reverse_cons,
      List.append_assoc, List.singleton_append]
    rfl

/-- A record is read if its members fill it and every field that must be there is among them. -/
theorem record_eq {shape : Shape σ α} {members : List (String × Json)} {a : α}
    (hfills : Fills shape members [] shape.blank a)
    (hall : (shape.fields.all fun f => !f.required || (members.map Prod.fst).contains f.name) = true)
    (h : Presents x (.object members)) : record shape x = pure a := by
  obtain ⟨ms, hentries, hkeeps, hms⟩ := h
  have hnone : shape.fields.find?
      (fun f => f.required && !((members.map Prod.fst).reverse ++ []).contains f.name) = none := by
    rw [List.find?_eq_none]
    intro f hf
    have hthere := List.all_eq_true.1 hall f hf
    rw [List.append_nil, List.contains_reverse]
    cases hr : f.required with
    | false => simp
    | true => simpa [hr] using hthere
  rw [record, hentries, pure_bind]
  simp only [putNamed_eq hfills hms, pure_bind, complete, hnone]
  exact hkeeps a

omit [Source σ] in
theorem field_put {name : String} {read : σ → Decoding β} {set : β → α → α} {b : β} {a : α}
    (h : read x = pure b) : (field name read set).put x a = pure (set b a) := by
  simp [field, h]

omit [Source σ] in
theorem optionalField_put {name : String} {read : σ → Decoding β} {set : β → α → α} {b : β} {a : α}
    (h : read x = pure b) : (optionalField name read set).put x a = pure (set b a) := by
  simp [optionalField, field, h]

end Cadastre.Decode
