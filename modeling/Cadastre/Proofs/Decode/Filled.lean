import Cadastre.Decode.YamlSource
import Mathlib.Data.List.Basic

/-!
# What a record has been read from

A record that could be read was filled from the values under its keys: each key is the name of a
field, no name comes twice, and a field that may be left out has been set by the value under its own
name and by no other.
-/

namespace Cadastre.Decode

variable {σ α β : Type}

/-! ## Outcomes of reading -/

/-- Reading ends with a value, with some number of references that may be followed. -/
def Yields (d : Decoding α) (a : α) : Prop := ∃ before after, d before = .ok (a, after)

theorem yields_bind {d : Decoding α} {k : α → Decoding β} {b : β} (h : Yields (d >>= k) b) :
    ∃ a, Yields d a ∧ Yields (k a) b := by
  obtain ⟨before, after, h⟩ := h
  cases hd : d before with
  | error f =>
    have herror : (d >>= k) before = .error f := by
      show (d before >>= fun p => k p.1 p.2) = _
      rw [hd]
      rfl
    rw [herror] at h
    cases h
  | ok p =>
    obtain ⟨a, rest⟩ := p
    have hok : (d >>= k) before = k a rest := by
      show (d before >>= fun p => k p.1 p.2) = _
      rw [hd]
      rfl
    exact ⟨a, ⟨before, rest, hd⟩, rest, after, hok ▸ h⟩

theorem yields_pure {a b : α} (h : Yields (pure a) b) : a = b := by
  obtain ⟨before, after, h⟩ := h
  exact congrArg Prod.fst (Except.ok.inj h)

theorem yields_map {d : Decoding α} {f : α → β} {b : β} (h : Yields (f <$> d) b) :
    ∃ a, Yields d a ∧ f a = b := by
  rw [map_eq_pure_bind] at h
  obtain ⟨a, ha, hb⟩ := yields_bind h
  exact ⟨a, ha, yields_pure hb⟩

theorem not_yields_fail {f : Failure} {a : α} : ¬ Yields (Decoding.fail f) a := by
  rintro ⟨before, after, h⟩
  cases h

theorem not_yields_refuse {m : Mismatch} {a : α} : ¬ Yields (Decoding.refuse m) a := by
  rintro ⟨before, after, h⟩
  cases h

theorem yields_faultless {fault : Option Failure} {a b : α} (h : Yields (faultless fault a) b) :
    a = b := by
  cases fault with
  | none => exact yields_pure h
  | some f => exact absurd h not_yields_fail

/-! ## Fields -/

/-- What is said under a name is what is read from the value there, and nothing is said if there is
no such name. -/
def Says (named : List (String × σ)) (name : String) (read : σ → Decoding β) : Option β → Prop
  | none => ∀ s, (name, s) ∉ named
  | some b => ∃ s, (name, s) ∈ named ∧ Yields (read s) b

/-- A field sets a part of the record if it has its name, and leaves the part as it is if not. -/
structure Field.Sets (f : Field σ α) (name : String) (read : σ → Decoding β)
    (part : α → Option β) : Prop where
  own : f.name = name → ∀ s a b, Yields (f.put s a) b → ∃ v, Yields (read s) v ∧ part b = some v
  other : f.name ≠ name → ∀ s a b, Yields (f.put s a) b → part b = part a

section Field

variable {γ : Type} {name other : String} {read : σ → Decoding β} {readOther : σ → Decoding γ}
  {part : α → Option β}

theorem sets_own {set : β → α → α} (hpart : ∀ v a, part (set v a) = some v) :
    (optionalField name read set).Sets name read part := by
  refine ⟨fun _ s a b h => ?_, fun hne => absurd rfl hne⟩
  obtain ⟨v, hv, rfl⟩ := yields_map h
  exact ⟨v, hv, hpart v a⟩

theorem sets_other {set : γ → α → α} (hname : other ≠ name)
    (hpart : ∀ v a, part (set v a) = part a) :
    (optionalField other readOther set).Sets name read part := by
  refine ⟨fun hsame => absurd hsame hname, fun _ s a b h => ?_⟩
  obtain ⟨v, -, rfl⟩ := yields_map h
  exact hpart v a

end Field

/-! ## Records -/

/-- Named values, put one after the other into a record, give another record. -/
inductive Filled (shape : Shape σ α) : List (String × σ) → α → α → Prop
  /-- Nothing is left to put. -/
  | done (a : α) : Filled shape [] a a
  /-- The field of the first name takes its value. -/
  | put {f : Field σ α} {s : σ} {named : List (String × σ)} {a b c : α} (hf : f ∈ shape.fields)
      (hput : Yields (f.put s a) b) (hrest : Filled shape named b c) :
      Filled shape ((f.name, s) :: named) a c

variable {shape : Shape σ α} {named : List (String × σ)} {a b : α}

/-- Only the names of fields have values. -/
theorem Filled.mem_names (h : Filled shape named a b) :
    ∀ entry ∈ named, entry.1 ∈ shape.fields.map Field.name := by
  induction h with
  | done a => simp
  | put hf hput hrest ih =>
    rw [List.forall_mem_cons]
    exact ⟨List.mem_map_of_mem hf, ih⟩

/-- A part that each field sets or leaves as it is has been read from the value under its name, or
is as before. -/
theorem Filled.part_eq {name : String} {read : σ → Decoding β} {part : α → Option β}
    (h : Filled shape named a b) (hsets : ∀ f ∈ shape.fields, f.Sets name read part) :
    (∃ s v, (name, s) ∈ named ∧ Yields (read s) v ∧ part b = some v) ∨
      (∀ s, (name, s) ∉ named) ∧ part b = part a := by
  induction h with
  | done a => exact .inr ⟨fun s => List.not_mem_nil, rfl⟩
  | @put f s named a b c hf hput hrest ih =>
    rcases ih with ⟨t, v, hmem, hread, hpart⟩ | ⟨hnone, hpart⟩
    · exact .inl ⟨t, v, List.mem_cons_of_mem _ hmem, hread, hpart⟩
    · by_cases hname : f.name = name
      · obtain ⟨v, hread, hv⟩ := (hsets f hf).own hname s a b hput
        exact .inl ⟨s, v, hname ▸ List.mem_cons_self, hread, hpart.trans hv⟩
      · refine .inr ⟨fun t ht => ?_, hpart.trans ((hsets f hf).other hname s a b hput)⟩
        rcases List.mem_cons.1 ht with heq | hmem
        · exact hname (congrArg Prod.fst heq).symm
        · exact hnone t hmem

/-- A part that is not set before any field is read says what stands under its name. -/
theorem Filled.says {name : String} {read : σ → Decoding β} {part : α → Option β}
    (h : Filled shape named a b) (hsets : ∀ f ∈ shape.fields, f.Sets name read part)
    (hblank : part a = none) : Says named name read (part b) := by
  rcases h.part_eq hsets with ⟨s, v, hmem, hread, hpart⟩ | ⟨hnone, hpart⟩
  · rw [hpart]
    exact ⟨s, hmem, hread⟩
  · rw [hpart, hblank]
    exact hnone

variable [Source σ]

/-- Values have the names that their keys are read as. -/
def Named (members : List (σ × σ)) (named : List (String × σ)) : Prop :=
  List.Forall₂ (fun member entry => Yields (Source.key member.1) entry.1 ∧ member.2 = entry.2)
    members named

/-- The values of a record that refuses other fields have been put under their names, none of them
twice or seen before. -/
theorem filled_of_putNamed {fault : Option Failure} {members : List (σ × σ)} {seen : List String}
    {outcome : List String × α} (hlocated : ∀ (s : σ) (d : Decoding (List String × α)) x,
      Yields (Source.located s d) x → Yields d x) (hstrict : shape.strict = true)
    (h : Yields (putNamed shape fault members seen a) outcome) :
    ∃ named, Named members named ∧ Filled shape named a outcome.2 ∧
      (named.map Prod.fst).Nodup ∧ ∀ entry ∈ named, entry.1 ∉ seen := by
  induction members generalizing seen a with
  | nil =>
    obtain rfl := yields_faultless h
    exact ⟨[], .nil, .done a, List.nodup_nil, by simp⟩
  | cons member members ih =>
    obtain ⟨key, s⟩ := member
    rw [putNamed] at h
    obtain ⟨name, hkey, h⟩ := yields_bind h
    cases hfind : shape.fields.find? fun f => f.name == name with
    | none =>
      simp only [hfind, hstrict, if_true] at h
      exact absurd (hlocated key _ _ h) not_yields_refuse
    | some f =>
      obtain rfl : f.name = name := by simpa using List.find?_some hfind
      simp only [hfind] at h
      split at h
      · exact absurd h not_yields_refuse
      · next hnew =>
        obtain ⟨b, hput, h⟩ := yields_bind h
        obtain ⟨named, hnamed, hfilled, hnodup, hseen⟩ := ih h
        refine ⟨(f.name, s) :: named, .cons ⟨hkey, rfl⟩ hnamed,
          .put (List.mem_of_find?_eq_some hfind) hput hfilled, ?_, ?_⟩
        · rw [List.map_cons, List.nodup_cons]
          refine ⟨fun hmem => ?_, hnodup⟩
          obtain ⟨entry, hentry, hsame⟩ := List.mem_map.1 hmem
          exact hseen entry hentry (hsame ▸ List.mem_cons_self)
        · rw [List.forall_mem_cons]
          refine ⟨by simpa using hnew, fun entry hentry hmem => ?_⟩
          exact hseen entry hentry (List.mem_cons_of_mem _ hmem)

/-- A record with values under keys that refuses other fields has been filled from them. -/
theorem filled_of_record {s : σ} (hlocated : ∀ {β : Type} (s : σ) (d : Decoding β) x,
      Yields (Source.located s d) x → Yields d x)
    (hnamed : ∀ expected entries, Yields (Source.entries expected s) entries →
      ∃ members fault, entries = .named members fault)
    (hstrict : shape.strict = true) (h : Yields (record shape s) a) :
    ∃ expected members fault named,
      Yields (Source.entries expected s) (.named members fault) ∧ Named members named ∧
        Filled shape named shape.blank a ∧ (named.map Prod.fst).Nodup := by
  obtain ⟨entries, hread, h⟩ := yields_bind h
  obtain ⟨members, fault, rfl⟩ := hnamed _ entries hread
  obtain ⟨⟨seen, b⟩, hput, h⟩ := yields_bind (hlocated s _ _ h)
  obtain ⟨named, hnamed, hfilled, hnodup, -⟩ := filled_of_putNamed hlocated hstrict hput
  have hcomplete : b = a := by
    simp only [complete] at h
    split at h
    · exact absurd h not_yields_refuse
    · exact yields_pure h
  exact ⟨_, members, fault, named, hread, hnamed, hcomplete ▸ hfilled, hnodup⟩

end Cadastre.Decode

/-! ## YAML -/

namespace Cadastre.Yaml

open Decode

theorem yields_of_located {α : Type} (p : Place) (d : Decoding α) (a : α)
    (h : Yields (Source.located p d) a) : Yields d a := by
  obtain ⟨before, after, h⟩ := h
  refine ⟨before, after, ?_⟩
  have hlocated : locatedAt p.resolved.location (d before) = .ok (a, after) := h
  cases hd : d before with
  | error f =>
    rw [hd] at hlocated
    cases hlocated
  | ok out =>
    rw [hd] at hlocated
    exact hlocated

theorem resolved_of_yields_follow {p q : Place} (h : Yields p.follow q) : q = p.resolved := by
  obtain ⟨before, after, h⟩ := h
  obtain ⟨anchored, unformed, depth, path, node⟩ := p
  cases node <;> cases before <;> cases h <;> rfl

/-- The values in the mapping at the root of a text, each with the name that its key is read as; an
empty text has none. -/
def HasEntries (text : String) (named : List (String × Place)) : Prop :=
  let root := (Document.ofString text).place.resolved
  (isVoid root.node = true ∧ named = []) ∨
    ∃ mark tag entries closed, root.node = .mapping mark tag entries closed ∧
      Named (entries.map fun (k, v) => (root.key k, root.value k v)) named

theorem exists_unexpected_eq {α : Type} (expected : String) (p : Place) :
    ∃ f, unexpected (α := α) expected p = .error f := by
  unfold unexpected
  split
  · next tag style text _ =>
    cases scalarMeaning tag style text with
    | error f => exact ⟨f, rfl⟩
    | ok meaning => exact ⟨_, rfl⟩
  all_goals exact ⟨_, rfl⟩

/-- The values of a record are those of a mapping, or none. -/
theorem entries_of_yields {expected : String} {p : Place} {entries : Entries Place}
    (h : Yields (Source.entries expected p) entries) :
    (isVoid p.resolved.node = true ∧ entries = .named [] none) ∨
      ∃ mark tag members closed, p.resolved.node = .mapping mark tag members closed ∧
        entries = .named (members.map fun (k, v) => (p.resolved.key k, p.resolved.value k v))
          (p.resolved.failureOf closed) := by
  obtain ⟨q, hq, h⟩ := yields_bind h
  obtain rfl := resolved_of_yields_follow hq
  split at h
  · next mark tag members closed hnode =>
    exact .inr ⟨mark, tag, members, closed, hnode, (yields_pure h).symm⟩
  · split at h
    · next hvoid => exact .inl ⟨hvoid, (yields_pure h).symm⟩
    · obtain ⟨f, hf⟩ := exists_unexpected_eq (α := Entries Place) expected p.resolved
      rw [hf] at h
      exact absurd (yields_of_located _ _ _ h) not_yields_fail

/-- What has been read from a text has been read from its root. -/
theorem yields_of_decodeString {α : Type} {read : Place → Decoding α} {text : String} {a : α}
    (h : decodeString read text = .ok a) : Yields (read (Document.ofString text).place) a := by
  unfold decodeString at h
  dsimp only at h
  cases hread : (read (Document.ofString text).place) (Document.ofString text).budget with
  | error f =>
    rw [Decoding.within, hread] at h
    cases h
  | ok out =>
    obtain ⟨b, rest⟩ := out
    rw [Decoding.within, hread] at h
    refine ⟨_, rest, hread.trans ?_⟩
    dsimp only [Except.map, Except.bind] at h
    split at h
    · rw [Except.ok.inj h]
    · cases h

variable {α : Type} {shape : Shape Place α} {text : String} {a : α}

/-- A record that refuses other fields has been filled from the mapping at the root of its text. -/
theorem filled_of_decodeString (hstrict : shape.strict = true)
    (h : decodeString (record shape) text = .ok a) :
    ∃ named, HasEntries text named ∧ Filled shape named shape.blank a ∧
      (named.map Prod.fst).Nodup := by
  have hnamed : ∀ expected entries,
      Yields (Source.entries expected (Document.ofString text).place) entries →
        ∃ members fault, entries = .named members fault := by
    intro expected entries hentries
    rcases entries_of_yields hentries with ⟨-, hnone⟩ | ⟨_, _, members, closed, -, hmapping⟩
    · exact ⟨_, _, hnone⟩
    · exact ⟨_, _, hmapping⟩
  obtain ⟨_, members, fault, named, hread, hnames, hfilled, hnodup⟩ :=
    filled_of_record yields_of_located hnamed hstrict (yields_of_decodeString h)
  refine ⟨named, ?_, hfilled, hnodup⟩
  rcases entries_of_yields hread with ⟨hvoid, hnone⟩ | ⟨mark, tag, entries, closed, hnode, hmapping⟩
  · obtain ⟨rfl, -⟩ := Entries.named.inj hnone
    cases hnames
    exact .inl ⟨hvoid, rfl⟩
  · obtain ⟨rfl, -⟩ := Entries.named.inj hmapping
    exact .inr ⟨mark, tag, entries, closed, hnode, hnames⟩

end Cadastre.Yaml
