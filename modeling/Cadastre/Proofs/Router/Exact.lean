import Cadastre.Proofs.Router.Split
import Cadastre.Proofs.Router.Status
import Mathlib.Data.List.Forall2

/-!
# The endpoints of a text

Where a text has an endpoint is said by its heads and tails alone: an endpoint begins with a head
and ends with the first tail after it. The main statement is that the routes of a source are those of
its endpoints, found one after another, with the method, path, handler and status that are written
there.
-/

namespace Cadastre.Router

open Text

variable {cs path name rest : List Char} {m : Method} {e : Endpoint} {p q : Nat}

/-! ## Places of endpoints -/

/-- A head with its method and path stands between two places. -/
def HeadAt (cs : List Char) (p : Nat) (m : Method) (path : List Char) (q : Nat) : Prop :=
  ∃ w, IsHead m path w ∧ Stands cs w p q

/-- A tail with the name of its function stands between two places. -/
def TailAt (cs : List Char) (p : Nat) (name : List Char) (q : Nat) : Prop :=
  ∃ w, IsTail name w ∧ Stands cs w p q

/-- An endpoint stands between two places: a head, the further arguments, and the first tail at or
after the end of the head. -/
inductive EndpointAt (cs : List Char) : Nat → Endpoint → Nat → Prop where
  /-- The head ends where the arguments begin, and the tail begins where they end. -/
  | mk {p h t q : Nat} {m : Method} {path name : List Char} (hhead : HeadAt cs p m path h)
      (hle : h ≤ t) (htail : TailAt cs t name q)
      (hfirst : ∀ i n r, h ≤ i → i < t → ¬ TailAt cs i n r) :
      EndpointAt cs p ⟨m, path, (cs.drop h).take (t - h), name⟩ q

theorem headAt_iff :
    HeadAt cs p m path q ↔ head? (cs.drop p) = some (m, path, cs.drop q) ∧ q ≤ cs.length := by
  rw [head?_eq_some_iff]
  refine exists_stands_iff ?_
  rintro _ ⟨-, -, -, -, -⟩
  simp [marker]

theorem tailAt_iff :
    TailAt cs p name q ↔ tail? (cs.drop p) = some (name, cs.drop q) ∧ q ≤ cs.length := by
  rw [tail?_eq_some_iff]
  refine exists_stands_iff ?_
  rintro _ ⟨-, -, -, -, -, -, -⟩
  simp

theorem tail?_drop_eq_none_iff : tail? (cs.drop p) = none ↔ ∀ name q, ¬ TailAt cs p name q := by
  constructor
  · intro h name q htail
    rw [(tailAt_iff.1 htail).1] at h
    simp at h
  · intro h
    cases ht : tail? (cs.drop p) with
    | none => rfl
    | some found =>
      obtain ⟨name, rest⟩ := found
      obtain ⟨w, hw, hdrop⟩ := tail?_eq_some_iff.1 ht
      exact absurd ⟨w, hw, (stands_of_drop_eq hdrop).1⟩ (h name (p + w.length))

theorem firstTail?_eq :
    firstTail? cs = (firstRead? tail? cs).map fun (t, name, rest) => (cs.take t, name, rest) := by
  induction cs with
  | nil => rfl
  | cons c cs ih =>
    cases hc : tail? (c :: cs) with
    | some found => simp [firstTail?, firstRead?_cons_of_some hc, hc]
    | none => simp [firstTail?, firstRead?_cons_of_none hc, hc, ih, Function.comp_def]

/-- The reader of endpoints reads, at every place, the endpoint that stands there. -/
theorem endpointAt_iff :
    EndpointAt cs p e q ↔ endpoint? (cs.drop p) = some (e, cs.drop q) ∧ q ≤ cs.length := by
  simp only [endpoint?, firstTail?_eq, Option.bind_eq_bind, Option.bind_eq_some_iff,
    Option.map_eq_some_iff]
  constructor
  · rintro ⟨hhead, hle, htail, hfirst⟩
    rename_i h t m path name
    obtain ⟨i, rfl⟩ := Nat.exists_eq_add_of_le hle
    obtain ⟨hh, -⟩ := headAt_iff.1 hhead
    obtain ⟨ht, hq⟩ := tailAt_iff.1 htail
    have hread : firstRead? tail? (cs.drop h) = some (i, name, cs.drop q) :=
      firstRead?_drop_eq_some_iff.2
        ⟨ht, fun j hj hji => tail?_drop_eq_none_iff.2 fun n r => hfirst j n r hj hji⟩
    exact ⟨⟨_, hh, _, ⟨_, hread, rfl⟩, by simp⟩, hq⟩
  · rintro ⟨⟨⟨m, path, a⟩, hh, ⟨x, name, b⟩, ⟨⟨i, n, r⟩, ht, hx⟩, he⟩, hq⟩
    obtain ⟨w, hw, hdrop⟩ := head?_eq_some_iff.1 hh
    obtain ⟨hstands, rfl⟩ := stands_of_drop_eq hdrop
    obtain ⟨ht, hnone⟩ := firstRead?_drop_eq_some_iff.1 ht
    obtain ⟨rfl, rfl, rfl⟩ := by simpa using hx
    obtain ⟨rfl, rfl⟩ : ⟨m, path, _, n⟩ = e ∧ r = cs.drop q := by simpa using he
    have hat := EndpointAt.mk ⟨w, hw, hstands⟩ (Nat.le_add_right _ i) (tailAt_iff.2 ⟨ht, hq⟩)
      fun j n r hj hji => tail?_drop_eq_none_iff.1 (hnone j hj hji) n r
    rwa [Nat.add_sub_cancel_left] at hat

/-- An endpoint begins at every head that is followed by a tail, however far away. -/
theorem exists_endpointAt_iff :
    (∃ e q, EndpointAt cs p e q) ↔
      ∃ m path h t name q, HeadAt cs p m path h ∧ h ≤ t ∧ TailAt cs t name q := by
  constructor
  · rintro ⟨_, q, hhead, hle, htail, -⟩
    exact ⟨_, _, _, _, _, q, hhead, hle, htail⟩
  · rintro ⟨m, path, h, t, name, q, hhead, hle, htail⟩
    obtain ⟨t, hle, ⟨name, q, htail⟩, hfirst⟩ :=
      exists_first (P := fun t => ∃ name q, TailAt cs t name q) ⟨t, hle, name, q, htail⟩
    exact ⟨_, q, .mk hhead hle htail fun i n r hi hit hi' => hfirst i hi hit ⟨n, r, hi'⟩⟩

/-! ## Endpoints one after another -/

theorem exists_append_of_endpoint? (h : endpoint? cs = some (e, rest)) :
    ∃ w, w ≠ [] ∧ cs = w ++ rest := by
  have hlt := length_lt_of_endpoint? h
  obtain ⟨w, rfl, -⟩ := endpoint?_local h
  refine ⟨w, ?_, rfl⟩
  rintro rfl
  exact absurd hlt (Nat.lt_irrefl _)

theorem search?_of_firstRead? (h : firstRead? endpoint? cs = some (p, e, rest)) :
    ∃ written, written ≠ [] ∧ cs.drop p = written ++ rest ∧
      search? cs = some (cs.take p, e, written, rest) := by
  obtain ⟨he, hnone⟩ := firstRead?_eq_some_iff.1 h
  obtain ⟨w, hne, hw⟩ := exists_append_of_endpoint? he
  refine ⟨w, hne, hw, search?_eq_some_iff.2 ⟨?_, hw ▸ he, fun i hi => hnone i ?_⟩⟩
  · rw [← hw, List.take_append_drop]
  · exact Nat.lt_of_lt_of_le hi (List.length_take_le _ _)

theorem spans_of_firstRead?_eq_none (h : firstRead? endpoint? cs = none) : spans cs = (cs, []) :=
  spans_of_none (search?_eq_none fun i _ => firstRead?_eq_none_iff.1 h i)

/-- The endpoints that are found one after another are those with spans. -/
theorem successive_endpointAt_iff {found : List Endpoint} :
    Successive (EndpointAt cs) 0 found ↔ found = (spans cs).2.map Prod.fst := by
  refine successive_iff_of_firstRead? (fun cs => (spans cs).2.map Prod.fst)
    (fun _ _ _ => endpointAt_iff) exists_append_of_endpoint? ?_ ?_
  · intro cs h
    rw [spans_of_firstRead?_eq_none h]
    rfl
  · intro cs p e rest h
    obtain ⟨written, -, -, hs⟩ := search?_of_firstRead? h
    rw [spans_of_some hs]
    rfl

/-! ## Routes -/

/-- A route says what its endpoint says: the method, the path without the blank characters at its
ends, the handler, and the status that its arguments declare. -/
structure Declares (sourceFile : String) (e : Endpoint) (r : Route) : Prop where
  method : r.method = e.method
  path : r.path = String.ofList (Text.trim e.path)
  handler : r.handler = String.ofList e.handler
  sourceFile : r.sourceFile = sourceFile
  status : ∀ n, DeclaresStatus e.arguments n ↔ n = r.status

theorem Endpoint.route?_of_blank {sourceFile : String} {span : List Char}
    (h : Text.trim e.path = []) : e.route? sourceFile span = none := by
  simp [Endpoint.route?, h]

/-- Where an endpoint has a route, its own text and its span say what the route says. -/
theorem Endpoint.declares_of_route? {sourceFile : String} {span : List Char} {r : Route}
    (h : e.route? sourceFile span = some r) : Declares sourceFile e r ∧ r.auth = auth span := by
  unfold Endpoint.route? at h
  split at h
  · cases h
  · obtain rfl := Option.some.inj h
    refine ⟨⟨rfl, rfl, rfl, rfl, fun n => ?_⟩, rfl⟩
    rw [declaresStatus_iff]
    exact eq_comm

theorem Endpoint.exists_route? (sourceFile : String) (span : List Char)
    (h : Text.trim e.path ≠ []) : ∃ r, e.route? sourceFile span = some r := by
  obtain ⟨c, path, hpath⟩ := List.exists_cons_of_ne_nil h
  simp [Endpoint.route?, hpath]

/-- What has endpoints has their routes, but where the path is blank. -/
theorem forall₂_route? {α : Type} {sourceFile : String} (endpoint : α → Endpoint)
    {R : α → Endpoint × List Char → Prop} {S : α → Route → Prop} {xs : List α}
    {spans : List (Endpoint × List Char)} (hendpoint : ∀ x span, R x span → endpoint x = span.1)
    (hroute : ∀ x span r, R x span → span.1.route? sourceFile span.2 = some r → S x r)
    (h : List.Forall₂ R xs spans) :
    List.Forall₂ S (xs.filter fun x => Text.trim (endpoint x).path ≠ [])
      (spans.filterMap fun (e, span) => e.route? sourceFile span) := by
  induction h with
  | nil => exact .nil
  | @cons x span xs spans hx _ ih =>
    have he := hendpoint x span hx
    by_cases hblank : Text.trim span.1.path = []
    · simpa [he, hblank, Endpoint.route?_of_blank hblank] using ih
    · obtain ⟨r, hr⟩ := span.1.exists_route? sourceFile span.2 hblank
      rw [List.filter_cons_of_pos (by simpa [he] using hblank)]
      simp only [List.filterMap_cons, hr]
      exact .cons (hroute x span r hx hr) ih

theorem forall₂_routes (sourceFile : String) (found : List (Endpoint × List Char)) :
    List.Forall₂ (Declares sourceFile)
      ((found.map Prod.fst).filter fun e => Text.trim e.path ≠ [])
      (found.filterMap fun (e, span) => e.route? sourceFile span) := by
  have hfirst : List.Forall₂ (fun e span => e = span.1) (found.map Prod.fst) found :=
    List.forall₂_map_left_iff.2 (List.forall₂_same.2 fun _ _ => rfl)
  refine forall₂_route? (fun e => e) (fun _ _ h => h) (fun e span r h hr => ?_) hfirst
  obtain rfl := h
  exact (Endpoint.declares_of_route? hr).1

/-- A text has one list of endpoints, each with a head and the first tail after it and found from
the end of the one before, and its routes are those of the endpoints whose path is not blank. -/
theorem routes_exact (sourceFile content : String) :
    (∀ p, (∃ e q, EndpointAt content.toList p e q) ↔
      ∃ m path h t name q, HeadAt content.toList p m path h ∧ h ≤ t ∧
        TailAt content.toList t name q) ∧
      ∃ found, (∀ other, Successive (EndpointAt content.toList) 0 other ↔ other = found) ∧
        List.Forall₂ (Declares sourceFile) (found.filter fun e => Text.trim e.path ≠ [])
          (routes sourceFile content) := by
  refine ⟨fun p => exists_endpointAt_iff, (spans content.toList).2.map Prod.fst, fun other => ?_,
    forall₂_routes sourceFile _⟩
  exact successive_endpointAt_iff

end Cadastre.Router
