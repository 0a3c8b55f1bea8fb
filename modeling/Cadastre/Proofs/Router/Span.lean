import Cadastre.Proofs.Router.Exact

/-!
# How far the text of a handler reaches

What a handler asks of its caller is read from the text that begins with its decorator and ends where
the next endpoint begins, or with the source. A marker that begins no endpoint ends nothing: what
stands after a decorator with another method, or with a path that is no literal, still belongs to the
endpoint before it. The main statement says so for every route of a source, and that nothing from the
next endpoint on changes the routes before it.
-/

namespace Cadastre.Router

open Text

variable {cs : List Char} {e f : Endpoint} {r : Route} {n p q k s : Nat} {sourceFile : String}

/-! ## Endpoints with their places -/

/-- An endpoint that was found, with the places where it begins and ends. -/
@[ext]
structure Found where
  /-- Where its decorator begins. -/
  start : Nat
  /-- What is written there. -/
  endpoint : Endpoint
  /-- Where the parenthesis after the name of its function ends. -/
  stop : Nat
deriving DecidableEq

/-- An endpoint that was found stands between its places. -/
def FoundAt (cs : List Char) (p : Nat) (x : Found) (q : Nat) : Prop :=
  x.start = p ∧ x.stop = q ∧ EndpointAt cs p x.endpoint q

/-- One endpoint at most stands at a place. -/
theorem EndpointAt.unique {r : Nat} (he : EndpointAt cs p e q) (hf : EndpointAt cs p f r) :
    e = f ∧ q = r :=
  read_drop_unique (endpointAt_iff.1 he) (endpointAt_iff.1 hf)

theorem FoundAt.unique {x y : Found} {r : Nat} (hx : FoundAt cs p x q) (hy : FoundAt cs p y r) :
    x = y ∧ q = r := by
  obtain ⟨hstart, hstop, hx⟩ := hx
  obtain ⟨hstart', hstop', hy⟩ := hy
  obtain ⟨hendpoint, hqr⟩ := hx.unique hy
  exact ⟨Found.ext (hstart.trans hstart'.symm) hendpoint (hstop.trans (hqr.trans hstop'.symm)), hqr⟩

/-- Where no endpoint is read, none stands. -/
theorem not_endpointAt (h : endpoint? (cs.drop p) = none) (e : Endpoint) (q : Nat) :
    ¬ EndpointAt cs p e q := by
  intro hat
  rw [(endpointAt_iff.1 hat).1] at h
  cases h

/-- Where one endpoint is read and none after it, it is all that is found. -/
theorem successive_singleton (he : endpoint? cs = some (e, cs.drop q)) (hq : q ≤ cs.length)
    (hnone : firstRead? endpoint? (cs.drop q) = none) :
    Successive (FoundAt cs) 0 [⟨0, e, q⟩] := by
  refine .step (Nat.le_refl 0) (fun i _ _ _ hi => absurd hi (Nat.not_lt_zero i))
    ⟨rfl, rfl, endpointAt_iff.2 ⟨he, hq⟩⟩ (.done ?_)
  rintro p x r hp ⟨-, -, hx⟩
  exact not_endpointAt (firstRead?_drop_eq_none_iff.1 hnone p hp) _ _ hx

/-! ## Limits -/

/-- Up to the next marker of a decorator, whatever follows the marker. -/
def markerLimit (cs : List Char) : Nat → Nat → Prop :=
  NextPlace (fun p => ∃ q, Stands cs marker p q) cs.length

/-- Up to the next endpoint. -/
def endpointLimit (cs : List Char) : Nat → Nat → Prop :=
  NextPlace (fun p => ∃ e q, EndpointAt cs p e q) cs.length

/-- The route of an endpoint asks what is asked in the text from its decorator to the first limit
after its function's parenthesis. -/
def AsksWithin (limit : List Char → Nat → Nat → Prop) (sourceFile : String) (cs : List Char)
    (x : Found) (r : Route) : Prop :=
  Declares sourceFile x.endpoint r ∧
    ∃ s, limit cs x.stop s ∧ r.auth = auth ((cs.drop x.start).take (s - x.start))

/-- Every route of a source asks what is asked in its text up to a limit. -/
def AskedWithin (limit : List Char → Nat → Nat → Prop) (sourceFile content : String) : Prop :=
  ∃ found, (∀ other, Successive (FoundAt content.toList) 0 other ↔ other = found) ∧
    List.Forall₂ (AsksWithin limit sourceFile content.toList)
      (found.filter fun x => Text.trim x.endpoint.path ≠ []) (routes sourceFile content)

/-! ## Spans by their places -/

/-- An endpoint that was found has a span, which reaches to the next endpoint. -/
def HasSpan (cs : List Char) (x : Found) (span : Endpoint × List Char) : Prop :=
  x.endpoint = span.1 ∧
    ∃ s, endpointLimit cs x.stop s ∧ span.2 = (cs.drop x.start).take (s - x.start)

/-- From every place on, the endpoints that are found one after another have the spans that are read
there, and the text before the first of them reaches to it. -/
theorem exists_found (cs : List Char) (n : Nat) (hn : n ≤ cs.length) :
    ∃ found s, Successive (FoundAt cs) n found ∧ n ≤ s ∧ endpointLimit cs n s ∧
      (spans (cs.drop n)).1 = (cs.drop n).take (s - n) ∧
      List.Forall₂ (HasSpan cs) found (spans (cs.drop n)).2 := by
  -- every endpoint takes something away, so the induction is on what is left of the text
  induction hk : cs.length - n using Nat.strong_induction_on generalizing n with
  | _ k ih =>
    cases hread : firstRead? endpoint? (cs.drop n) with
    | none =>
      have hnone := firstRead?_drop_eq_none_iff.1 hread
      have hspans := spans_of_firstRead?_eq_none hread
      refine ⟨[], cs.length, .done ?_, hn, .absent ?_, ?_, ?_⟩
      · rintro p x q hp ⟨-, -, hx⟩
        exact not_endpointAt (hnone p hp) _ _ hx
      · rintro i hi ⟨e, q, he⟩
        exact not_endpointAt (hnone i hi) e q he
      · rw [hspans, ← List.length_drop, List.take_length]
      · rw [hspans]
        exact .nil
    | some found =>
      obtain ⟨i, e, rest⟩ := found
      obtain ⟨he, hfirst⟩ := firstRead?_drop_eq_some_iff.1 hread
      obtain ⟨written, hne, hdrop, hsearch⟩ := search?_of_firstRead? hread
      rw [List.drop_drop] at hdrop
      obtain ⟨hstands, rfl⟩ := stands_of_drop_eq hdrop
      have hq := ((stands_iff hne).1 hstands).2
      have hpos := List.length_pos_of_ne_nil hne
      have hat : EndpointAt cs (n + i) e (n + i + written.length) := endpointAt_iff.2 ⟨he, hq⟩
      have hbefore : ∀ j, n ≤ j → j < n + i → ¬ ∃ e q, EndpointAt cs j e q := by
        rintro j hj hji ⟨e, q, he⟩
        exact not_endpointAt (hfirst j hj hji) e q he
      obtain ⟨found, s, hfound, hle, hlimit, hgap, hspans⟩ :=
        ih _ (by omega) (n + i + written.length) hq rfl
      refine ⟨⟨n + i, e, n + i + written.length⟩ :: found, n + i, ?_, Nat.le_add_right n i,
        .found (Nat.le_add_right n i) ⟨e, _, hat⟩ hbefore, ?_, ?_⟩
      · refine .step (Nat.le_add_right n i) ?_ ⟨rfl, rfl, hat⟩ hfound
        rintro j x r hj hji ⟨-, -, hx⟩
        exact hbefore j hj hji ⟨_, _, hx⟩
      · rw [spans_of_some hsearch, Nat.add_sub_cancel_left]
      · rw [spans_of_some hsearch, hgap]
        refine .cons ⟨rfl, s, hlimit, ?_⟩ hspans
        -- the span is what is written of the endpoint and then the text up to the next one
        have hsum : s - (n + i) = written.length + (s - (n + i + written.length)) := by omega
        rw [hdrop, hsum, List.take_length_add_append]

/-- Routes ask what is asked in the spans of their endpoints. -/
theorem forall₂_asksWithin {found : List Found} {spans : List (Endpoint × List Char)}
    (h : List.Forall₂ (HasSpan cs) found spans) :
    List.Forall₂ (AsksWithin endpointLimit sourceFile cs)
      (found.filter fun x => Text.trim x.endpoint.path ≠ [])
      (spans.filterMap fun (e, span) => e.route? sourceFile span) := by
  refine forall₂_route? Found.endpoint (fun x span hx => hx.1) (fun x span r hx hr => ?_) h
  obtain ⟨hendpoint, s, hlimit, hspan⟩ := hx
  obtain ⟨hdeclares, hauth⟩ := Endpoint.declares_of_route? hr
  exact ⟨hendpoint ▸ hdeclares, s, hlimit, hspan ▸ hauth⟩

/-- Where an endpoint begins, the routes of a source are cut into those of the text before it and
those of the text from there on. -/
theorem routesOf_eq_append (sourceFile : String) (hs : (starts cs)[k]? = some s) :
    routesOf sourceFile cs =
      routesOf sourceFile (cs.take s) ++ routesOf sourceFile (cs.drop s) := by
  rw [routesOf, routesOf, routesOf, spans_take hs, spans_drop hs, ← List.filterMap_append,
    List.take_append_drop]

theorem askedWithin_endpointLimit (sourceFile content : String) :
    AskedWithin endpointLimit sourceFile content := by
  obtain ⟨found, -, hfound, -, -, -, hspans⟩ := exists_found content.toList 0 (Nat.zero_le _)
  refine ⟨found, fun other => ⟨fun hother => ?_, ?_⟩, forall₂_asksWithin hspans⟩
  · exact hother.unique (fun _ _ _ _ _ hx hy => hx.unique hy) hfound
  · rintro rfl
    exact hfound

/-- Every route of a source asks what is asked in the text from its decorator to the next endpoint,
or to the end of the source; and two sources that are the same up to an endpoint have the same routes
before it, whatever comes from there on. -/
theorem auth_within_spans (sourceFile content : String) :
    AskedWithin endpointLimit sourceFile content ∧
      ∀ (other : String) (k s : Nat), (starts content.toList)[k]? = some s →
        (starts other.toList)[k]? = some s → content.toList.take s = other.toList.take s →
        ∃ earlier, routes sourceFile content =
            earlier ++ routesOf sourceFile (content.toList.drop s) ∧
          routes sourceFile other = earlier ++ routesOf sourceFile (other.toList.drop s) := by
  constructor
  · exact askedWithin_endpointLimit sourceFile content
  · intro other k s hcontent hother hsame
    refine ⟨routesOf sourceFile (content.toList.take s), routesOf_eq_append _ hcontent, ?_⟩
    rw [hsame]
    exact routesOf_eq_append _ hother

/-- Two sources with the same first endpoint: what the handler after it asks is its own matter. -/
theorem auth_within_spans_later_handler :
    let content := "@router.get(\"/a\")\ndef a():\n    pass\n\n" ++
      "@router.get(\"/b\")\ndef b():\n    pass\n"
    let other := "@router.get(\"/a\")\ndef a():\n    pass\n\n" ++
      "@router.put(\"/c\")\ndef c(user = Depends(require_user_id)):\n    pass\n"
    (starts content.toList)[1]? = some 37 ∧ (starts other.toList)[1]? = some 37 ∧
      content.toList.take 37 = other.toList.take 37 ∧
      ∃ earlier,
        routes "r.py" content = earlier ++ routesOf "r.py" (content.toList.drop 37) ∧
          routes "r.py" other = earlier ++ routesOf "r.py" (other.toList.drop 37) := by
  intro content other
  have hcontent : (starts content.toList)[1]? = some 37 := by decide +kernel
  have hother : (starts other.toList)[1]? = some 37 := by decide +kernel
  have hsame : content.toList.take 37 = other.toList.take 37 := by decide +kernel
  exact ⟨hcontent, hother, hsame,
    (auth_within_spans "r.py" content).2 other 1 37 hcontent hother hsame⟩

/-- A marker ends no span: a decorator with a method that is none of the five begins no endpoint, so
the requirement of the handler after it is that of the endpoint before it. -/
theorem auth_beyond_marker :
    ¬ AskedWithin markerLimit "r.py" ("@router.get(\"/a\")\ndef a():\n    pass\n\n" ++
      "@router.head(\"/b\")\ndef b(user = Depends(require_user_id)):\n    pass\n") := by
  rintro ⟨found, hfound, hasked⟩
  obtain rfl : [⟨0, ⟨.get, ['/', 'a'], [], ['a']⟩, 24⟩] = found :=
    (hfound _).1 (successive_singleton (by decide +kernel) (by decide +kernel) (by decide +kernel))
  have hroutes : routes "r.py" ("@router.get(\"/a\")\ndef a():\n    pass\n\n" ++
      "@router.head(\"/b\")\ndef b(user = Depends(require_user_id)):\n    pass\n") =
        [⟨.get, "/a", 200, .userId, "r.py", "a"⟩] := by decide +kernel
  rw [hroutes, List.filter_cons_of_pos (by decide +kernel)] at hasked
  obtain ⟨⟨-, s, hlimit, hauth⟩, -⟩ := List.forall₂_cons.1 hasked
  -- the next marker is the one before `head`, and nothing is asked up to there
  have hmarker : markerLimit ("@router.get(\"/a\")\ndef a():\n    pass\n\n" ++
      "@router.head(\"/b\")\ndef b(user = Depends(require_user_id)):\n    pass\n").toList 24 37 := by
    refine .found (by decide) ⟨_, by decide +kernel, rfl⟩ ?_
    rintro i hi hlt ⟨q, hstands, -⟩
    revert i
    decide +kernel
  obtain rfl := hlimit.unique hmarker
  exact absurd hauth (by decide +kernel)

end Cadastre.Router
