import Cadastre.Proofs.Router.Grammar
import Cadastre.Router.Routes

/-!
# Cutting a router source

A router source can be cut where an endpoint begins. The endpoints before the cut are found in the
first part alone and those after it in the second part alone, with the same spans, so the routes of
the whole are those of the first part followed by those of the second.
-/

namespace Cadastre.Router

variable {cs before written rest : List Char} {e : Endpoint} {s k : Nat}

/-! ## The search -/

/-- The search finds the first place at which an endpoint begins. -/
theorem search?_eq_some_iff :
    search? cs = some (before, e, written, rest) ↔
      cs = before ++ (written ++ rest) ∧ endpoint? (written ++ rest) = some (e, rest) ∧
        ∀ i < before.length, endpoint? (cs.drop i) = none := by
  induction cs generalizing before with
  | nil =>
    constructor
    · intro h
      simp [search?] at h
    · rintro ⟨hcs, he, -⟩
      obtain ⟨-, rfl, rfl⟩ : before = [] ∧ written = [] ∧ rest = [] := by simpa using hcs.symm
      exact absurd he (by simp [endpoint?, head?, marker, List.isPrefixOf?])
  | cons c cs ih =>
    simp only [search?]
    split
    · next f r hf =>
      obtain ⟨w, hw, -⟩ := endpoint?_local hf
      have htake : (c :: cs).take (cs.length + 1 - r.length) = w := by
        have hl := congrArg List.length hw
        simp only [List.length_cons, List.length_append] at hl
        rw [hw, hl, Nat.add_sub_cancel, List.take_left']
        rfl
      rw [htake]
      constructor
      · intro h
        obtain ⟨rfl, rfl, rfl, rfl⟩ : [] = before ∧ f = e ∧ w = written ∧ r = rest := by
          simpa using h
        exact ⟨hw, hw ▸ hf, by simp⟩
      · rintro ⟨hcs, he, hnone⟩
        cases before with
        | nil =>
          rw [List.nil_append] at hcs
          rw [← hcs, hf] at he
          obtain ⟨rfl, rfl⟩ : f = e ∧ r = rest := by simpa using he
          simpa using List.append_cancel_right (hw.symm.trans hcs)
        | cons d b =>
          have := hnone 0 (by simp)
          rw [List.drop_zero, hf] at this
          simp at this
    · next hnone =>
      constructor
      · intro h
        obtain ⟨⟨b, f, w, r⟩, hr, he⟩ := Option.map_eq_some_iff.1 h
        obtain ⟨rfl, rfl, rfl, rfl⟩ : c :: b = before ∧ f = e ∧ w = written ∧ r = rest := by
          simpa using he
        obtain ⟨hcs, hf, hlater⟩ := ih.1 hr
        refine ⟨by rw [List.cons_append, ← hcs], hf, fun i hi => ?_⟩
        cases i with
        | zero => exact hnone
        | succ i => exact hlater i (by simpa using hi)
      · rintro ⟨hcs, he, hlater⟩
        cases before with
        | nil =>
          rw [List.nil_append] at hcs
          rw [hcs, he] at hnone
          simp at hnone
        | cons d b =>
          obtain ⟨rfl, hcs'⟩ : c = d ∧ cs = b ++ (written ++ rest) := by simpa using hcs
          have := ih.2 ⟨hcs', he, fun i hi => hlater (i + 1) (by simpa using hi)⟩
          simp [this]

/-- The search finds nothing where no endpoint begins. -/
theorem search?_eq_none (h : ∀ i < cs.length, endpoint? (cs.drop i) = none) : search? cs = none := by
  cases hc : search? cs with
  | none => rfl
  | some found =>
    obtain ⟨before, e, written, rest⟩ := found
    obtain ⟨hcs, he, -⟩ := search?_eq_some_iff.1 hc
    have hlt := length_lt_of_endpoint? he
    have hdrop := h before.length (by rw [hcs]; simp only [List.length_append] at *; omega)
    rw [hcs, List.drop_left', he] at hdrop
    · simp at hdrop
    · rfl

/-- No endpoint is found in the text before the first one. -/
theorem search?_before (h : search? cs = some (before, e, written, rest)) :
    search? before = none := by
  obtain ⟨hcs, -, hnone⟩ := search?_eq_some_iff.1 h
  refine search?_eq_none fun i hi => ?_
  have := hnone i hi
  rw [hcs, List.drop_append_of_le_length (Nat.le_of_lt hi)] at this
  exact endpoint?_eq_none_of_append this

/-- The first endpoint is found as long as its own text is not cut. -/
theorem search?_take (h : search? cs = some (before, e, written, rest)) (n : Nat) :
    search? (before ++ (written ++ rest.take n)) = some (before, e, written, rest.take n) := by
  obtain ⟨hcs, he, hnone⟩ := search?_eq_some_iff.1 h
  refine search?_eq_some_iff.2 ⟨rfl, ?_, fun i hi => ?_⟩
  · obtain ⟨w, hw, hlocal⟩ := endpoint?_local he
    rw [List.append_cancel_right hw]
    exact hlocal _
  · have hlong := hnone i hi
    have hle : i ≤ (before ++ (written ++ rest.take n)).length := by
      simp only [List.length_append]
      omega
    have heq : cs = (before ++ (written ++ rest.take n)) ++ rest.drop n := by
      simp [hcs]
    rw [heq, List.drop_append_of_le_length hle] at hlong
    exact endpoint?_eq_none_of_append hlong

/-- The search finds an endpoint at once from where it begins. -/
theorem search?_written (h : search? cs = some (before, e, written, rest)) :
    search? (written ++ rest) = some ([], e, written, rest) := by
  obtain ⟨-, he, -⟩ := search?_eq_some_iff.1 h
  exact search?_eq_some_iff.2 ⟨rfl, he, by simp⟩

/-! ## Spans -/

theorem spans_of_none (h : search? cs = none) : spans cs = (cs, []) := by
  rw [spans]
  split
  · rfl
  · next hs => rw [h] at hs; simp at hs

theorem spans_of_some (h : search? cs = some (before, e, written, rest)) :
    spans cs = (before, (e, written ++ (spans rest).1) :: (spans rest).2) := by
  rw [spans]
  split
  · next hs => rw [h] at hs; simp at hs
  · next hs =>
    rw [h] at hs
    obtain ⟨rfl, rfl, rfl, rfl⟩ := by simpa using hs
    rfl

/-- Where the endpoints of a text begin, counted in characters from its start. -/
def starts (cs : List Char) : List Nat :=
  match h : search? cs with
  | none => []
  | some (before, _, written, rest) =>
    have : rest.length < cs.length := length_lt_of_search? h
    before.length :: (starts rest).map (before.length + written.length + ·)
termination_by cs.length

theorem starts_of_none (h : search? cs = none) : starts cs = [] := by
  rw [starts]
  split
  · rfl
  · next hs => rw [h] at hs; simp at hs

theorem starts_of_some (h : search? cs = some (before, e, written, rest)) :
    starts cs = before.length :: (starts rest).map (before.length + written.length + ·) := by
  rw [starts]
  split
  · next hs => rw [h] at hs; simp at hs
  · next hs =>
    rw [h] at hs
    obtain ⟨rfl, rfl, rfl, rfl⟩ := by simpa using hs
    rfl

/-- A text in which an endpoint begins has a first one. It begins there, or the other one begins
after it. -/
theorem exists_search?_of_starts (hs : (starts cs)[k]? = some s) :
    ∃ before e written rest, search? cs = some (before, e, written, rest) ∧
      cs = before ++ (written ++ rest) ∧
      (before.length :: (starts rest).map (before.length + written.length + ·))[k]? = some s := by
  cases hc : search? cs with
  | none =>
    rw [starts_of_none hc] at hs
    simp at hs
  | some found =>
    obtain ⟨before, e, written, rest⟩ := found
    rw [starts_of_some hc] at hs
    exact ⟨before, e, written, rest, rfl, (search?_eq_some_iff.1 hc).1, hs⟩

/-- The first part of a text that is cut where an endpoint begins has the endpoints before the cut,
with the spans that they have in the whole. -/
theorem spans_take (hs : (starts cs)[k]? = some s) :
    spans (cs.take s) = ((spans cs).1, (spans cs).2.take k) := by
  -- the cut moves by one endpoint at a time, so the induction is on how many stand before it
  induction k generalizing cs s with
  | zero =>
    obtain ⟨before, e, written, rest, hc, hcs, hs⟩ := exists_search?_of_starts hs
    obtain rfl : before.length = s := by simpa using hs
    rw [spans_of_some hc, hcs, List.take_left' rfl, spans_of_none (search?_before hc)]
    rfl
  | succ k ih =>
    obtain ⟨before, e, written, rest, hc, hcs, hs⟩ := exists_search?_of_starts hs
    obtain ⟨t, ht, rfl⟩ : ∃ t, (starts rest)[k]? = some t ∧
        before.length + written.length + t = s := by simpa using hs
    have htake : cs.take (before.length + written.length + t) =
        before ++ (written ++ rest.take t) := by
      rw [hcs, Nat.add_assoc, List.take_length_add_append, List.take_length_add_append]
    rw [htake, spans_of_some (search?_take hc t), ih ht, spans_of_some hc]
    rfl

/-- The second part of a text that is cut where an endpoint begins has the endpoints from the cut
on, with the spans that they have in the whole. -/
theorem spans_drop (hs : (starts cs)[k]? = some s) :
    spans (cs.drop s) = ([], (spans cs).2.drop k) := by
  induction k generalizing cs s with
  | zero =>
    obtain ⟨before, e, written, rest, hc, hcs, hs⟩ := exists_search?_of_starts hs
    obtain rfl : before.length = s := by simpa using hs
    rw [spans_of_some hc, hcs, List.drop_left' rfl, spans_of_some (search?_written hc)]
    rfl
  | succ k ih =>
    obtain ⟨before, e, written, rest, hc, hcs, hs⟩ := exists_search?_of_starts hs
    obtain ⟨t, ht, rfl⟩ : ∃ t, (starts rest)[k]? = some t ∧
        before.length + written.length + t = s := by simpa using hs
    have hdrop : cs.drop (before.length + written.length + t) = rest.drop t := by
      rw [hcs, Nat.add_assoc, List.drop_length_add_append, List.drop_length_add_append]
    rw [hdrop, ih ht, spans_of_some hc]
    rfl

/-! ## Routes -/

/-- A router source that is cut where an endpoint begins has the routes of its first part and then
those of its second part, and each part has the endpoints on its side with their spans. -/
theorem routes_cut (sourceFile content : String) {k s : Nat}
    (hs : (starts content.toList)[k]? = some s) :
    routes sourceFile content =
        routes sourceFile (String.ofList (content.toList.take s)) ++
          routes sourceFile (String.ofList (content.toList.drop s)) ∧
      (spans (content.toList.take s)).2 = (spans content.toList).2.take k ∧
      (spans (content.toList.drop s)).2 = (spans content.toList).2.drop k := by
  have hfirst := spans_take hs
  have hsecond := spans_drop hs
  refine ⟨?_, by rw [hfirst], by rw [hsecond]⟩
  simp only [routes, routesOf, String.toList_ofList, hfirst, hsecond]
  rw [← List.filterMap_append, List.take_append_drop]

/-- Cut at its second endpoint, a source keeps the requirement of that endpoint away from the first
one. -/
theorem routes_cut_second_handler :
    let content := "@router.get(\"/a\")\ndef a():\n    pass\n\n" ++
      "@router.get(\"/b\")\ndef b(user = Depends(require_user_id)):\n    pass\n"
    (starts content.toList)[1]? = some 37 ∧
      routes "r.py" content = routes "r.py" (String.ofList (content.toList.take 37)) ++
        routes "r.py" (String.ofList (content.toList.drop 37)) ∧
      (spans (content.toList.take 37)).2 = (spans content.toList).2.take 1 ∧
      (spans (content.toList.drop 37)).2 = (spans content.toList).2.drop 1 := by
  intro content
  have hs : (starts content.toList)[1]? = some 37 := by decide +kernel
  exact ⟨hs, routes_cut "r.py" content hs⟩

end Cadastre.Router
