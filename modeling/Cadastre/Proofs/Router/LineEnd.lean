import Cadastre.Proofs.Router.Exact
import Cadastre.Proofs.Text.LineEnd

/-!
# Line ends of router sources

A router source has the same routes with carriage returns before its newlines, as long as no path
goes over a line end: every reader takes the same characters, and the spans of the endpoints are the
same texts with the returns put in.
-/

namespace Cadastre.Router

open Text

variable {cs : List Char}

/-! ## Heads and tails -/

theorem method?_withReturns (cs : List Char) :
    method? (withReturns cs) = (method? cs).map fun (m, rest) => (m, withReturns rest) := by
  have hkeyword : ∀ m : Method, WithoutEnds m.keyword.toList := by
    intro m
    cases m <;> decide
  simp only [method?, List.map_findSome?, isPrefixOf?_withReturns (hkeyword _), Function.comp_def,
    Option.map_map]

theorem quotedPath?_withReturns (cs : List Char) :
    quotedPath? (withReturns cs) =
      (quotedPath? cs).map fun (path, rest) => (withReturns path, withReturns rest) := by
  cases cs with
  | nil => rfl
  | cons q cs =>
    by_cases hq : q = '\n'
    · subst hq
      rfl
    · have hkind : (fun c => !isQuote c) '\r' = (fun c => !isQuote c) '\n' := by decide
      rw [withReturns_cons_of_ne hq, quotedPath?, quotedPath?, takeWhile_withReturns hkind,
        dropWhile_withReturns hkind]
      have hstop := stops_dropWhile (fun c => !isQuote c) cs
      generalize cs.takeWhile (fun c => !isQuote c) = path
      generalize cs.dropWhile (fun c => !isQuote c) = rest at hstop ⊢
      cases path with
      | nil => split <;> rfl
      | cons c path =>
        obtain ⟨d, ds, hpath⟩ := exists_withReturns_cons c path
        cases rest with
        | nil => rw [hpath]; split <;> rfl
        | cons e rest =>
          have he : e ≠ '\n' := by
            rintro rfl
            exact absurd (stops_cons.1 hstop) (by decide)
          rw [withReturns_cons_of_ne he, hpath]
          split
          · show some (d :: ds, withReturns rest) = some (withReturns (c :: path), withReturns rest)
            rw [hpath]
          · rfl

theorem head?_withReturns (cs : List Char) :
    head? (withReturns cs) = (head? cs).map fun (m, path, rest) =>
      (m, withReturns path, withReturns rest) := by
  have hmarker : WithoutEnds marker := by decide
  have hopen : WithoutEnds ['('] := by decide
  simp only [head?, Option.bind_eq_bind, isPrefixOf?_withReturns hmarker, method?_withReturns,
    isPrefixOf?_withReturns hopen, trimStart_withReturns, quotedPath?_withReturns,
    Option.bind_map, Option.map_bind, Function.comp_def, Option.map_some]

theorem lineEnd?_withReturns (cs : List Char) :
    lineEnd? (withReturns cs) = (lineEnd? cs).map withReturns := by
  have hlast : ∀ xs : List Char, (withReturns xs).getLast? = xs.getLast? := by
    intro xs
    rcases List.eq_nil_or_concat xs with rfl | ⟨ys, c, rfl⟩
    · rfl
    · have hc : (returned c).getLast? = some c := by
        unfold returned
        split
        · next h => rw [h]; rfl
        · rfl
      have hsingle : withReturns [c] = returned c := List.append_nil _
      rw [List.concat_eq_append, withReturns_append, hsingle, List.getLast?_append, hc]
      simp
  rw [lineEnd?, lineEnd?, takeWhile_withReturns (by decide), hlast, trimStart_withReturns]
  split <;> rfl

theorem keyword?_withReturns {word : List Char} (h : WithoutEnds word) (cs : List Char) :
    keyword? word (withReturns cs) = (keyword? word cs).map withReturns := by
  simp only [keyword?, isPrefixOf?_withReturns h, Option.bind_map, Option.map_bind,
    Function.comp_def, dropBlanks?_withReturns]

theorem name?_withReturns (cs : List Char) :
    name? (withReturns cs) = (name? cs).map fun (name, rest) => (name, withReturns rest) := by
  cases cs with
  | nil => rfl
  | cons c cs =>
    by_cases hc : c = '\n'
    · subst hc
      rfl
    · rw [withReturns_cons_of_ne hc, name?, name?, dropWhile_withReturns (by decide),
        takeWhile_withReturns_eq_self (by decide) (by decide)]
      split <;> rfl

theorem tail?_withReturns (cs : List Char) :
    tail? (withReturns cs) = (tail? cs).map fun (name, rest) => (name, withReturns rest) := by
  have hclose : WithoutEnds [')'] := by decide
  have hopen : WithoutEnds ['('] := by decide
  have hasync : WithoutEnds ['a', 's', 'y', 'n', 'c'] := by decide
  have hdef : WithoutEnds ['d', 'e', 'f'] := by decide
  have hgetD : ∀ cs : List Char,
      (keyword? ['a', 's', 'y', 'n', 'c'] (withReturns cs)).getD (withReturns cs) =
        withReturns ((keyword? ['a', 's', 'y', 'n', 'c'] cs).getD cs) := by
    intro cs
    rw [keyword?_withReturns hasync, Option.getD_map]
  simp only [tail?, Option.bind_eq_bind, isPrefixOf?_withReturns hclose, lineEnd?_withReturns,
    hgetD, keyword?_withReturns hdef, name?_withReturns, trimStart_withReturns,
    isPrefixOf?_withReturns hopen, Option.bind_map, Option.map_bind, Function.comp_def,
    Option.map_some]

/-! ## Endpoints -/

/-- An endpoint with carriage returns put into its path and its arguments. -/
def Endpoint.withReturns (e : Endpoint) : Endpoint :=
  { e with path := Text.withReturns e.path, arguments := Text.withReturns e.arguments }

theorem firstTail?_withReturns (cs : List Char) :
    firstTail? (withReturns cs) = (firstTail? cs).map fun (before, name, rest) =>
      (withReturns before, name, withReturns rest) := by
  have hskip : ∀ cs, tail? ('\r' :: cs) = none ∧ tail? ('\n' :: cs) = none :=
    fun _ => ⟨rfl, rfl⟩
  rw [firstTail?_eq, firstTail?_eq, firstRead?_withReturns tail?_withReturns hskip,
    Option.map_map, Option.map_map]
  refine congrArg (fun f => Option.map f _) (funext fun found => ?_)
  exact Prod.ext (take_length_withReturns cs found.1) rfl

theorem endpoint?_withReturns (cs : List Char) :
    endpoint? (withReturns cs) =
      (endpoint? cs).map fun (e, rest) => (e.withReturns, withReturns rest) := by
  simp only [endpoint?, Option.bind_eq_bind, head?_withReturns, firstTail?_withReturns,
    Option.bind_map, Option.map_bind, Function.comp_def, Option.map_some, Endpoint.withReturns]

theorem firstRead?_endpoint?_withReturns (cs : List Char) :
    firstRead? endpoint? (withReturns cs) = (firstRead? endpoint? cs).map fun (p, e, rest) =>
      ((withReturns (cs.take p)).length, e.withReturns, withReturns rest) :=
  firstRead?_withReturns endpoint?_withReturns (fun _ => ⟨rfl, rfl⟩) cs

/-- The endpoints are the same, and their spans are the same texts, with the returns put in. -/
theorem spans_withReturns (cs : List Char) :
    spans (withReturns cs) = (withReturns (spans cs).1,
      (spans cs).2.map fun (e, span) => (e.withReturns, withReturns span)) := by
  -- every endpoint takes something away, so the induction is on what is left of the text
  induction hn : cs.length using Nat.strong_induction_on generalizing cs with
  | _ n ih =>
    have hfirst := firstRead?_endpoint?_withReturns cs
    cases hf : firstRead? endpoint? cs with
    | none =>
      rw [hf, Option.map_none] at hfirst
      rw [spans_of_firstRead?_eq_none hfirst, spans_of_firstRead?_eq_none hf]
      rfl
    | some found =>
      obtain ⟨p, e, rest⟩ := found
      rw [hf, Option.map_some] at hfirst
      obtain ⟨written, hne, hdrop, hs⟩ := search?_of_firstRead? hf
      obtain ⟨written', -, hdrop', hs'⟩ := search?_of_firstRead? hfirst
      rw [take_length_withReturns] at hs'
      have hwritten : written' = withReturns written := by
        have hsplit : withReturns cs =
            withReturns (cs.take p) ++ withReturns (written ++ rest) := by
          rw [← hdrop, ← withReturns_append, List.take_append_drop]
        rw [hsplit, List.drop_left' rfl, withReturns_append] at hdrop'
        exact (List.append_cancel_right hdrop').symm
      have hlt : rest.length < n := by
        rw [← hn]
        exact length_lt_of_search? hs
      rw [spans_of_some hs', spans_of_some hs, ih _ hlt rest rfl, hwritten, ← withReturns_append]
      rfl

/-! ## Routes -/

theorem statusDigits?_withReturns (cs : List Char) :
    statusDigits? (withReturns cs) = statusDigits? cs := by
  have hword : WithoutEnds statusWord := by decide
  have hequals : WithoutEnds ['='] := by decide
  have hdigits : ∀ cs : List Char, (withReturns cs).takeWhile isDigit = cs.takeWhile isDigit :=
    takeWhile_withReturns_eq_self (by decide) (by decide)
  simp only [statusDigits?, Option.bind_eq_bind, dropWord?_withReturns hword,
    trimStart_withReturns, isPrefixOf?_withReturns hequals, Option.bind_map, Function.comp_def,
    hdigits]

theorem status_withReturns (cs : List Char) : status (withReturns cs) = status cs := by
  have hread : ∀ cs, statusDigits? (withReturns cs) = (statusDigits? cs).map id := by
    intro cs
    rw [statusDigits?_withReturns, Option.map_id, id_eq]
  have hskip : ∀ cs, statusDigits? ('\r' :: cs) = none ∧ statusDigits? ('\n' :: cs) = none :=
    fun _ => ⟨rfl, rfl⟩
  rw [status, status, firstStatus?_eq, firstStatus?_eq, firstRead?_withReturns hread hskip,
    Option.map_map]
  rfl

theorem startsDependency_withReturns {function : List Char} (hf : WithoutEnds function)
    (cs : List Char) :
    startsDependency function (withReturns cs) = startsDependency function cs := by
  have hopening : WithoutEnds ['D', 'e', 'p', 'e', 'n', 'd', 's', '('] := by decide
  rw [startsDependency, startsDependency, isPrefixOf?_withReturns hopening]
  cases ['D', 'e', 'p', 'e', 'n', 'd', 's', '('].isPrefixOf? cs with
  | none => rfl
  | some rest =>
    rw [Option.map_some]
    dsimp only
    rw [trimStart_withReturns, isPrefixOf?_withReturns hf]
    cases function.isPrefixOf? (trimStart rest) with
    | none => rfl
    | some rest =>
      rw [Option.map_some]
      dsimp only
      rw [trimStart_withReturns, Bool.eq_iff_iff, beq_iff_eq, beq_iff_eq]
      exact Text.head?_withReturns (by decide) (by decide) _

theorem hasDependency_withReturns {function : List Char} (hf : WithoutEnds function)
    (cs : List Char) : hasDependency function (withReturns cs) = hasDependency function cs := by
  induction cs with
  | nil => rfl
  | cons c cs ih =>
    have hstart := startsDependency_withReturns hf (c :: cs)
    rw [hasDependency, ← hstart]
    by_cases hc : c = '\n'
    · subst hc
      rw [withReturns_newline, hasDependency, hasDependency, ih]
      rfl
    · rw [withReturns_cons_of_ne hc, hasDependency, ih]

theorem auth_withReturns (span : List Char) : auth (withReturns span) = auth span := by
  have hfull : WithoutEnds Auth.fullUser.name.toList := by decide
  have huser : WithoutEnds Auth.userId.name.toList := by decide
  rw [auth, auth, hasDependency_withReturns hfull, hasDependency_withReturns huser]

/-- An endpoint has the same route if its path goes over no line end. -/
theorem Endpoint.route?_withReturns {sourceFile : String} {e : Endpoint} {span : List Char}
    (h : ∀ r, e.route? sourceFile span = some r → '\n' ∉ r.path.toList) :
    e.withReturns.route? sourceFile (Text.withReturns span) = e.route? sourceFile span := by
  have hpath : trim e.withReturns.path = trim e.path := by
    rw [Endpoint.withReturns, trim_withReturns]
    refine withReturns_eq_self fun hmem => ?_
    obtain ⟨r, hr⟩ := e.exists_route? sourceFile span (List.ne_nil_of_mem hmem)
    refine h r hr ?_
    rw [(Endpoint.declares_of_route? hr).1.path, String.toList_ofList]
    exact hmem
  simp only [Endpoint.route?, hpath, auth_withReturns]
  simp only [Endpoint.withReturns, status_withReturns]

/-- A source has the same routes if no path goes over a line end. -/
theorem routesOf_withReturns {sourceFile : String}
    (h : ∀ r ∈ routesOf sourceFile cs, '\n' ∉ r.path.toList) :
    routesOf sourceFile (withReturns cs) = routesOf sourceFile cs := by
  rw [routesOf, spans_withReturns, List.filterMap_map]
  refine List.filterMap_congr fun found hfound => ?_
  refine Endpoint.route?_withReturns fun r hr => h r ?_
  exact List.mem_filterMap.2 ⟨found, hfound, hr⟩

end Cadastre.Router
