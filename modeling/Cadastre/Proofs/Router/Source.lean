import Cadastre.Proofs.Router.Auth
import Cadastre.Proofs.Router.Split
import Cadastre.Proofs.Router.Status

/-!
# Routes written as a router source

A route can be written as a decorator with a function below it, and routes one after another as a
router source. The main statement is that reading such a source gives the routes back, in their
order: no decorator is taken together with another one's function, whatever the paths hold, and the
status and the requirement of each route are found where they were written.
-/

namespace Cadastre

/-! ## Writing -/

/-- The parameter of a handler that asks for something. -/
def Auth.parameter : Auth → String
  | .anyone => ""
  | a => "Depends(" ++ a.name ++ ")"

/-- A route as it is written in a router source. -/
def Route.source (r : Route) : String :=
  s!"@router.{r.method.keyword}(\"{r.path}\", status_code={r.status.toNat})\n" ++
    s!"def {r.handler}({r.auth.parameter}):\n    pass\n"

/-- A route can be written: its path is not empty and trimmed and holds neither quotes nor
dependencies, and its handler has a name. -/
structure Route.Writable (r : Route) : Prop where
  path_ne : r.path ≠ ""
  trimmed : Text.trim r.path.toList = r.path.toList
  unquoted : ∀ c ∈ r.path.toList, Router.isQuote c = false
  independent : ∀ (a : Auth) (w : List Char), a ≠ .anyone → Router.IsDependency a.name.toList w →
    ¬ w <:+: r.path.toList
  handler : Router.IsName r.handler.toList

namespace Router

open Text

variable {cs w args name rest : List Char} {r : Route}

/-! ## What can be written -/

/-- Whether a route can be written is found out by reading. -/
theorem writable_iff :
    r.Writable ↔ r.path ≠ "" ∧ trim r.path.toList = r.path.toList ∧
      (r.path.toList.all fun c => !isQuote c) = true ∧
      (∀ a ∈ [Auth.userId, Auth.fullUser], hasDependency a.name.toList r.path.toList = false) ∧
      name? r.handler.toList = some (r.handler.toList, []) := by
  have hasks : ∀ a : Auth, hasDependency a.name.toList r.path.toList = false ↔
      ∀ w, IsDependency a.name.toList w → ¬ w <:+: r.path.toList := by
    intro a
    rw [Bool.eq_false_iff, ne_eq, hasDependency_iff (isName_auth a)]
    simp only [not_exists, not_and]
  have hmem : ∀ a : Auth, a ∈ [Auth.userId, Auth.fullUser] ↔ a ≠ .anyone := by
    intro a
    cases a <;> decide
  simp only [← isName_iff, hmem, hasks, List.all_eq_true, Bool.not_eq_true']
  constructor
  · rintro ⟨hne, htrim, hquotes, hfree, hname⟩
    exact ⟨hne, htrim, hquotes, fun a ha w => hfree a w ha, hname⟩
  · rintro ⟨hne, htrim, hquotes, hfree, hname⟩
    exact ⟨hne, htrim, hquotes, fun a w ha => hfree a ha w, hname⟩

instance : Decidable r.Writable := decidable_of_iff' _ writable_iff

/-! ## Reading over text without endpoints -/

/-- No endpoint begins in a text without the first character of one. -/
theorem search?_append_of_notMem (h : '@' ∉ w) (cs : List Char) :
    search? (w ++ cs) =
      (search? cs).map fun (before, e, written, rest) => (w ++ before, e, written, rest) := by
  induction w with
  | nil => simp
  | cons c w ih =>
    rw [List.mem_cons, not_or] at h
    have hc : endpoint? (c :: (w ++ cs)) = none := by
      simp [endpoint?, head?, marker, List.isPrefixOf?, h.1]
    rw [List.cons_append, search?, hc, ih h.2]
    simp [Function.comp_def]

/-- Such a text lengthens what stands before the first endpoint, and nothing else. -/
theorem spans_append_of_notMem (h : '@' ∉ w) (cs : List Char) :
    spans (w ++ cs) = (w ++ (spans cs).1, (spans cs).2) := by
  have hsearch := search?_append_of_notMem h cs
  cases hc : search? cs with
  | none =>
    rw [hc, Option.map_none] at hsearch
    rw [spans_of_none hsearch, spans_of_none hc]
  | some found =>
    obtain ⟨before, e, written, rest⟩ := found
    rw [hc, Option.map_some] at hsearch
    rw [spans_of_some hsearch, spans_of_some hc]

/-- The first tail comes right after arguments without a parenthesis. -/
theorem firstTail?_append (hargs : ')' ∉ args) (hw : IsTail name w) (rest : List Char) :
    firstTail? (args ++ (w ++ rest)) = some (args, name, rest) := by
  induction args with
  | nil =>
    have ht : tail? (w ++ rest) = some (name, rest) := tail?_eq_some_iff.2 ⟨w, hw, rfl⟩
    obtain ⟨v, rfl, -⟩ := hw.closes_once
    rw [List.cons_append] at ht
    simp [firstTail?, ht]
  | cons c args ih =>
    rw [List.mem_cons, not_or] at hargs
    have hc : tail? (c :: (args ++ (w ++ rest))) = none := by
      simp [tail?, List.isPrefixOf?, hargs.1]
    rw [List.cons_append, firstTail?, hc, ih hargs.2]
    rfl

/-! ## The parts of a written route -/

/-- The further arguments of a written route. -/
def argumentsOf (r : Route) : List Char :=
  ',' :: ' ' :: (statusWord ++ '=' :: Nat.toDigits 10 r.status.toNat)

/-- The endpoint that a written route is. -/
def endpointOf (r : Route) : Endpoint :=
  ⟨r.method, r.path.toList, argumentsOf r, r.handler.toList⟩

/-- The text of its head. -/
def headText (r : Route) : List Char :=
  marker ++ (r.method.keyword.toList ++ '(' :: ([] ++ '"' :: (r.path.toList ++ ['"'])))

/-- The text of its tail. -/
def tailText (r : Route) : List Char :=
  ')' :: (['\n'] ++ ([] ++ 'd' :: 'e' :: 'f' :: ([' '] ++ (r.handler.toList ++ ([] ++ ['('])))))

/-- The text of the whole endpoint. -/
def endpointText (r : Route) : List Char := headText r ++ (argumentsOf r ++ tailText r)

/-- What follows the parenthesis of the function. -/
def bodyText (r : Route) : List Char := r.auth.parameter.toList ++ "):\n    pass\n".toList

theorem toList_source (r : Route) : r.source.toList = endpointText r ++ bodyText r := by
  unfold Route.source
  simp [toString, endpointText, headText, argumentsOf, tailText, bodyText, marker, statusWord]

/-- The digits of a number are digits like those of any script. -/
theorem isDigit_toDigits (n : Nat) : ∀ d ∈ Nat.toDigits 10 n, isDigit d = true := by
  intro d hd
  have hascii := isDigit_of_mem_toDigits d hd
  have hlt : d.toNat < 0x80 := by
    simp only [Char.isDigit, Bool.and_eq_true, decide_eq_true_eq, UInt32.le_iff_toNat_le,
      Char.toNat_val] at hascii
    exact Nat.lt_of_le_of_lt hascii.2 (by decide)
  rw [isDigit, if_pos hlt]
  exact hascii

theorem notMem_argumentsOf {c : Char} (r : Route) (hc : c.isDigit = false)
    (hword : c ∉ [',', ' ', '='] ++ statusWord) : c ∉ argumentsOf r := by
  intro hmem
  simp only [argumentsOf, List.mem_cons, List.mem_append] at hmem hword
  have hdigit : c ∈ Nat.toDigits 10 r.status.toNat := by tauto
  rw [isDigit_of_mem_toDigits c hdigit] at hc
  cases hc

theorem isHead_headText (h : r.Writable) : IsHead r.method r.path.toList (headText r) :=
  .mk (by simp [Blank]) (by decide) (by simpa using h.path_ne) h.unquoted (by decide)

theorem isTail_tailText (h : r.Writable) : IsTail r.handler.toList (tailText r) :=
  .mk (by simp [Blank, isBlank]) rfl .absent (by simp) (by simp [Blank, isBlank]) h.handler
    (by simp [Blank])

theorem endpoint?_endpointText (h : r.Writable) (rest : List Char) :
    endpoint? (endpointText r ++ rest) = some (endpointOf r, rest) := by
  have hargs : ')' ∉ argumentsOf r := notMem_argumentsOf r (by decide) (by decide)
  have hhead : head? (headText r ++ (argumentsOf r ++ (tailText r ++ rest))) =
      some (r.method, r.path.toList, argumentsOf r ++ (tailText r ++ rest)) :=
    head?_eq_some_iff.2 ⟨headText r, isHead_headText h, rfl⟩
  have htail := firstTail?_append hargs (isTail_tailText h) rest
  rw [endpointText, List.append_assoc, List.append_assoc, endpoint?, hhead]
  simp only [Option.bind_eq_bind, Option.bind_some, htail]
  rfl

/-! ## What is read from a written route -/

theorem status_argumentsOf (r : Route) : status (argumentsOf r) = r.status := by
  have hne : Nat.toDigits 10 r.status.toNat ≠ [] := Nat.toDigits_ne_nil
  have hdigits := isDigit_toDigits r.status.toNat
  have hvalue : statusValue? (Nat.toDigits 10 r.status.toNat) = some r.status :=
    statusValue?_eq_some_iff.2 ⟨isDigit_of_mem_toDigits, (digitsValue_toDigits _).symm⟩
  rw [argumentsOf]
  generalize Nat.toDigits 10 r.status.toNat = digits at hne hdigits hvalue
  have hskip : ∀ c, foldLetter c ≠ 's' → ∀ cs, firstStatus? (c :: cs) = firstStatus? cs := by
    intro c hc cs
    simp [firstStatus?, statusDigits?, statusWord, dropWord?, hc]
  have hstatus : IsStatus digits (statusWord ++ ([] ++ '=' :: ([] ++ digits))) :=
    .mk (by decide) (by simp [Blank]) (by simp [Blank]) hne hdigits
  have hread : statusDigits? (statusWord ++ '=' :: digits) = some digits :=
    statusDigits?_eq_some_iff.2 ⟨_, [], hstatus, by simp, by simp [Stops]⟩
  have hfirst : firstStatus? (statusWord ++ '=' :: digits) = some digits := by
    rw [statusWord, List.cons_append] at hread ⊢
    rw [firstStatus?, hread, Option.some_or]
  rw [status, hskip ',' (by decide), hskip ' ' (by decide), hfirst, Option.bind_some, hvalue,
    Option.getD_some]

/-- A written route holds a dependency just if its parameter does. -/
theorem hasDependency_source (h : r.Writable) {a : Auth} (ha : a ≠ .anyone) :
    hasDependency a.name.toList r.source.toList =
      hasDependency a.name.toList (bodyText r) := by
  have hdecorator : hasDependency a.name.toList (marker ++ (r.method.keyword.toList ++ ['('])) =
      false := by
    have hletter : 'D' ∉ marker ++ (r.method.keyword.toList ++ ['(']) := by
      cases r.method <;> decide
    rw [← List.append_nil (marker ++ _), hasDependency_append_of_notMem hletter]
    rfl
  have hpath : hasDependency a.name.toList r.path.toList = false := by
    rw [Bool.eq_false_iff, ne_eq, hasDependency_iff (isName_auth a)]
    rintro ⟨w, hw, hinfix⟩
    exact h.independent a w ha hw hinfix
  have hletter : 'D' ∉ argumentsOf r ++ ")\ndef ".toList := by
    rw [List.mem_append, not_or]
    exact ⟨notMem_argumentsOf r (by decide) (by decide), by decide⟩
  have hbody : ¬ a.name.toList <+: trimStart (bodyText r) := by
    unfold bodyText
    cases a <;> cases r.auth <;> decide
  -- the quotes set the path off, and a dependency could then begin in the handler's name only
  calc hasDependency a.name.toList r.source.toList
      = hasDependency a.name.toList ((marker ++ (r.method.keyword.toList ++ ['('])) ++ '"' ::
          (r.path.toList ++ '"' :: ((argumentsOf r ++ ")\ndef ".toList) ++
            (r.handler.toList ++ '(' :: bodyText r)))) := by
        rw [toList_source]
        simp [endpointText, headText, tailText]
    _ = hasDependency a.name.toList ((argumentsOf r ++ ")\ndef ".toList) ++
          (r.handler.toList ++ '(' :: bodyText r)) := by
        rw [hasDependency_append_quote (isName_auth a) (by decide), hdecorator, Bool.false_or,
          hasDependency_append_quote (isName_auth a) (by decide), hpath, Bool.false_or]
    _ = hasDependency a.name.toList (bodyText r) := by
        rw [hasDependency_append_of_notMem hletter,
          hasDependency_append_parenthesis h.handler.isNameChar_of_mem hbody]

theorem auth_source (h : r.Writable) : auth r.source.toList = r.auth := by
  rw [auth, hasDependency_source h (by decide), hasDependency_source h (by decide)]
  unfold bodyText
  cases r.auth <;> decide

/-- A written route is read as itself. -/
theorem route?_source (h : r.Writable) :
    (endpointOf r).route? r.sourceFile r.source.toList = some r := by
  obtain ⟨c, path, hpath⟩ := List.exists_cons_of_ne_nil (l := r.path.toList)
    (by simpa using h.path_ne)
  have htrim : trim (endpointOf r).path = c :: path := h.trimmed.trans hpath
  simp only [Endpoint.route?, htrim, auth_source h]
  simp only [endpointOf, status_argumentsOf, ← hpath, String.ofList_toList]

/-! ## Sources of several routes -/

/-- Every written route is an endpoint with its own text as its span. -/
theorem spans_source {rs : List Route} (h : ∀ r ∈ rs, r.Writable) :
    spans (rs.flatMap fun r => r.source.toList) =
      ([], rs.map fun r => (endpointOf r, r.source.toList)) := by
  induction rs with
  | nil => exact spans_of_none rfl
  | cons r rs ih =>
    have hr : r.Writable := h r List.mem_cons_self
    have hlater := ih fun s hs => h s (List.mem_cons_of_mem r hs)
    have hbody : '@' ∉ bodyText r := by
      unfold bodyText
      cases r.auth <;> decide
    have hsearch : search? ((r :: rs).flatMap fun r => r.source.toList) = some ([], endpointOf r,
        endpointText r, bodyText r ++ rs.flatMap fun r => r.source.toList) := by
      refine search?_eq_some_iff.2 ⟨?_, endpoint?_endpointText hr _, by simp⟩
      rw [List.flatMap_cons, toList_source, List.nil_append, List.append_assoc]
    rw [spans_of_some hsearch, spans_append_of_notMem hbody, hlater, List.append_nil,
      ← toList_source, List.map_cons]

/-- The routes of a source that was written from routes are these routes, in their order. -/
theorem routes_source (sourceFile : String) (rs : List Route)
    (h : ∀ r ∈ rs, r.sourceFile = sourceFile ∧ r.Writable) :
    routes sourceFile (String.join (rs.map Route.source)) = rs := by
  have htext : (String.join (rs.map Route.source)).toList =
      rs.flatMap fun r => r.source.toList := by
    simp [List.flatMap_map]
  rw [routes, htext, routesOf, spans_source fun r hr => (h r hr).2, List.filterMap_map]
  have hread : ∀ r ∈ rs, ((fun x : Endpoint × List Char => x.1.route? sourceFile x.2) ∘
      fun r => (endpointOf r, r.source.toList)) r = some r := by
    intro r hr
    obtain ⟨rfl, hw⟩ := h r hr
    exact route?_source hw
  rw [List.filterMap_congr hread, List.filterMap_some]

/-- Paths that hold parentheses, line breaks, a decorator or half a dependency are read as they were
written, and so is a handler that is named like one. -/
theorem routes_source_entangled :
    let rs : List Route :=
      [ ⟨.post, "/a)\ndef x(", 65535, .fullUser, "r.py", "Depends"⟩,
        ⟨.get, "@router.get(/b)", 0, .anyone, "r.py", "_b1"⟩,
        ⟨.delete, "/Depends(require_user_id", 204, .userId, "r.py", "b"⟩ ]
    (∀ r ∈ rs, r.sourceFile = "r.py" ∧ r.Writable) ∧
      routes "r.py" (String.join (rs.map Route.source)) = rs := by
  intro rs
  have h : ∀ r ∈ rs, r.sourceFile = "r.py" ∧ r.Writable := by decide +kernel
  exact ⟨h, routes_source "r.py" rs h⟩

end Router

end Cadastre
