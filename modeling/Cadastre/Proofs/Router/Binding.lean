import Cadastre.Proofs.Router.Span

/-!
# What an endpoint takes in

The text between a head and the first tail after it may hold anything, another head as well. Such an
endpoint takes in the decorators between its own head and the function that it ends with. No endpoint
does where every decorator has its function before the next decorator, and then an endpoint is found
wherever one begins.
-/

namespace Cadastre.Router

open Text

variable {cs w path name : List Char} {c : Char} {m : Method} {e : Endpoint}
  {h i n p q r s t : Nat} {x : Found} {found : List Found} {sourceFile : String}

/-! ## Heads and tails by their characters -/

theorem HeadAt.quote (hhead : HeadAt cs p m path q) :
    p < q ∧ ∃ c, isQuote c = true ∧ cs[q - 1]? = some c := by
  obtain ⟨w, hw, hstands⟩ := hhead
  obtain ⟨-, -, -, -, hquote⟩ := hw
  rename_i gap first last
  have hlast : marker ++ (m.keyword.toList ++ '(' :: (gap ++ first :: (path ++ [last]))) =
      marker ++ (m.keyword.toList ++ '(' :: (gap ++ first :: path)) ++ [last] := by simp
  rw [hlast] at hstands
  obtain ⟨hlt, hclose⟩ := getElem?_last_of_stands hstands
  exact ⟨hlt, last, hquote, hclose⟩

theorem ne_of_isTailChar {b : Char} (hc : isBlank c = true ∨ isNameChar c = true ∨ c = '(')
    (hblank : isBlank b = false) (hname : isNameChar b = false) (hopen : b ≠ '(') : c ≠ b := by
  rintro rfl
  rcases hc with h | h | h
  · rw [hblank] at h
    cases h
  · rw [hname] at h
    cases h
  · exact hopen h

/-- There is no quote in a tail, and it closes no parenthesis but at its start. -/
theorem TailAt.chars (htail : TailAt cs p name q) :
    p < q ∧ cs[p]? = some ')' ∧
      ∀ i c, p ≤ i → i < q → cs[i]? = some c → isQuote c = false ∧ (c = ')' → i = p) := by
  obtain ⟨w, hw, hstands⟩ := htail
  obtain ⟨v, rfl, hv⟩ := hw.exists_cons
  obtain ⟨hfirst, hrest⟩ := stands_cons hstands
  have hq : q = p + 1 + v.length := hrest.2
  refine ⟨by omega, hfirst, fun i c hp hi hc => ?_⟩
  by_cases hip : i = p
  · subst hip
    obtain rfl : ')' = c := by simpa [hfirst] using hc
    exact ⟨by decide, fun _ => rfl⟩
  · -- behind its start a tail holds blank characters, those of names and an opening parenthesis
    obtain ⟨d, hd, hc'⟩ := getElem?_of_stands hrest (i := i) (by omega) hi
    obtain rfl : c = d := by simpa [hc] using hc'
    have hclose : c ≠ ')' := ne_of_isTailChar (hv c hd) (by decide) (by decide) (by decide)
    refine ⟨?_, fun h => absurd h hclose⟩
    rw [isQuote, Bool.or_eq_false_iff, beq_eq_false_iff_ne, beq_eq_false_iff_ne]
    constructor
    · exact ne_of_isTailChar (hv c hd) (by decide) (by decide) (by decide)
    · exact ne_of_isTailChar (hv c hd) (by decide) (by decide) (by decide)

theorem HeadAt.unique {m' : Method} {path' : List Char} (hhead : HeadAt cs p m path q)
    (hhead' : HeadAt cs p m' path' r) : (m, path) = (m', path') ∧ q = r := by
  obtain ⟨hread, hq⟩ := headAt_iff.1 hhead
  obtain ⟨hread', hr⟩ := headAt_iff.1 hhead'
  rw [hread] at hread'
  obtain ⟨rfl, rfl, hdrop⟩ : m = m' ∧ path = path' ∧ cs.drop q = cs.drop r := by simpa using hread'
  have hlength := congrArg List.length hdrop
  simp only [List.length_drop] at hlength
  exact ⟨rfl, by omega⟩

theorem TailAt.unique {name' : List Char} (htail : TailAt cs p name q)
    (htail' : TailAt cs p name' r) : name = name' ∧ q = r :=
  read_drop_unique (tailAt_iff.1 htail) (tailAt_iff.1 htail')

theorem TailAt.stop_le {name' : List Char} (htail : TailAt cs s name q)
    (htail' : TailAt cs t name' r) (hlt : s < t) : q ≤ t := by
  by_contra hq
  obtain ⟨-, -, hchars⟩ := htail.chars
  obtain ⟨-, hclose, -⟩ := htail'.chars
  -- the parenthesis of the second tail would be in the first one
  have hplace := (hchars t ')' hlt.le (by omega) hclose).2 rfl
  omega

theorem HeadAt.stop_le (hhead : HeadAt cs i m path n) (htail : TailAt cs t name q) (hle : n ≤ q) :
    n ≤ t := by
  by_contra ht
  obtain ⟨hlt, c, hquote, hc⟩ := hhead.quote
  obtain ⟨-, -, hchars⟩ := htail.chars
  -- the last quote of the head would be in the tail
  have hnone := (hchars (n - 1) c (by omega) (by omega) hc).1
  rw [hquote] at hnone
  cases hnone

/-! ## Endpoints that take in others -/

/-- A second head stands in the text of an endpoint, behind its own head. -/
def TakesIn (cs : List Char) (x : Found) : Prop :=
  ∃ m path h m' path' i n, HeadAt cs x.start m path h ∧ h ≤ i ∧ HeadAt cs i m' path' n ∧ n ≤ x.stop

/-- A second head stands behind the head at a place, and no tail begins before the second head
ends. -/
def Interrupted (cs : List Char) (p : Nat) : Prop :=
  ∃ m path h m' path' i n, HeadAt cs p m path h ∧ h ≤ i ∧ HeadAt cs i m' path' n ∧
    ∀ t name q, h ≤ t → t < n → ¬ TailAt cs t name q

/-- Every head has a tail before the next head. -/
def BoundDirectly (cs : List Char) : Prop :=
  ∀ p m path h i m' path' n, HeadAt cs p m path h → HeadAt cs i m' path' n → p < i →
    ∃ t name q, TailAt cs t name q ∧ h ≤ t ∧ q ≤ i

/-- An endpoint ends with the first tail after its head. -/
theorem EndpointAt.exists_tail (hat : EndpointAt cs p e q) (hhead : HeadAt cs p m path h) :
    ∃ t name, h ≤ t ∧ TailAt cs t name q ∧ ∀ i n r, h ≤ i → i < t → ¬ TailAt cs i n r := by
  obtain ⟨hhead', hle, htail, hfirst⟩ := hat
  obtain ⟨-, rfl⟩ := hhead.unique hhead'
  exact ⟨_, _, hle, htail, hfirst⟩

/-- An endpoint takes in a head just if it is interrupted by one. -/
theorem EndpointAt.takesIn_iff (hat : EndpointAt cs x.start x.endpoint x.stop) :
    TakesIn cs x ↔ Interrupted cs x.start := by
  constructor
  · rintro ⟨m, path, h, m', path', i, n, hhead, hi, hsecond, hn⟩
    obtain ⟨t, name, -, htail, hfirst⟩ := hat.exists_tail hhead
    have hnt : n ≤ t := hsecond.stop_le htail hn
    exact ⟨m, path, h, m', path', i, n, hhead, hi, hsecond,
      fun s name q hs hsn => hfirst s name q hs (by omega)⟩
  · rintro ⟨m, path, h, m', path', i, n, hhead, hi, hsecond, hnone⟩
    obtain ⟨t, name, hle, htail, -⟩ := hat.exists_tail hhead
    refine ⟨m, path, h, m', path', i, n, hhead, hi, hsecond, ?_⟩
    have hnt : n ≤ t := by
      by_contra hlt
      exact hnone t name x.stop hle (by omega) htail
    have hstop := htail.chars.1
    omega

/-- With a function before every next head, an endpoint ends before it. -/
theorem BoundDirectly.stop_le (hbound : BoundDirectly cs) (hat : EndpointAt cs p e q)
    (hhead : HeadAt cs i m path n) (hlt : p < i) : q ≤ i := by
  have hstart : ∃ m path h, HeadAt cs p m path h := by
    obtain ⟨hhead, -, -, -⟩ := hat
    exact ⟨_, _, _, hhead⟩
  obtain ⟨m', path', h, hfirst⟩ := hstart
  obtain ⟨s, name, r, hbetween, hhs, hri⟩ := hbound p m' path' h i m path n hfirst hhead hlt
  obtain ⟨t, name', -, htail, hnone⟩ := hat.exists_tail hfirst
  -- the endpoint ends with the first tail, which is not behind the one between the heads
  have hts : t ≤ s := by
    by_contra hst
    exact hnone s name r hhs (by omega) hbetween
  have hs := hbetween.chars.1
  rcases Nat.eq_or_lt_of_le hts with rfl | hlt
  · obtain ⟨-, rfl⟩ := htail.unique hbetween
    exact hri
  · have hq := htail.stop_le hbetween hlt
    omega

theorem BoundDirectly.not_takesIn (hbound : BoundDirectly cs)
    (hat : EndpointAt cs x.start x.endpoint x.stop) : ¬ TakesIn cs x := by
  rintro ⟨m, path, h, m', path', i, n, hhead, hi, hsecond, hn⟩
  have hh := hhead.quote.1
  have hin := hsecond.quote.1
  have hstop := hbound.stop_le hat hsecond (by omega)
  omega

/-! ## Endpoints that are found -/

theorem endpointAt_of_mem (hfound : Successive (FoundAt cs) n found) (hx : x ∈ found) :
    EndpointAt cs x.start x.endpoint x.stop := by
  obtain ⟨_, _, rfl, rfl, hat⟩ := hfound.exists_of_mem hx
  exact hat

/-- Where an endpoint begins, one is found, or one that was found has not ended yet. -/
theorem exists_mem_of_endpointAt (hfound : Successive (FoundAt cs) n found)
    (hat : EndpointAt cs p e q) (hle : n ≤ p) :
    ∃ x ∈ found, x.start = p ∨ x.start < p ∧ p < x.stop := by
  have hplaced : FoundAt cs p ⟨p, e, q⟩ q := ⟨rfl, rfl, hat⟩
  obtain ⟨x, hx, _, _, ⟨rfl, rfl, -⟩, hplace⟩ := hfound.exists_mem hplaced hle
  exact ⟨x, hx, hplace⟩

/-- With a function before every next head, an endpoint is found wherever one begins. -/
theorem BoundDirectly.exists_endpointAt_iff (hbound : BoundDirectly cs)
    (hfound : Successive (FoundAt cs) 0 found) :
    (∃ e q, EndpointAt cs p e q) ↔ ∃ x ∈ found, x.start = p := by
  constructor
  · rintro ⟨e, q, hat⟩
    obtain ⟨x, hx, hplace⟩ := exists_mem_of_endpointAt hfound hat (Nat.zero_le p)
    rcases hplace with hstart | ⟨hlt, hstop⟩
    · exact ⟨x, hx, hstart⟩
    · obtain ⟨hhead, -, -, -⟩ := hat
      have hend := hbound.stop_le (endpointAt_of_mem hfound hx) hhead hlt
      omega
  · rintro ⟨x, hx, rfl⟩
    exact ⟨_, _, endpointAt_of_mem hfound hx⟩

/-- The routes of a source are those of the endpoints that are found in it; an endpoint takes in a
further decorator just if that one's head comes before any tail, and where every decorator has its
function before the next one, no endpoint does and every decorator with a function is found. -/
theorem routes_bind (sourceFile content : String) :
    ∃ found, (∀ other, Successive (FoundAt content.toList) 0 other ↔ other = found) ∧
      List.Forall₂ (fun x => Declares sourceFile x.endpoint)
        (found.filter fun x => Text.trim x.endpoint.path ≠ []) (routes sourceFile content) ∧
      (∀ x ∈ found, TakesIn content.toList x ↔ Interrupted content.toList x.start) ∧
      (BoundDirectly content.toList → (∀ x ∈ found, ¬ TakesIn content.toList x) ∧
        ∀ p, (∃ e q, EndpointAt content.toList p e q) ↔ ∃ x ∈ found, x.start = p) := by
  obtain ⟨found, hfound, hroutes⟩ := askedWithin_endpointLimit sourceFile content
  have hsuccessive := (hfound found).2 rfl
  refine ⟨found, hfound, hroutes.imp fun _ _ hasks => hasks.1, fun x hx => ?_, fun hbound => ?_⟩
  · exact (endpointAt_of_mem hsuccessive hx).takesIn_iff
  · exact ⟨fun x hx => hbound.not_takesIn (endpointAt_of_mem hsuccessive hx),
      fun p => hbound.exists_endpointAt_iff hsuccessive⟩

/-- A source with two decorators, each with its function below it. -/
def twoHandlers : String :=
  "@router.get(\"/a\")\ndef a():\n    pass\n\n" ++ "@router.get(\"/b\")\ndef b():\n    pass\n"

theorem boundDirectly_twoHandlers : BoundDirectly twoHandlers.toList := by
  intro p m path h i m' path' n hhead hsecond hlt
  -- the source has heads at two places only
  have hplaces : ∀ k < 73, (head? (twoHandlers.toList.drop k)).isSome = true → k = 0 ∨ k = 37 := by
    decide +kernel
  have hplace : ∀ {k m path q}, HeadAt twoHandlers.toList k m path q → k = 0 ∨ k = 37 := by
    intro k m path q hat
    obtain ⟨hread, hq⟩ := headAt_iff.1 hat
    have hlength : twoHandlers.toList.length = 73 := by decide +kernel
    have hkq := hat.quote.1
    exact hplaces k (by omega) (by rw [hread]; rfl)
  have hfirst : HeadAt twoHandlers.toList 0 .get ['/', 'a'] 16 :=
    headAt_iff.2 (by decide +kernel)
  have htail : TailAt twoHandlers.toList 16 ['a'] 24 := tailAt_iff.2 (by decide +kernel)
  have hp := hplace hhead
  have hi := hplace hsecond
  obtain ⟨rfl, rfl⟩ : p = 0 ∧ i = 37 := by omega
  obtain ⟨-, rfl⟩ := hhead.unique hfirst
  exact ⟨16, ['a'], 24, htail, Nat.le_refl 16, by omega⟩

theorem routes_bind_two_handlers :
    BoundDirectly twoHandlers.toList ∧
      ∃ found, Successive (FoundAt twoHandlers.toList) 0 found ∧
        ∀ x ∈ found, ¬ TakesIn twoHandlers.toList x := by
  obtain ⟨found, hfound, -, -, hbound⟩ := routes_bind "r.py" twoHandlers
  exact ⟨boundDirectly_twoHandlers, found, (hfound found).2 rfl, (hbound boundDirectly_twoHandlers).1⟩

/-- A source whose first decorator has another decorator between it and its function. -/
def cachedHandler : String :=
  "@router.get(\"/a\")\n@cached\ndef list_a():\n    pass\n\n" ++
    "@router.post(\"/b\", status_code=201)\ndef create_b():\n    pass\n"

theorem takesIn_cachedHandler :
    ¬ ∀ (content : String) (found : List Found), Successive (FoundAt content.toList) 0 found →
      ∀ x ∈ found, Text.trim x.endpoint.path ≠ [] → ¬ TakesIn content.toList x := by
  intro hnone
  have hfound : Successive (FoundAt cachedHandler.toList) 0
      [⟨0, ⟨.get, ['/', 'a'], (cachedHandler.toList.drop 16).take 68, "create_b".toList⟩, 99⟩] :=
    successive_singleton (by decide +kernel) (by decide +kernel) (by decide +kernel)
  refine hnone cachedHandler _ hfound _ List.mem_cons_self (by decide +kernel) ?_
  have hhead : HeadAt cachedHandler.toList 0 .get ['/', 'a'] 16 := headAt_iff.2 (by decide +kernel)
  have hsecond : HeadAt cachedHandler.toList 50 .post ['/', 'b'] 67 :=
    headAt_iff.2 (by decide +kernel)
  exact ⟨_, _, _, _, _, _, _, hhead, by decide, hsecond, by decide⟩

end Cadastre.Router
