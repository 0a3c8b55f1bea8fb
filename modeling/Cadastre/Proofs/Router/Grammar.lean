import Cadastre.Proofs.Text.Run
import Cadastre.Router.Endpoint

/-!
# The texts of endpoints

Heads and tails as sets of texts: what the readers of router sources accept is what these sets say,
and nothing after a head or a tail decides whether it is one. The main statement is that an endpoint
is read from its own text alone, whatever follows it.
-/

namespace Cadastre.Router

open Text

variable {cs rest before path name handler : List Char} {m : Method} {e : Endpoint}

/-! ## Tails -/

/-- A name of a function. -/
inductive IsName : List Char → Prop where
  /-- A first character, and further ones. -/
  | mk {c : Char} {cs : List Char} (hc : isNameStart c = true)
      (hcs : ∀ d ∈ cs, isNameChar d = true) : IsName (c :: cs)

/-- What may stand between the line break of a tail and its `def`. -/
inductive IsModifier : List Char → Prop where
  /-- Nothing. -/
  | absent : IsModifier []
  /-- The word `async`, and blank characters. -/
  | async {gap : List Char} (hne : gap ≠ []) (hgap : Blank gap) :
      IsModifier (['a', 's', 'y', 'n', 'c'] ++ gap)

/-- The text of a tail with the name of its function. -/
inductive IsTail : List Char → List Char → Prop where
  /-- A parenthesis, a line break, `def` or `async def`, the name, and a parenthesis. -/
  | mk {line modifier gap name after : List Char} (hline : Blank line)
      (hend : line.getLast? = some '\n') (hmodifier : IsModifier modifier) (hne : gap ≠ [])
      (hgap : Blank gap) (hname : IsName name) (hafter : Blank after) :
      IsTail name
        (')' :: (line ++ (modifier ++ ('d' :: 'e' :: 'f' :: (gap ++ (name ++ (after ++ ['('])))))))

theorem lineEnd?_eq_some_iff :
    lineEnd? cs = some rest ↔
      ∃ line, Blank line ∧ line.getLast? = some '\n' ∧ cs = line ++ rest ∧ Stops isBlank rest := by
  constructor
  · intro h
    simp only [lineEnd?] at h
    split at h
    · next hl =>
      obtain rfl := Option.some.inj h
      exact ⟨cs.takeWhile isBlank, all_takeWhile _ _, by simpa using hl,
        List.takeWhile_append_dropWhile.symm, stops_dropWhile _ _⟩
    · simp at h
  · rintro ⟨line, hline, hend, rfl, hs⟩
    simp [lineEnd?, takeWhile_append_stops hline hs, hend, trimStart_append hline hs]

theorem keyword?_eq_some_iff {word : List Char} :
    keyword? word cs = some rest ↔
      ∃ gap, gap ≠ [] ∧ Blank gap ∧ cs = word ++ (gap ++ rest) ∧ Stops isBlank rest := by
  simp only [keyword?, Option.bind_eq_some_iff, List.isPrefixOf?_eq_some_iff_append_eq,
    dropBlanks?_eq_some_iff]
  constructor
  · rintro ⟨a, rfl, gap, hne, hgap, rfl, hs⟩
    exact ⟨gap, hne, hgap, rfl, hs⟩
  · rintro ⟨gap, hne, hgap, rfl, hs⟩
    exact ⟨gap ++ rest, rfl, gap, hne, hgap, rfl, hs⟩

theorem name?_eq_some_iff :
    name? cs = some (name, rest) ↔ IsName name ∧ cs = name ++ rest ∧ Stops isNameChar rest := by
  constructor
  · intro h
    cases cs with
    | nil => simp [name?] at h
    | cons c cs =>
      simp only [name?] at h
      split at h
      · next hc =>
        obtain ⟨rfl, rfl⟩ := Prod.mk.inj (Option.some.inj h)
        refine ⟨.mk hc (all_takeWhile _ _), ?_, stops_dropWhile _ _⟩
        rw [List.cons_append, List.takeWhile_append_dropWhile]
      · simp at h
  · rintro ⟨⟨hc, hcs⟩, rfl, hs⟩
    simp [name?, hc, takeWhile_append_stops hcs hs, dropWhile_append_stops hcs hs]

theorem isNameChar_of_isNameStart {c : Char} (h : isNameStart c = true) : isNameChar c = true := by
  unfold isNameStart at h
  unfold isNameChar Char.isAlphanum
  grind

/-- The characters of names by their numbers. -/
theorem toNat_of_isNameChar {c : Char} (h : isNameChar c = true) :
    ((65 ≤ c.toNat ∧ c.toNat ≤ 90 ∨ 97 ≤ c.toNat ∧ c.toNat ≤ 122) ∨
      48 ≤ c.toNat ∧ c.toNat ≤ 57) ∨ c.toNat = 95 := by
  unfold isNameChar Char.isAlphanum Char.isAlpha Char.isUpper Char.isLower Char.isDigit at h
  have heq : ∀ d : Char, c = d ↔ c.toNat = d.toNat := fun d => Char.toNat_inj.symm
  simpa only [Bool.or_eq_true, Bool.and_eq_true, decide_eq_true_eq, beq_iff_eq,
    UInt32.le_iff_toNat_le, heq, Char.toNat_val, Char.reduceToNat] using h

/-- No character of a name is blank. -/
theorem isBlank_of_isNameChar {c : Char} (h : isNameChar c = true) : isBlank c = false := by
  have hc := toNat_of_isNameChar h
  unfold isBlank
  simp only [Bool.or_eq_false_iff, Bool.and_eq_false_iff, decide_eq_false_iff_not, beq_eq_false_iff_ne]
  omega

/-- A blank character cannot continue a name. -/
theorem isNameChar_of_isBlank {c : Char} (h : isBlank c = true) : isNameChar c = false := by
  by_contra hn
  rw [isBlank_of_isNameChar (by simpa using hn)] at h
  exact absurd h (by simp)

theorem IsName.isNameChar_of_mem (h : IsName name) : ∀ c ∈ name, isNameChar c = true := by
  obtain ⟨hc, hcs⟩ := h
  intro d hd
  rcases List.mem_cons.1 hd with rfl | hd
  · exact isNameChar_of_isNameStart hc
  · exact hcs d hd

theorem IsName.stops_isBlank (h : IsName name) (after : List Char) :
    Stops isBlank (name ++ after) := by
  obtain ⟨hc, -⟩ := h
  exact stops_cons.2 (isBlank_of_isNameChar (isNameChar_of_isNameStart hc))

/-- A name ends before blank characters and a parenthesis. -/
theorem stops_isNameChar_of_blank {after : List Char} (h : Blank after) :
    Stops isNameChar (after ++ '(' :: rest) := by
  cases after with
  | nil => exact stops_cons.2 (by decide)
  | cons c after => exact stops_cons.2 (isNameChar_of_isBlank (h c (by simp)))

/-- Between the line break and `def` nothing blank comes first. -/
theorem IsModifier.stops_isBlank {modifier : List Char} (h : IsModifier modifier) :
    Stops isBlank (modifier ++ 'd' :: rest) := by
  cases h with
  | absent => exact stops_cons.2 (by decide)
  | async => exact stops_cons.2 (by decide)

/-- The reader of the modifier drops it and nothing else. -/
theorem IsModifier.keyword?_getD {modifier : List Char} (h : IsModifier modifier) :
    (keyword? ['a', 's', 'y', 'n', 'c'] (modifier ++ 'd' :: rest)).getD (modifier ++ 'd' :: rest) =
      'd' :: rest := by
  cases h with
  | absent => rfl
  | @async gap hne hgap =>
    have hk : keyword? ['a', 's', 'y', 'n', 'c']
        ((['a', 's', 'y', 'n', 'c'] ++ gap) ++ 'd' :: rest) = some ('d' :: rest) :=
      keyword?_eq_some_iff.2 ⟨gap, hne, hgap, by simp, stops_cons.2 (by decide)⟩
    rw [hk]
    rfl

/-- What the reader of the modifier drops is a modifier. -/
theorem exists_isModifier (cs : List Char) :
    ∃ modifier, IsModifier modifier ∧
      cs = modifier ++ (keyword? ['a', 's', 'y', 'n', 'c'] cs).getD cs := by
  cases hk : keyword? ['a', 's', 'y', 'n', 'c'] cs with
  | none => exact ⟨[], .absent, rfl⟩
  | some rest =>
    obtain ⟨gap, hne, hgap, rfl, -⟩ := keyword?_eq_some_iff.1 hk
    exact ⟨_, .async hne hgap, by simp⟩

/-- Whether a tail stands at the start of a text is decided by its own characters. -/
theorem tail?_eq_some_iff :
    tail? cs = some (name, rest) ↔ ∃ w, IsTail name w ∧ cs = w ++ rest := by
  constructor
  · intro h
    simp only [tail?, Option.bind_eq_bind, Option.bind_eq_some_iff] at h
    obtain ⟨a, ha, b, hb, c, hc, ⟨n, d⟩, hd, e, he, hf⟩ := h
    obtain ⟨rfl, rfl⟩ : n = name ∧ e = rest := by simpa using hf
    obtain rfl := List.isPrefixOf?_eq_some_iff_append_eq.1 ha
    obtain ⟨line, hline, hend, rfl, -⟩ := lineEnd?_eq_some_iff.1 hb
    obtain ⟨modifier, hmodifier, hm⟩ := exists_isModifier b
    obtain ⟨gap, hne, hgap, hcd, -⟩ := keyword?_eq_some_iff.1 hc
    obtain ⟨hname, rfl, -⟩ := name?_eq_some_iff.1 hd
    obtain ⟨after, hafter, hd', -⟩ := exists_blank_append_trimStart d
    have hr : ['('] ++ e = trimStart d := List.isPrefixOf?_eq_some_iff_append_eq.1 he
    refine ⟨_, .mk hline hend hmodifier hne hgap hname hafter, ?_⟩
    rw [hm, hcd, hd', ← hr]
    simp
  · rintro ⟨_, ⟨hline, hend, hmodifier, hne, hgap, hname, hafter⟩, rfl⟩
    rename_i line modifier gap after
    have hl : lineEnd? (line ++ (modifier ++ 'd' :: 'e' :: 'f' ::
        (gap ++ (name ++ (after ++ '(' :: rest))))) = some (modifier ++ 'd' :: 'e' :: 'f' ::
          (gap ++ (name ++ (after ++ '(' :: rest)))) :=
      lineEnd?_eq_some_iff.2 ⟨line, hline, hend, rfl, hmodifier.stops_isBlank⟩
    have hd : keyword? ['d', 'e', 'f'] ('d' :: 'e' :: 'f' ::
        (gap ++ (name ++ (after ++ '(' :: rest)))) = some (name ++ (after ++ '(' :: rest)) :=
      keyword?_eq_some_iff.2 ⟨gap, hne, hgap, rfl, hname.stops_isBlank _⟩
    have hn : name? (name ++ (after ++ '(' :: rest)) = some (name, after ++ '(' :: rest) :=
      name?_eq_some_iff.2 ⟨hname, rfl, stops_isNameChar_of_blank hafter⟩
    have ht : trimStart (after ++ '(' :: rest) = '(' :: rest :=
      trimStart_append hafter (stops_cons.2 (by decide))
    simp [tail?, List.isPrefixOf?, hl, hmodifier.keyword?_getD, hd, hn, ht]

/-! ## Heads -/

/-- The text of a head with its method and path. -/
inductive IsHead : Method → List Char → List Char → Prop where
  /-- The marker, the method, a parenthesis, and the path between quotes. -/
  | mk {m : Method} {gap path : List Char} {q q' : Char} (hgap : Blank gap)
      (hq : isQuote q = true) (hne : path ≠ []) (hpath : ∀ c ∈ path, isQuote c = false)
      (hq' : isQuote q' = true) :
      IsHead m path (marker ++ (m.keyword.toList ++ '(' :: (gap ++ q :: (path ++ [q']))))

theorem method?_eq_some_iff : method? cs = some (m, rest) ↔ cs = m.keyword.toList ++ rest := by
  constructor
  · intro h
    obtain ⟨n, -, hn⟩ := List.exists_of_findSome?_eq_some h
    obtain ⟨r, hr, he⟩ := Option.map_eq_some_iff.1 hn
    obtain ⟨rfl, rfl⟩ := Prod.mk.inj he
    exact (List.isPrefixOf?_eq_some_iff_append_eq.1 hr).symm
  · rintro rfl
    cases m <;> rfl

theorem quotedPath?_eq_some_iff :
    quotedPath? cs = some (path, rest) ↔
      ∃ q q', isQuote q = true ∧ isQuote q' = true ∧ path ≠ [] ∧ (∀ c ∈ path, isQuote c = false) ∧
        cs = q :: (path ++ q' :: rest) := by
  constructor
  · intro h
    cases cs with
    | nil => simp [quotedPath?] at h
    | cons q cs =>
      simp only [quotedPath?] at h
      split at h
      · next hq =>
        split at h
        · next c p d r hw hd =>
          obtain ⟨rfl, rfl⟩ := Prod.mk.inj (Option.some.inj h)
          have hs := stops_dropWhile (fun c => !isQuote c) cs
          rw [hd] at hs
          refine ⟨q, d, hq, by simpa using stops_cons.1 hs, by simp, ?_, ?_⟩
          · intro x hx
            have := all_takeWhile (fun c => !isQuote c) cs x (hw ▸ hx)
            simpa using this
          · rw [← hw, ← hd, List.takeWhile_append_dropWhile]
        · simp at h
      · simp at h
  · rintro ⟨q, q', hq, hq', hne, hpath, rfl⟩
    have hp : ∀ c ∈ path, (!isQuote c) = true := fun c hc => by simp [hpath c hc]
    have hs : Stops (fun c => !isQuote c) (q' :: rest) := stops_cons.2 (by simp [hq'])
    obtain ⟨c, p, rfl⟩ := List.exists_cons_of_ne_nil hne
    simp only [quotedPath?, hq, if_true, takeWhile_append_stops hp hs, dropWhile_append_stops hp hs]

/-- Whether a head stands at the start of a text is decided by its own characters. -/
theorem head?_eq_some_iff :
    head? cs = some (m, path, rest) ↔ ∃ w, IsHead m path w ∧ cs = w ++ rest := by
  constructor
  · intro h
    simp only [head?, Option.bind_eq_bind, Option.bind_eq_some_iff] at h
    obtain ⟨a, ha, ⟨n, b⟩, hb, c, hc, ⟨p, d⟩, hd, he⟩ := h
    obtain ⟨rfl, rfl, rfl⟩ : n = m ∧ p = path ∧ d = rest := by simpa using he
    have ha' := List.isPrefixOf?_eq_some_iff_append_eq.1 ha
    have hb' := method?_eq_some_iff.1 hb
    have hc' : ['('] ++ c = b := List.isPrefixOf?_eq_some_iff_append_eq.1 hc
    obtain ⟨gap, hgap, hg, -⟩ := exists_blank_append_trimStart c
    obtain ⟨q, q', hq, hq', hne, hpath, hp⟩ := quotedPath?_eq_some_iff.1 hd
    refine ⟨_, .mk hgap hq hne hpath hq', ?_⟩
    rw [← ha', hb', ← hc', hg, hp]
    simp
  · rintro ⟨_, ⟨hgap, hq, hne, hpath, hq'⟩, rfl⟩
    rename_i gap q q'
    have hm : method? (m.keyword.toList ++ '(' :: (gap ++ q :: (path ++ q' :: rest))) =
        some (m, '(' :: (gap ++ q :: (path ++ q' :: rest))) := method?_eq_some_iff.2 rfl
    have ht : trimStart (gap ++ q :: (path ++ q' :: rest)) = q :: (path ++ q' :: rest) := by
      refine trimStart_append hgap (stops_cons.2 ?_)
      simp only [isQuote, Bool.or_eq_true, beq_iff_eq] at hq
      rcases hq with rfl | rfl <;> decide
    have hp : quotedPath? (q :: (path ++ q' :: rest)) = some (path, rest) :=
      quotedPath?_eq_some_iff.2 ⟨q, q', hq, hq', hne, hpath, rfl⟩
    simp [head?, marker, List.isPrefixOf?, hm, ht, hp]

/-! ## Endpoints -/

/-- After its first parenthesis, a tail is made of blank characters, those of names and opening
parentheses. -/
theorem IsTail.exists_cons {w : List Char} (h : IsTail name w) :
    ∃ v, w = ')' :: v ∧ ∀ c ∈ v, isBlank c = true ∨ isNameChar c = true ∨ c = '(' := by
  obtain ⟨hline, -, hmodifier, -, hgap, hname, hafter⟩ := h
  refine ⟨_, rfl, fun c hc => ?_⟩
  simp only [List.mem_append, List.mem_cons, List.not_mem_nil, or_false] at hc
  rcases hc with hc | hc | rfl | rfl | rfl | hc | hc | hc | hc
  · exact .inl (hline c hc)
  · cases hmodifier with
    | absent => cases hc
    | async _ hgap =>
      rcases List.mem_append.1 hc with hc | hc
      · exact .inr (.inl (List.all_eq_true.1 (by decide) c hc))
      · exact .inl (hgap c hc)
  · exact .inr (.inl (by decide))
  · exact .inr (.inl (by decide))
  · exact .inr (.inl (by decide))
  · exact .inl (hgap c hc)
  · exact .inr (.inl (hname.isNameChar_of_mem c hc))
  · exact .inl (hafter c hc)
  · exact .inr (.inr hc)

/-- A parenthesis closes only at the start of a tail, so no tail reaches beyond the start of
another one. -/
theorem IsTail.closes_once {w : List Char} (h : IsTail name w) :
    ∃ v, w = ')' :: v ∧ ')' ∉ v := by
  obtain ⟨v, rfl, hv⟩ := h.exists_cons
  refine ⟨v, rfl, fun hmem => ?_⟩
  rcases hv _ hmem with hc | hc | hc
  · exact absurd hc (by decide)
  · exact absurd hc (by decide)
  · exact absurd hc (by decide)

/-- Where a text holds a tail, what follows that tail does not decide whether one stands before
it. -/
theorem tail?_append_eq_none {w after : List Char} (hw : IsTail handler w) (hne : before ≠ [])
    (h : tail? (before ++ (w ++ rest)) = none) : tail? (before ++ (w ++ after)) = none := by
  by_contra hsome
  obtain ⟨⟨n, r⟩, hr⟩ := Option.ne_none_iff_exists'.1 hsome
  obtain ⟨w', hw', heq⟩ := tail?_eq_some_iff.1 hr
  obtain ⟨v, rfl, hv⟩ := hw.closes_once
  obtain ⟨v', rfl, hv'⟩ := hw'.closes_once
  have hwithin : ∀ a, before = ')' :: v' ++ a → False := by
    rintro a rfl
    rw [List.append_assoc, tail?_eq_some_iff.2 ⟨_, hw', rfl⟩] at h
    simp at h
  rcases List.append_eq_append_iff.1 heq with ⟨a, hva, hra⟩ | ⟨a, hb, -⟩
  · obtain ⟨c, b, rfl⟩ := List.exists_cons_of_ne_nil hne
    cases a with
    | nil => exact hwithin [] (by simpa using hva.symm)
    | cons x a =>
      -- the other tail would have the parenthesis of this one inside
      obtain ⟨-, rfl⟩ : ')' = c ∧ v' = b ++ x :: a := by simpa using hva
      obtain ⟨rfl, -⟩ : ')' = x ∧ _ := by simpa using hra
      exact hv' (by simp)
  · exact hwithin a hb

/-- The first tail is read alike whatever follows it. -/
theorem firstTail?_local (h : firstTail? cs = some (before, handler, rest)) :
    ∃ w, IsTail handler w ∧ cs = before ++ (w ++ rest) ∧
      ∀ after, firstTail? (before ++ (w ++ after)) = some (before, handler, after) := by
  induction cs generalizing before with
  | nil => simp [firstTail?] at h
  | cons c cs ih =>
    simp only [firstTail?] at h
    split at h
    · next n r ht =>
      obtain ⟨rfl, rfl, rfl⟩ : [] = before ∧ n = handler ∧ r = rest := by simpa using h
      obtain ⟨w, hw, heq⟩ := tail?_eq_some_iff.1 ht
      refine ⟨w, hw, heq, fun after => ?_⟩
      have hafter : tail? (w ++ after) = some (n, after) := tail?_eq_some_iff.2 ⟨w, hw, rfl⟩
      obtain ⟨v, rfl, -⟩ := hw.closes_once
      rw [List.cons_append] at hafter
      simp [firstTail?, hafter]
    · next hnone =>
      obtain ⟨⟨b, n, r⟩, hr, he⟩ := Option.map_eq_some_iff.1 h
      obtain ⟨rfl, rfl, rfl⟩ : c :: b = before ∧ n = handler ∧ r = rest := by simpa using he
      obtain ⟨w, hw, rfl, hlocal⟩ := ih hr
      refine ⟨w, hw, rfl, fun after => ?_⟩
      have hafter : tail? (c :: b ++ (w ++ after)) = none :=
        tail?_append_eq_none hw (by simp) hnone
      rw [List.cons_append] at hafter ⊢
      simp [firstTail?, hafter, hlocal]

/-- An endpoint is read alike whatever follows it. -/
theorem endpoint?_local (h : endpoint? cs = some (e, rest)) :
    ∃ w, cs = w ++ rest ∧ ∀ after, endpoint? (w ++ after) = some (e, after) := by
  simp only [endpoint?, Option.bind_eq_bind, Option.bind_eq_some_iff] at h
  obtain ⟨⟨m, p, a⟩, ha, ⟨x, n, r⟩, hr, he⟩ := h
  obtain ⟨rfl, rfl⟩ : ⟨m, p, x, n⟩ = e ∧ r = rest := by simpa using he
  obtain ⟨u, hu, rfl⟩ := head?_eq_some_iff.1 ha
  obtain ⟨w, -, rfl, hlocal⟩ := firstTail?_local hr
  refine ⟨u ++ (x ++ w), by simp, fun after => ?_⟩
  have hhead : head? (u ++ (x ++ (w ++ after))) = some (m, p, x ++ (w ++ after)) :=
    head?_eq_some_iff.2 ⟨u, hu, rfl⟩
  simp [endpoint?, hhead, hlocal]

/-- More text after an endpoint changes nothing about it. -/
theorem endpoint?_append (h : endpoint? cs = some (e, rest)) (after : List Char) :
    endpoint? (cs ++ after) = some (e, rest ++ after) := by
  obtain ⟨w, rfl, hw⟩ := endpoint?_local h
  rw [List.append_assoc]
  exact hw _

/-- Where a longer text has no endpoint at its start, a shorter one has none. -/
theorem endpoint?_eq_none_of_append {after : List Char} (h : endpoint? (cs ++ after) = none) :
    endpoint? cs = none := by
  cases hc : endpoint? cs with
  | none => rfl
  | some er =>
    rw [endpoint?_append hc] at h
    simp at h

end Cadastre.Router
