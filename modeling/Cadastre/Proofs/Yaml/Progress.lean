import Cadastre.Proofs.Yaml.Unquoted
import Cadastre.Yaml.Scanner

/-!
# From one token to the next

What a run of the scanner has read is told token by token: a run goes from one state to another in
no more steps than characters, the next token is read where blanks and breaks end, and block
collections are closed by the column of that place.
-/

namespace Cadastre.Yaml

open Text (Mark Stops stops_cons byteCount)

namespace Scanner

variable {s t u : Scanner} {c : Cursor} {token : Token} {mark : Mark} {a b : List Token} {ch : Char}
  {cs more : List Char}

/-! ## The tokens so far -/

/-- The tokens so far, in their order and without their places. -/
def read (s : Scanner) : List Token := s.tokens.reverse.map Lexeme.token

theorem length_read (s : Scanner) : s.read.length = s.tokens.length := by
  simp [read]

theorem read_pass (token : Token) (c : Cursor) (s : Scanner) :
    (s.pass token c).read = s.read ++ [token] := by
  simp [read, pass, push, moveTo]

theorem read_mark (token : Token) (width : Nat) (s : Scanner) :
    (s.mark token width).read = s.read ++ [token] := read_pass ..

/-- A token is put after as many tokens as it is given. -/
theorem read_insertAt (h : s.read = a ++ b) :
    (s.insertAt a.length token mark).read = a ++ token :: b := by
  have hlater : s.tokens.length - a.length = b.length := by
    rw [← length_read, h, List.length_append]
    omega
  have hback : s.tokens.map Lexeme.token = b.reverse ++ a.reverse := by
    have hreverse := congrArg List.reverse h
    rwa [read, ← List.map_reverse, List.reverse_reverse, List.reverse_append] at hreverse
  have hlength : b.length = b.reverse.length := List.length_reverse.symm
  have htake : (s.tokens.take b.length).map Lexeme.token = b.reverse := by
    rw [List.map_take, hback, hlength, List.take_left]
  have hdrop : (s.tokens.drop b.length).map Lexeme.token = a.reverse := by
    rw [List.map_drop, hback, hlength, List.drop_left]
  rw [read, insertAt, hlater]
  simp only [List.reverse_append, List.reverse_cons, List.map_append, List.map_cons,
    List.map_reverse, htake, hdrop, List.reverse_reverse, List.append_assoc, List.singleton_append]

/-! ## Runs -/

/-- A run goes from one state to another, in at most as many steps as characters lie between. -/
def Reaches (s t : Scanner) : Prop :=
  ∃ n, n + t.cursor.rest.length ≤ s.cursor.rest.length ∧ ∀ fuel, s.run (n + fuel) = t.run fuel

theorem Reaches.refl (s : Scanner) : Reaches s s :=
  ⟨0, by simp, fun fuel => by rw [Nat.zero_add]⟩

theorem Reaches.trans (hst : Reaches s t) (htu : Reaches t u) : Reaches s u := by
  obtain ⟨m, hm, hrun⟩ := hst
  obtain ⟨n, hn, hrun'⟩ := htu
  refine ⟨m + n, by omega, fun fuel => ?_⟩
  rw [Nat.add_assoc, hrun, hrun']

/-- One step of a run reads one token. -/
theorem Reaches.step (hended : s.ended = false) (hnext : s.next.bind dropStale = .ok t)
    (hshort : t.cursor.rest.length < s.cursor.rest.length) : Reaches s t := by
  refine ⟨1, by omega, fun fuel => ?_⟩
  rw [Nat.add_comm, run, hended, hnext]
  rfl

/-! ## Pending keys -/

/-- Stale keys are dropped where none of them had to be a key. -/
theorem dropStale_eq
    (h : ∀ k, some k ∈ s.pending → isStale s.cursor k = true → k.required = false) :
    s.dropStale =
      .ok { s with pending := s.pending.map fun k => k.filter fun k => !isStale s.cursor k } := by
  have hnone :
      (s.pending.filterMap id).find? (fun k => isStale s.cursor k && k.required) = none := by
    rw [List.find?_eq_none]
    intro k hk
    have hmem : some k ∈ s.pending := by simpa using hk
    cases hstale : isStale s.cursor k with
    | false => simp
    | true => simp [h k hmem hstale]
  rw [dropStale, hnone]

/-- Where no key is pending, none is stale. -/
theorem dropStale_none (h : ∀ k ∈ s.pending, k = none) : s.dropStale = .ok s := by
  have hsame : (s.pending.map fun k => k.filter fun k => !isStale s.cursor k) = s.pending := by
    conv_rhs => rw [← List.map_id s.pending]
    refine List.map_congr_left fun k hk => ?_
    rw [h k hk]
    rfl
  rw [dropStale_eq, hsame]
  intro k hk
  cases h _ hk

/-- A key on the line of the place, near enough, stays pending. -/
theorem dropStale_some {k : PendingKey} (h : s.pending = [some k])
    (hnear : isStale s.cursor k = false) : s.dropStale = .ok s := by
  have hsame : (s.pending.map fun k => k.filter fun k => !isStale s.cursor k) = s.pending := by
    rw [h]
    simp [hnear]
  rw [dropStale_eq, hsame]
  intro j hj hstale
  rw [h, List.mem_singleton] at hj
  rw [Option.some.inj hj, hnear] at hstale
  cases hstale

/-- A key is not stale where it ends, on the line where it begins, if it is short. -/
theorem isStale_skip {required : Bool} {number : Nat} {w more : List Char}
    (hc : c.rest = w ++ more) (hshort : byteCount w ≤ 1024) :
    isStale (c.skip w.length) ⟨required, number, c⟩ = false := by
  have hline : ¬ c.line < (c.skip w.length).line := Nat.lt_irrefl _
  have hindex : ¬ c.index + 1024 < (c.skip w.length).index := by
    rw [Cursor.skip_index_append hc]
    omega
  exact Bool.or_eq_false_iff.2 ⟨decide_eq_false hline, decide_eq_false hindex⟩

/-! ## The next token -/

/-- Where the next token begins, and what is read there. -/
theorem next_eq {keyAllowed : Bool}
    (htoken : s.cursor.toToken s.inFlow (s.cursor.rest.length + 1) s.keyAllowed = (keyAllowed, c))
    (hstale : ({ s with keyAllowed }.moveTo c).dropStale = .ok t) :
    s.next = (t.closeBlocks t.cursor.column).readToken := by
  rw [next, htoken]
  simp only [hstale]
  rfl

/-- No block collection is closed to the right of the innermost one. -/
theorem closeBlocks_of_le {column : Int} (h : s.indent ≤ column) : s.closeBlocks column = s := by
  have hnone : (s.indent :: s.outer).takeWhile (column < ·) = [] := by
    simp [show ¬ column < s.indent by omega]
  rw [closeBlocks]
  split
  · rfl
  · simp only [hnone, List.length_nil, List.drop_zero, List.replicate_zero, List.nil_append]

theorem closeBlocks_inFlow (h : s.inFlow = true) (column : Int) : s.closeBlocks column = s := by
  rw [closeBlocks, if_pos h]

/-- The next token begins at the place. -/
theorem next_here (hc : StartsToken s.cursor.rest) (hstale : s.dropStale = .ok t)
    (hclose : t.closeBlocks t.cursor.column = t) : s.next = t.readToken := by
  have htoken : s.cursor.toToken s.inFlow (s.cursor.rest.length + 1) s.keyAllowed =
      (s.keyAllowed, s.cursor.skip 0) := Cursor.toToken_spaces (n := 0) rfl hc
  rw [Cursor.skip_zero] at htoken
  exact (next_eq htoken hstale).trans (congrArg readToken hclose)

/-- The state in which so many block collections have been closed that others are left. -/
def closed (inner : List Int) (i : Int) (is : List Int) (s : Scanner) : Scanner :=
  { s with
    indent := i
    outer := is
    tokens := List.replicate inner.length ⟨.blockEnd, s.cursor.mark⟩ ++ s.tokens }

theorem read_closed (inner : List Int) (i : Int) (is : List Int) (s : Scanner) :
    (s.closed inner i is).read = s.read ++ List.replicate inner.length .blockEnd := by
  simp [read, closed]

/-- The block collections beyond a column are closed. -/
theorem closeBlocks_append {column i : Int} {inner is : List Int} (hflow : s.inFlow = false)
    (hcolumns : s.indent :: s.outer = inner ++ i :: is) (hinner : ∀ j ∈ inner, column < j)
    (hi : i ≤ column) : s.closeBlocks column = s.closed inner i is := by
  have hclosed : (inner ++ i :: is).takeWhile (column < ·) = inner := by
    rw [List.takeWhile_append_of_pos (fun j hj => by simpa using hinner j hj),
      List.takeWhile_cons_of_neg (by simpa using hi), List.append_nil]
  rw [closeBlocks, hcolumns, hflow]
  simp only [Bool.false_eq_true, if_false, hclosed, List.drop_left]
  rfl

/-! ## Which token it is -/

theorem startsAsMark_append (h : startsAsMark cs = false) (hne : cs ≠ []) (rest : List Char) :
    startsAsMark (cs ++ rest) = false := by
  obtain ⟨ch, cs, rfl⟩ := List.exists_cons_of_ne_nil hne
  rw [startsAsMark] at h
  rw [List.cons_append, startsAsMark]
  cases cs with
  | cons d cs => exact h
  | nil =>
    simp only [atGapOrEnd, Bool.and_true, Bool.or_eq_false_iff] at h
    rw [h.1, h.2]
    rfl

theorem startsAsMark_of_isAlphanum (h : ch.isAlphanum = true) (more : List Char) :
    startsAsMark (ch :: more) = false := by
  have hnone : ∀ xs : List Char, xs.any Char.isAlphanum = false → ch ∉ xs := by
    intro xs hxs hch
    exact List.any_eq_false.1 hxs ch hch h
  rw [startsAsMark, decide_eq_false (hnone _ rfl), decide_eq_false (hnone _ rfl)]
  rfl

/-- A dash, a question mark or a colon with a character behind it makes no mark. -/
theorem indicator_eq_false {x : Char} (hmark : startsAsMark (ch :: more) = false)
    (hx : x ∈ ['?', ':', '-']) : (ch == x && atGapOrEnd more) = false := by
  rw [startsAsMark, Bool.or_eq_false_iff] at hmark
  rw [Bool.and_eq_false_imp]
  intro h
  obtain rfl : ch = x := by simpa using h
  simpa [hx] using hmark.2

theorem flowIndicator_eq_false {x : Char} {flow : Bool} (hmark : startsAsMark (ch :: more) = false)
    (hflow : flow = true → ch ≠ '?' ∧ ch ≠ ':') (hx : x = '?' ∨ x = ':') :
    (ch == x && (flow || atGapOrEnd more)) = false := by
  cases flow with
  | false => exact indicator_eq_false hmark (by rcases hx with rfl | rfl <;> decide)
  | true =>
    obtain ⟨hquestion, hcolon⟩ := hflow rfl
    rcases hx with rfl | rfl
    · simp [hquestion]
    · simp [hcolon]

theorem startsPlain_of_startsAsMark {flow : Bool} (hmark : startsAsMark (ch :: more) = false)
    (hgap : isGapOrBreak ch = false) (hflow : flow = true → ch ≠ '?' ∧ ch ≠ ':') :
    startsPlain flow ch more = true := by
  have hnone : ch ∉ [',', '[', ']', '\x7b', '\x7d', '#', '&', '*', '!', '|', '>', '\'', '"', '%',
      '@', '\x60'] := by
    intro h
    rw [startsAsMark, Bool.or_eq_false_iff, decide_eq_false_iff_not] at hmark
    refine hmark.1 ?_
    simp only [List.mem_cons, List.not_mem_nil, or_false] at h ⊢
    tauto
  rw [startsPlain, if_neg (by simpa using hnone)]
  by_cases hdash : ch = '-'
  · subst hdash
    have hmore := indicator_eq_false hmark (x := '-') (by decide)
    cases more with
    | nil => rfl
    | cons d more =>
      simp only [beq_self_eq_true, Bool.true_and, atGapOrEnd, isGapOrBreak,
        Bool.or_eq_false_iff] at hmore
      simp [hmore.1]
  · by_cases hkey : ch = '?' ∨ ch = ':'
    · have hmore := flowIndicator_eq_false hmark hflow hkey
      simp only [beq_self_eq_true, Bool.true_and, Bool.or_eq_false_iff] at hmore
      simp [hdash, hkey, hmore.1, hmore.2]
    · simp [hdash, hkey, hgap]

/-- A character that makes no mark begins a plain scalar. -/
theorem readToken_plain (hc : s.cursor.rest = ch :: more)
    (hmark : startsAsMark (ch :: more) = false) (hgap : isGapOrBreak ch = false)
    (hflow : s.inFlow = true → ch ≠ '?' ∧ ch ≠ ':')
    (hborder : OffBorder s.cursor) : s.readToken = s.readPlain := by
  have hborder' : (s.cursor.column == 0 && startsBorder (ch :: more)) = false :=
    hc ▸ hborder.eq_false
  have hdash := indicator_eq_false hmark (x := '-') (by decide)
  have hquestion := flowIndicator_eq_false hmark hflow (.inl rfl)
  have hcolon := flowIndicator_eq_false hmark hflow (.inr rfl)
  have hstart := startsPlain_of_startsAsMark hmark hgap hflow
  have hnone := hmark
  rw [startsAsMark, Bool.or_eq_false_iff, decide_eq_false_iff_not] at hnone
  simp only [List.mem_cons, List.not_mem_nil, or_false, not_or] at hnone
  obtain ⟨⟨-, h1, h2, h3, h4, h5, h6, h7, h8, h9, h10, h11, h12, h13, -⟩, -⟩ := hnone
  rw [readToken, hc]
  simp [hborder', hdash, hquestion, hcolon, hstart, h1, h2, h3, h4, h5, h6, h7, h8, h9, h10, h11,
    h12, h13]

theorem readToken_dash (hc : s.cursor.rest = '-' :: more) (hmore : atGapOrEnd more = true) :
    s.readToken = s.readDash := by
  have hborder : startsBorder ('-' :: more) = false := by
    cases more with
    | nil => rfl
    | cons d more =>
      have hd : d ≠ '-' := by
        rintro rfl
        cases hmore
      unfold startsBorder
      split
      · next h => exact absurd (List.cons.inj (List.cons.inj h).2).1 hd
      · next h => exact absurd (List.cons.inj h).1 (by decide)
      · rfl
  simp [readToken, hc, hborder, hmore]

theorem readToken_colon (hc : s.cursor.rest = ':' :: more)
    (hmore : s.inFlow = true ∨ atGapOrEnd more = true) : s.readToken = s.readValue := by
  have hvalue : (s.inFlow || atGapOrEnd more) = true := by simpa using hmore
  simp [readToken, hc, startsBorder, hvalue]

theorem readToken_quote (hc : s.cursor.rest = ch :: more) (hch : ch = '\'' ∨ ch = '"') :
    s.readToken = s.readQuoted ch := by
  rcases hch with rfl | rfl <;> simp [readToken, hc, startsBorder]

theorem readToken_bar (hc : s.cursor.rest = '|' :: more) (hflow : s.inFlow = false) :
    s.readToken = s.readBlock false := by
  simp [readToken, hc, startsBorder, hflow]

theorem readToken_openSequence (hc : s.cursor.rest = '[' :: more) :
    s.readToken = s.readOpen .flowSequenceStart := by
  simp [readToken, hc, startsBorder]

theorem readToken_closeSequence (hc : s.cursor.rest = ']' :: more) :
    s.readToken = s.readClose .flowSequenceEnd := by
  simp [readToken, hc, startsBorder]

theorem readToken_openMapping (hc : s.cursor.rest = '\x7b' :: more) :
    s.readToken = s.readOpen .flowMappingStart := by
  simp [readToken, hc, startsBorder]

theorem readToken_closeMapping (hc : s.cursor.rest = '\x7d' :: more) :
    s.readToken = s.readClose .flowMappingEnd := by
  simp [readToken, hc, startsBorder]

theorem readToken_comma (hc : s.cursor.rest = ',' :: more) : s.readToken = s.readComma := by
  simp [readToken, hc, startsBorder]

end Scanner

end Cadastre.Yaml
