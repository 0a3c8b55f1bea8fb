import Cadastre.Proofs.Yaml.Block
import Cadastre.Proofs.Yaml.Progress

/-!
# Tokens outside of brackets

Outside of brackets tokens stand on lines, and the columns of the lines tell which collections are
open. One statement for each kind of token says from which states it is read and to which it leads:
a dash, a key with its colon, the scalars and the empty list behind a colon, and the end.
-/

namespace Cadastre.Yaml

open Text (Mark Stops stops_cons byteCount)

theorem StartsToken.stops {cs : List Char} (h : StartsToken cs) : Stops isGapOrBreak cs :=
  fun x hx => (h x hx).1

namespace Scanner

variable {s t : Scanner} {c : Cursor} {ch : Char} {cs k rest more : List Char} {column n : Nat}
  {i : Int} {is columns : List Int} {tokens : List Token}

/-! ## States -/

/-- A state outside of brackets with no key pending: the columns of the collections that are open,
and the tokens so far. -/
structure Outside (s : Scanner) (columns : List Int) (tokens : List Token) : Prop where
  pending : s.pending = [none]
  ended : s.ended = false
  columns : s.indent :: s.outer = columns
  read : s.read = tokens

theorem Outside.dropStale (h : Outside s columns tokens) : s.dropStale = .ok s :=
  dropStale_none (by simp [h.pending])

theorem Outside.inFlow (h : Outside s columns tokens) : s.inFlow = false := by
  simp [Scanner.inFlow, h.pending]

theorem Outside.moveTo (h : Outside s columns tokens) (c : Cursor) (keyAllowed : Bool) :
    Outside ({ s with keyAllowed }.moveTo c) columns tokens :=
  ⟨h.pending, h.ended, h.columns, h.read⟩

theorem Outside.pass (h : Outside s columns tokens) (token : Token) (c : Cursor)
    (keyAllowed : Bool) :
    Outside ({ s with keyAllowed }.pass token c) columns (tokens ++ [token]) :=
  ⟨h.pending, h.ended, h.columns, by rw [read_pass, ← h.read]; rfl⟩

/-- A state at a token that stands in a column and may be a key. -/
structure Ready (s : Scanner) (rest : List Char) (column : Nat) (columns : List Int)
    (tokens : List Token) : Prop extends Outside s columns tokens where
  keyAllowed : s.keyAllowed = true
  rest : s.cursor.rest = rest
  column : s.cursor.column = column

/-- A state behind the colon of a key, or at what comes there on the same line. -/
structure Behind (s : Scanner) (rest : List Char) (columns : List Int) (tokens : List Token) :
    Prop extends Outside s columns tokens where
  keyAllowed : s.keyAllowed = false
  rest : s.cursor.rest = rest
  inner : s.indent < s.cursor.column
  later : s.cursor.column ≠ 0

/-- A state in front of a token that stands in a column and may be a key. The collections in columns
to the right of some count as closed. -/
structure Awaits (s : Scanner) (rest : List Char) (column : Nat) (columns : List Int)
    (tokens : List Token) : Prop where
  pending : s.pending = [none]
  ended : s.ended = false
  place : ∃ c, s.cursor.toToken false (s.cursor.rest.length + 1) s.keyAllowed = (true, c) ∧
    c.rest = rest ∧ c.column = column ∧ rest.length ≤ s.cursor.rest.length
  collections : ∃ inner, s.indent :: s.outer = inner ++ columns ∧
    (∀ j ∈ inner, (column : Int) < j) ∧ s.read ++ List.replicate inner.length .blockEnd = tokens

/-- A collection in a column to the right of the next token is closed. -/
theorem Awaits.close (h : Awaits s rest column (i :: is) tokens) (hi : (column : Int) < i) :
    Awaits s rest column is (tokens ++ [.blockEnd]) := by
  obtain ⟨inner, hcolumns, hinner, hread⟩ := h.collections
  refine ⟨h.pending, h.ended, h.place, inner ++ [i], by simpa using hcolumns, fun j hj => ?_, ?_⟩
  · rcases List.mem_append.1 hj with hj | hj
    · exact hinner j hj
    · rw [List.mem_singleton.1 hj]
      exact hi
  · rw [← hread, List.length_append, List.length_singleton, List.replicate_succ',
      List.append_assoc]

/-- The next token is read from a state at its place. -/
theorem Awaits.exists_ready (h : Awaits s rest column (i :: is) tokens) (hi : i ≤ column) :
    ∃ r, Ready r rest column (i :: is) tokens ∧ s.next = r.readToken := by
  obtain ⟨c, htoken, hrest, hcolumn, -⟩ := h.place
  obtain ⟨inner, hcolumns, hinner, hread⟩ := h.collections
  have hflow : s.inFlow = false := by simp [inFlow, h.pending]
  obtain ⟨r, hr⟩ : ∃ r, { s with keyAllowed := true }.moveTo c = r := ⟨_, rfl⟩
  have hout : r.pending = [none] ∧ r.ended = false ∧ r.keyAllowed = true ∧ r.cursor = c ∧
      r.read = s.read ∧ r.indent :: r.outer = inner ++ i :: is := by
    rw [← hr]
    exact ⟨h.pending, h.ended, rfl, rfl, rfl, hcolumns⟩
  obtain ⟨hpending, hended, hkey, hplace, hsame, hcolumns'⟩ := hout
  have hclose : r.closeBlocks r.cursor.column = r.closed inner i is := by
    refine closeBlocks_append (by simp [inFlow, hpending]) hcolumns' ?_ ?_
    · rwa [hplace, hcolumn]
    · rwa [hplace, hcolumn]
  refine ⟨r.closed inner i is,
    ⟨⟨hpending, hended, rfl, ?_⟩, hkey, hplace ▸ hrest, hplace ▸ hcolumn⟩, ?_⟩
  · rw [read_closed, hsame, hread]
  · have hstale : ({ s with keyAllowed := true }.moveTo c).dropStale = .ok r := by
      rw [hr]
      exact dropStale_none (by simp [hpending])
    rw [← hflow] at htoken
    rw [next_eq htoken hstale, hclose]

theorem Awaits.length_le (h : Awaits s rest column columns tokens) :
    rest.length ≤ s.cursor.rest.length := by
  obtain ⟨-, -, -, -, hlength⟩ := h.place
  exact hlength

/-- The next token stands behind spaces. -/
theorem Outside.awaits_spaces (h : Outside s columns tokens) (hkey : s.keyAllowed = true)
    (hc : s.cursor.rest = List.replicate n ' ' ++ rest) (hrest : StartsToken rest) :
    Awaits s rest (s.cursor.column + n) columns tokens := by
  refine ⟨h.pending, h.ended, ⟨s.cursor.skip n, ?_, ?_, rfl, ?_⟩, [], h.columns, by simp, ?_⟩
  · rw [Cursor.toToken_spaces hc hrest, hkey]
  · simpa using Cursor.skip_rest_append (w := List.replicate n ' ') hc
  · rw [hc, List.length_append]
    omega
  · rw [h.read]
    simp

/-- The next token stands at the place. -/
theorem Outside.awaits_here (h : Outside s columns tokens) (hkey : s.keyAllowed = true)
    (hc : s.cursor.rest = rest) (hcolumn : s.cursor.column = n) (hrest : StartsToken rest) :
    Awaits s rest n columns tokens := by
  subst hcolumn
  exact h.awaits_spaces (n := 0) hkey hc hrest

/-- The next token stands on the next line. -/
theorem Outside.awaits_newLine (h : Outside s columns tokens)
    (hc : s.cursor.rest = '\n' :: (List.replicate n ' ' ++ rest)) (hrest : StartsToken rest) :
    Awaits s rest n columns tokens := by
  obtain ⟨hplace, hcolumn⟩ := Cursor.skip_nextLine hc
  refine ⟨h.pending, h.ended, ⟨s.cursor.nextLine.skip n, ?_, hplace, hcolumn, ?_⟩, [], h.columns,
    by simp, ?_⟩
  · have hlength : s.cursor.rest.length + 1 = (List.replicate n ' ' ++ rest).length + 2 := by
      rw [hc, List.length_cons]
    rw [hlength, Cursor.toToken_newLine hc hrest]
    simp
  · rw [hc, List.length_cons, List.length_append]
    omega
  · rw [h.read]
    simp

/-- What comes behind a colon and a space is read from a state at its place. -/
theorem Behind.exists_at (h : Behind s (' ' :: rest) columns tokens) (hrest : StartsToken rest) :
    ∃ r, Behind r rest columns tokens ∧ s.next = r.readToken := by
  have hspace : s.cursor.rest = List.replicate 1 ' ' ++ rest := h.rest
  have htoken : s.cursor.toToken s.inFlow (s.cursor.rest.length + 1) s.keyAllowed =
      (s.keyAllowed, s.cursor.skip 1) := Cursor.toToken_spaces hspace hrest
  have hstale : (s.moveTo (s.cursor.skip 1)).dropStale = .ok (s.moveTo (s.cursor.skip 1)) :=
    dropStale_none (by simp [Scanner.moveTo, h.pending])
  have hright : s.indent < (s.cursor.skip 1).column := by
    have hinner := h.inner
    rw [Cursor.skip_column]
    omega
  refine ⟨s.moveTo (s.cursor.skip 1), ⟨⟨h.pending, h.ended, h.columns, h.read⟩, h.keyAllowed,
    Cursor.skip_rest_cons h.rest, hright, Nat.succ_ne_zero _⟩, ?_⟩
  have hclose : (s.moveTo (s.cursor.skip 1)).closeBlocks (s.cursor.skip 1).column =
      s.moveTo (s.cursor.skip 1) := closeBlocks_of_le (Int.le_of_lt hright)
  exact (next_eq htoken hstale).trans (congrArg readToken hclose)

/-- A step of a run that ends outside of brackets with no key pending. -/
theorem Outside.reaches {r : Scanner} (h : Outside t columns tokens) (hended : s.ended = false)
    (hnext : s.next = r.readToken) (hread : r.readToken = .ok t)
    (hshort : t.cursor.rest.length < s.cursor.rest.length) : Reaches s t := by
  refine Reaches.step hended ?_ hshort
  rw [hnext, hread]
  exact h.dropStale

/-! ## Scalars behind a colon -/

/-- A plain scalar behind a colon. -/
theorem Behind.plain (hcs : Plainly cs) (hmark : startsAsMark cs = false)
    (hstart : StartsToken cs) (hrest : StartsToken rest) (hn : n ≤ i)
    (h : Behind s (' ' :: (cs ++ '\n' :: (List.replicate n ' ' ++ rest))) (i :: is) tokens) :
    ∃ t, Reaches s t ∧
      Awaits t rest n (i :: is) (tokens ++ [.scalar .plain (String.ofList cs)]) := by
  obtain ⟨ch, more, rfl⟩ := List.exists_cons_of_ne_nil hcs.nonempty
  obtain ⟨r, hr, hnext⟩ := h.exists_at (startsToken_cons.2 (startsToken_cons.1 hstart))
  obtain ⟨hindent, -⟩ := List.cons.inj hr.columns
  have hborder : OffBorder r.cursor := fun hzero => absurd hzero hr.later
  have hread : Yaml.plain r.inFlow (r.indent + 1) r.cursor = .ok
      ⟨ch :: more, true, (r.cursor.skip (ch :: more).length).nextLine.skip n⟩ := by
    rw [hr.inFlow]
    refine plain_of_plainly hcs hr.rest hrest.stops hborder ?_ ?_
    · have hinner := hr.inner
      omega
    · omega
  obtain ⟨hplace, hcolumn⟩ := Cursor.skip_nextLine (Cursor.skip_rest_append hr.rest)
  have hout := hr.toOutside.pass (.scalar .plain (String.ofList (ch :: more)))
    ((r.cursor.skip (ch :: more).length).nextLine.skip n) true
  refine ⟨_, hout.reaches h.ended hnext ?_ ?_, ?_⟩
  · rw [readToken_plain hr.rest (startsAsMark_append hmark hcs.nonempty _)
      (startsToken_cons.1 hstart).1 (fun hflow => by simp [hr.inFlow] at hflow) hborder, readPlain]
    have hsave : r.saveKey = .ok r := by rw [saveKey, hr.keyAllowed]; rfl
    simp only [bind, Except.bind, hsave, hread]
  · show ((r.cursor.skip (ch :: more).length).nextLine.skip n).rest.length < _
    rw [hplace, h.rest]
    simp
    omega
  · exact hout.awaits_here rfl hplace hcolumn hrest

/-- How a scalar between quotes is written. -/
def quoteStyle (quote : Char) : Style := if quote == '"' then .double else .single

/-- A scalar between quotes behind a colon. -/
theorem Behind.quoted {quote : Char} {body value : List Char} (hquote : quote = '\'' ∨ quote = '"')
    (hbody : Spells quote body value) (hrest : StartsToken rest)
    (h : Behind s (' ' :: quote :: (body ++ quote :: '\n' :: (List.replicate n ' ' ++ rest)))
      columns tokens) :
    ∃ t, Reaches s t ∧
      Awaits t rest n columns (tokens ++ [.scalar (quoteStyle quote) (String.ofList value)]) := by
  have hgap : isGapOrBreak quote = false := by rcases hquote with rfl | rfl <;> rfl
  have hstart :
      StartsToken (quote :: (body ++ quote :: '\n' :: (List.replicate n ' ' ++ rest))) := by
    refine startsToken_cons.2 ⟨hgap, ?_⟩
    rcases hquote with rfl | rfl <;> decide
  obtain ⟨r, hr, hnext⟩ := h.exists_at hstart
  obtain ⟨after, hread, hafter, -⟩ := quoted_of_spells hgap hbody hr.rest (fun _ => by simp)
  have hout := hr.toOutside.pass (.scalar (quoteStyle quote) (String.ofList value)) after false
  refine ⟨_, hout.reaches h.ended hnext ?_ ?_, hout.awaits_newLine hafter hrest⟩
  · have hsave : r.saveKey = .ok r := by rw [saveKey, hr.keyAllowed]; rfl
    rw [readToken_quote hr.rest hquote, readQuoted]
    simp only [bind, Except.bind, hsave, hread]
    rfl
  · show after.rest.length < _
    rw [hafter, h.rest]
    simp
    omega

/-- A literal block behind a colon, in a mapping that stands in some column. -/
theorem Behind.literal {parent : Nat} (hcs : Lined cs) (hne : cs ≠ []) (hrest : StartsToken rest)
    (hn : n < parent + 2)
    (h : Behind s (' ' :: (literal (parent + 2) cs ++
      (closing cs ++ (List.replicate n ' ' ++ rest)))) ((parent : Int) :: is) tokens) :
    ∃ t, Reaches s t ∧
      Awaits t rest n (parent :: is) (tokens ++ [.scalar .literal (String.ofList cs)]) := by
  obtain ⟨more, hmore⟩ : ∃ more, Yaml.literal (parent + 2) cs = '|' :: more := ⟨_, literal_eq _ _⟩
  obtain ⟨r, hr, hnext⟩ := h.exists_at
    (by rw [hmore]; exact startsToken_cons.2 ⟨rfl, by decide, by decide⟩)
  obtain ⟨hindent, -⟩ := List.cons.inj hr.columns
  obtain ⟨after, hread, hafter, hcolumn⟩ := block_literal hcs hne hn hrest.stops hr.rest
  have hout := hr.toOutside.pass (.scalar .literal (String.ofList cs)) after true
  refine ⟨_, hout.reaches h.ended hnext ?_ ?_, hout.awaits_here rfl hafter hcolumn hrest⟩
  · have hdrop : r.dropKey = .ok r := by rw [dropKey, hr.pending]
    have hbar : r.cursor.rest =
        '|' :: (more ++ (closing cs ++ (List.replicate n ' ' ++ rest))) := by
      rw [hr.rest, hmore, List.cons_append]
    rw [← hindent] at hread
    rw [readToken_bar hbar hr.inFlow, readBlock]
    simp only [bind, Except.bind, hdrop, hread]
    rfl
  · show after.rest.length < _
    rw [hafter, h.rest]
    simp
    omega

/-! ## Lists behind a colon -/

/-- The empty list behind a colon. -/
theorem Behind.emptyList (hrest : StartsToken rest)
    (h : Behind s (' ' :: '[' :: ']' :: '\n' :: (List.replicate n ' ' ++ rest)) columns tokens) :
    ∃ t, Reaches s t ∧
      Awaits t rest n columns (tokens ++ [.flowSequenceStart, .flowSequenceEnd]) := by
  obtain ⟨r, hr, hnext⟩ :=
    h.exists_at (startsToken_cons.2 ⟨rfl, by decide, by decide⟩)
  have hsave : r.saveKey = .ok r := by rw [saveKey, hr.keyAllowed]; rfl
  have hopen : r.readToken = .ok
      ({ r with pending := [none, none], keyAllowed := true }.mark .flowSequenceStart 1) := by
    rw [readToken_openSequence hr.rest, readOpen, hsave]
    simp only [Except.map, hr.pending]
  obtain ⟨m, hm⟩ : ∃ m, { r with pending := [none, none], keyAllowed := true }.mark
    .flowSequenceStart 1 = m := ⟨_, rfl⟩
  rw [hm] at hopen
  have hbetween : m.pending = [none, none] ∧ m.keyAllowed = true ∧ m.ended = false ∧
      m.cursor.rest = ']' :: '\n' :: (List.replicate n ' ' ++ rest) ∧
      m.indent :: m.outer = columns ∧ m.read = tokens ++ [.flowSequenceStart] := by
    rw [← hm]
    refine ⟨rfl, rfl, hr.ended, Cursor.skip_rest_cons hr.rest, hr.columns, ?_⟩
    rw [← hr.read]
    exact read_pass ..
  obtain ⟨hpending, hkey, hended, hplace, hcolumns, hread⟩ := hbetween
  have hshort : m.cursor.rest.length < s.cursor.rest.length := by
    rw [hplace, h.rest]
    simp
  have hstale : m.dropStale = .ok m := dropStale_none (by simp [hpending])
  have hopened : Reaches s m := by
    refine Reaches.step h.ended ?_ hshort
    rw [hnext, hopen]
    exact hstale
  have hclose : m.readToken = .ok
      ({ m with pending := [none], keyAllowed := false }.mark .flowSequenceEnd 1) := by
    have hdrop : m.dropKey = .ok m := by rw [dropKey, hpending]
    have hflow : m.inFlow = true := by simp [inFlow, hpending]
    rw [readToken_closeSequence hplace, readClose, hdrop]
    simp only [Except.map, hflow, if_true, hpending, List.tail_cons]
  have hnext' : m.next = m.readToken :=
    next_here (by rw [hplace]; exact startsToken_cons.2 ⟨rfl, by decide, by decide⟩) hstale
      (closeBlocks_inFlow (by simp [inFlow, hpending]) _)
  have hout : Outside ({ m with pending := [none], keyAllowed := false }.mark .flowSequenceEnd 1)
      columns (tokens ++ [.flowSequenceStart, .flowSequenceEnd]) := by
    refine ⟨rfl, hended, hcolumns, ?_⟩
    have htokens : tokens ++ [.flowSequenceStart, .flowSequenceEnd] =
        m.read ++ [.flowSequenceEnd] := by
      rw [hread, List.append_assoc]
      rfl
    rw [htokens]
    exact read_pass ..
  have hplace' := Cursor.skip_rest_cons hplace
  refine ⟨_, hopened.trans (hout.reaches hended hnext' hclose ?_),
    hout.awaits_newLine hplace' hrest⟩
  show (m.cursor.skip 1).rest.length < _
  rw [hplace', hplace]
  simp

/-- The dash of an item stands in the column of the mapping around the list. -/
theorem Awaits.dash {i : Nat} (hrest : StartsToken rest)
    (h : Awaits s ('-' :: ' ' :: rest) i ((i : Int) :: is) tokens) :
    ∃ t, Reaches s t ∧ Awaits t rest (i + 2) (i :: is) (tokens ++ [.blockEntry]) := by
  obtain ⟨r, hr, hnext⟩ := h.exists_ready (Int.le_refl _)
  obtain ⟨hindent, -⟩ := List.cons.inj hr.columns
  have hopen : r.openBlock r.cursor.mark r.tokens.length .blockSequenceStart = r := by
    have hcolumn : r.cursor.mark.column = i := hr.column
    rw [openBlock, hindent, hcolumn]
    simp
  have hdrop : r.dropKey = .ok r := by rw [dropKey, hr.pending]
  have hout := hr.toOutside.pass .blockEntry (r.cursor.skip 1) true
  refine ⟨_, hout.reaches h.ended hnext ?_ ?_, ?_⟩
  · rw [readToken_dash hr.rest rfl, readDash, hr.inFlow, hr.keyAllowed]
    simp only [Bool.not_true, Bool.and_false, Bool.false_eq_true, if_false, hopen, hdrop]
    rfl
  · have hlength := h.length_le
    show (r.cursor.skip 1).rest.length < _
    rw [Cursor.skip_rest_cons hr.rest]
    simp at hlength ⊢
    omega
  · have hawaits := hout.awaits_spaces (n := 1) rfl (Cursor.skip_rest_cons hr.rest) hrest
    have hcolumn : (r.cursor.skip 1).column + 1 = i + 2 := by
      rw [Cursor.skip_column, hr.column]
    rw [← hcolumn]
    exact hawaits

/-! ## Keys -/

/-- A word in front of a colon is read, and stays pending as a key. -/
theorem Ready.word (hne : k ≠ []) (hk : ∀ x ∈ k, x.isAlphanum = true)
    (hshort : byteCount k ≤ 1024) (hrest : atGapOrEnd rest = true) {r : Scanner}
    (h : Ready r (k ++ ':' :: rest) column columns tokens) :
    ∃ m key, r.readToken = .ok m ∧ m.dropStale = .ok m ∧ m.pending = [some key] ∧
      key.number = tokens.length ∧ key.place.column = column ∧ m.ended = false ∧
      m.indent :: m.outer = columns ∧ m.cursor.rest = ':' :: rest ∧ column < m.cursor.column ∧
      m.read = tokens ++ [.scalar .plain (String.ofList k)] := by
  obtain ⟨ch, more, rfl⟩ := List.exists_cons_of_ne_nil hne
  have hch := hk ch List.mem_cons_self
  have hmark := startsAsMark_of_isAlphanum hch (more ++ ':' :: rest)
  obtain ⟨required, hrequired⟩ : ∃ b, (!r.inFlow && r.indent == r.cursor.column) = b := ⟨_, rfl⟩
  have hsave : r.saveKey =
      .ok { r with pending := [some ⟨required, r.tokens.length, r.cursor⟩] } := by
    rw [saveKey, if_pos h.keyAllowed, dropKey, h.pending]
    simp only [Except.map, hrequired, h.pending, List.tail_cons]
  have hread : plain false (r.indent + 1) r.cursor =
      .ok ⟨ch :: more, false, r.cursor.skip (ch :: more).length⟩ :=
    plain_of_isAlphanum hne hk h.rest (plainWord_colon hrest) rfl
  have hborder : OffBorder r.cursor := (goesOn_of_isAlphanum hne hk h.rest).border
  refine ⟨{ r with
      pending := [some ⟨required, r.tokens.length, r.cursor⟩], keyAllowed := false }.pass
    (.scalar .plain (String.ofList (ch :: more))) (r.cursor.skip (ch :: more).length),
    ⟨required, r.tokens.length, r.cursor⟩, ?_, ?_, rfl, ?_, h.column, h.ended, h.columns,
    Cursor.skip_rest_append h.rest, ?_, ?_⟩
  · rw [readToken_plain h.rest hmark (isGapOrBreak_of_isAlphanum hch)
      (fun hflow => by simp [h.inFlow] at hflow) hborder, readPlain]
    simp only [bind, Except.bind, hsave]
    have hflow :
        inFlow { r with pending := [some ⟨required, r.tokens.length, r.cursor⟩] } = false := rfl
    rw [hflow, hread]
  · exact dropStale_some rfl (isStale_skip h.rest hshort)
  · rw [← h.read, length_read]
  · show column < (r.cursor.skip (ch :: more).length).column
    rw [Cursor.skip_column, h.column, List.length_cons]
    omega
  · rw [← h.read]
    exact read_pass ..

/-- The colon of a key turns what is pending into the key. A key to the right of the innermost
collection begins a mapping. -/
theorem readValue_eq {m : Scanner} {key : PendingKey} {token : Token}
    (hpending : m.pending = [some key]) (hnumber : key.number = tokens.length)
    (hread : m.read = tokens ++ [token]) :
    ∃ v, m.readValue = .ok v ∧ v.pending = [none] ∧ v.keyAllowed = false ∧ v.ended = m.ended ∧
      v.cursor = m.cursor.skip 1 ∧
      (m.indent < key.place.column →
        v.indent :: v.outer = (key.place.column : Int) :: m.indent :: m.outer ∧
          v.read = tokens ++ [.blockMappingStart, .key, token, .value]) ∧
      (¬ m.indent < key.place.column →
        v.indent :: v.outer = m.indent :: m.outer ∧ v.read = tokens ++ [.key, token, .value]) := by
  obtain ⟨named, hnamed⟩ : ∃ named, m.insertAt key.number .key key.place.mark = named := ⟨_, rfl⟩
  have hmarked : named.read = tokens ++ [.key, token] := by
    rw [← hnamed, hnumber]
    exact read_insertAt hread
  have hsame : named.pending = [some key] ∧ named.ended = m.ended ∧ named.cursor = m.cursor ∧
      named.indent = m.indent ∧ named.outer = m.outer := by
    rw [← hnamed]
    exact ⟨hpending, rfl, rfl, rfl, rfl⟩
  obtain ⟨hpending', hended, hcursor, hindent, houter⟩ := hsame
  have hflow : named.inFlow = false := by simp [inFlow, hpending']
  obtain ⟨opened, hopened⟩ :
      ∃ opened, named.openBlock key.place.mark key.number .blockMappingStart = opened := ⟨_, rfl⟩
  have hvalue : m.readValue =
      .ok ({ opened with pending := [none], keyAllowed := false }.mark .value 1) := by
    simp only [readValue, hpending, hnamed, hopened]
  refine ⟨_, hvalue, rfl, rfl, ?_, ?_, fun hlt => ?_, fun hle => ?_⟩
  · rw [← hended, ← hopened, openBlock]
    split <;> rfl
  · rw [← hcursor, ← hopened, openBlock]
    split <;> rfl
  · have hopen : opened = insertAt key.number .blockMappingStart key.place.mark
        { named with indent := key.place.column, outer := named.indent :: named.outer } := by
      rw [← hopened, openBlock, hflow, if_pos]
      · rfl
      · simpa [hindent, Cursor.mark] using hlt
    refine ⟨?_, ?_⟩
    · rw [hopen, ← hindent, ← houter]
      rfl
    · have hmapping : opened.read = tokens ++ [.blockMappingStart, .key, token] := by
        rw [hopen, hnumber]
        exact read_insertAt hmarked
      have htokens : tokens ++ [.blockMappingStart, .key, token, .value] =
          opened.read ++ [.value] := by
        rw [hmapping, List.append_assoc]
        rfl
      rw [htokens]
      exact read_pass ..
  · have hopen : opened = named := by
      rw [← hopened, openBlock, hflow, if_neg]
      simpa [hindent, Cursor.mark] using hle
    refine ⟨?_, ?_⟩
    · rw [hopen, ← hindent, ← houter]
      rfl
    · have htokens : tokens ++ [.key, token, .value] = opened.read ++ [.value] := by
        rw [hopen, hmarked, List.append_assoc]
        rfl
      rw [htokens]
      exact read_pass ..

/-- A key and its colon, from a place where the key may stand. -/
theorem Awaits.word (hne : k ≠ []) (hk : ∀ x ∈ k, x.isAlphanum = true)
    (hshort : byteCount k ≤ 1024) (hrest : atGapOrEnd rest = true) (hi : i ≤ column)
    (h : Awaits s (k ++ ':' :: rest) column (i :: is) tokens) :
    ∃ v, Reaches s v ∧ v.pending = [none] ∧ v.keyAllowed = false ∧ v.ended = false ∧
      v.cursor.rest = rest ∧ column < v.cursor.column ∧
      (i < column → v.indent :: v.outer = (column : Int) :: i :: is ∧
        v.read = tokens ++ [.blockMappingStart, .key, .scalar .plain (String.ofList k), .value]) ∧
      (¬ i < column → v.indent :: v.outer = i :: is ∧
        v.read = tokens ++ [.key, .scalar .plain (String.ofList k), .value]) := by
  obtain ⟨r, hr, hnext⟩ := h.exists_ready hi
  obtain ⟨m, key, hword, hstale, hpending, hnumber, hplace, hended, hcolumns, hcolon, hright,
    hread⟩ := hr.word hne hk hshort hrest
  obtain ⟨hindent, houter⟩ := List.cons.inj hcolumns
  obtain ⟨v, hvalue, hpending', hkey, hended', hcursor, hopens, hstays⟩ :=
    readValue_eq hpending hnumber hread
  have hafter : v.cursor.rest = rest := by
    rw [hcursor, Cursor.skip_rest_cons hcolon]
  have hlength := h.length_le
  have hfirst : Reaches s m := by
    refine Reaches.step h.ended ?_ ?_
    · rw [hnext, hword]
      exact hstale
    · rw [hcolon]
      have hpos := List.length_pos_iff.2 hne
      simp at hlength ⊢
      omega
  have hnext' : m.next = m.readToken := by
    refine next_here ?_ hstale (closeBlocks_of_le ?_)
    · rw [hcolon]
      exact startsToken_cons.2 ⟨rfl, by decide, by decide⟩
    · rw [hindent]
      omega
  have hsecond : Reaches m v := by
    refine Reaches.step hended ?_ ?_
    · rw [hnext', readToken_colon hcolon (.inr hrest), hvalue]
      exact dropStale_none (by simp [hpending'])
    · rw [hafter, hcolon]
      simp
  refine ⟨v, hfirst.trans hsecond, hpending', hkey, hended'.trans hended, hafter, ?_, ?_, ?_⟩
  · rw [hcursor, Cursor.skip_column]
    omega
  · rw [← hplace, ← hindent, ← houter]
    exact hopens
  · rw [← hplace, ← hindent, ← houter]
    exact hstays

/-- The first key of a mapping stands to the right of the collections around it. -/
theorem Awaits.firstKey (hne : k ≠ []) (hk : ∀ x ∈ k, x.isAlphanum = true)
    (hshort : byteCount k ≤ 1024) (hrest : atGapOrEnd rest = true) (hi : i < column)
    (h : Awaits s (k ++ ':' :: rest) column (i :: is) tokens) :
    ∃ t, Reaches s t ∧ Behind t rest (column :: i :: is)
      (tokens ++ [.blockMappingStart, .key, .scalar .plain (String.ofList k), .value]) := by
  obtain ⟨v, hreaches, hpending, hkey, hended, hafter, hright, hopens, -⟩ :=
    h.word hne hk hshort hrest (Int.le_of_lt hi)
  obtain ⟨hcolumns, hread⟩ := hopens hi
  have hindent := (List.cons.inj hcolumns).1
  exact ⟨v, hreaches, ⟨hpending, hended, hcolumns, hread⟩, hkey, hafter, by omega, by omega⟩

/-- A further key of a mapping stands in its column. -/
theorem Awaits.nextKey (hne : k ≠ []) (hk : ∀ x ∈ k, x.isAlphanum = true)
    (hshort : byteCount k ≤ 1024) (hrest : atGapOrEnd rest = true)
    (h : Awaits s (k ++ ':' :: rest) column ((column : Int) :: is) tokens) :
    ∃ t, Reaches s t ∧ Behind t rest (column :: is)
      (tokens ++ [.key, .scalar .plain (String.ofList k), .value]) := by
  obtain ⟨v, hreaches, hpending, hkey, hended, hafter, hright, -, hstays⟩ :=
    h.word hne hk hshort hrest (Int.le_refl _)
  obtain ⟨hcolumns, hread⟩ := hstays (Int.lt_irrefl _)
  have hindent := (List.cons.inj hcolumns).1
  exact ⟨v, hreaches, ⟨hpending, hended, hcolumns, hread⟩, hkey, hafter, by omega, by omega⟩

/-! ## The end -/

/-- At the end of the text the collections that are open are closed. -/
theorem Awaits.finish {inner : List Int} (hinner : ∀ j ∈ inner, (-1 : Int) < j)
    (hcolumns : i :: is = inner ++ [-1]) (hi : i ≤ column)
    (h : Awaits s [] column (i :: is) tokens) (fuel : Nat) :
    ∃ lexemes, s.run (fuel + 2) = (lexemes, none) ∧
      lexemes.map Lexeme.token =
        tokens ++ List.replicate inner.length .blockEnd ++ [.streamEnd] := by
  obtain ⟨r, hr, hnext⟩ := h.exists_ready hi
  obtain ⟨c, hc⟩ : ∃ c, (if r.cursor.column == 0 then r.cursor
      else { r.cursor with line := r.cursor.line + 1, column := 0 } : Cursor) = c := ⟨_, rfl⟩
  have hclose : (r.moveTo c).closeBlocks (-1) = (r.moveTo c).closed inner (-1) [] :=
    closeBlocks_append (hr.moveTo c r.keyAllowed).inFlow (hr.columns.trans hcolumns) hinner
      (Int.le_refl _)
  have hdrop : ((r.moveTo c).closed inner (-1) []).dropKey =
      .ok ((r.moveTo c).closed inner (-1) []) := by
    have hpending : ((r.moveTo c).closed inner (-1) []).pending = [none] := hr.pending
    rw [dropKey, hpending]
  have hend : r.readToken = .ok { ((r.moveTo c).closed inner (-1) []).mark .streamEnd 0 with
      keyAllowed := false, ended := true } := by
    rw [readToken, hr.rest]
    simp only [readEnd, hc, hclose, hdrop]
    rfl
  obtain ⟨t, ht⟩ : ∃ t, { ((r.moveTo c).closed inner (-1) []).mark .streamEnd 0 with
      keyAllowed := false, ended := true } = t := ⟨_, rfl⟩
  have hlast : t.ended = true ∧ t.pending = [none] ∧
      t.read = tokens ++ List.replicate inner.length .blockEnd ++ [.streamEnd] := by
    rw [← ht]
    refine ⟨rfl, hr.pending, ?_⟩
    rw [← hr.read]
    refine (read_mark .streamEnd 0 _).trans ?_
    rw [read_closed]
    rfl
  obtain ⟨hended, hpending, hread⟩ := hlast
  have hstep : s.next.bind dropStale = .ok t := by
    rw [hnext, hend, ht]
    exact dropStale_none (by simp [hpending])
  refine ⟨t.tokens.reverse, ?_, hread⟩
  rw [run, h.ended, hstep]
  simp only [Bool.false_eq_true, if_false, run, hended, if_true]

end Scanner

end Cadastre.Yaml
