import Cadastre.Proofs.Yaml.Progress

/-!
# Tokens between brackets

Between brackets the columns of tokens tell nothing, and a break counts as a blank. One statement
for each kind of token says from which states it is read and to which it leads: the brackets and
commas, a key in double quotes with its colon, the scalars, and the end behind the last bracket.
-/

namespace Cadastre.Yaml

open Text (Mark Stops stops_cons byteCount)

namespace Scanner

variable {s t : Scanner} {c : Cursor} {ch : Char} {cs gap rest more : List Char}
  {depth n : Nat} {keyAllowed : Bool} {tokens : List Token}

/-! ## States -/

/-- What separates two tokens: spaces, or a newline and the indentation of the next line. -/
def IsGap (gap : List Char) : Prop :=
  ∃ n, gap = List.replicate n ' ' ∨ gap = '\n' :: List.replicate n ' '

theorem isGap_nil : IsGap [] := ⟨0, .inl rfl⟩

theorem isGap_space : IsGap [' '] := ⟨1, .inl rfl⟩

/-- A state at a place between so many brackets, or outside of them without block collections. No
pending key has to be a key. -/
structure Inside (s : Scanner) (rest : List Char) (keyAllowed : Bool) (depth : Nat)
    (tokens : List Token) : Prop where
  ended : s.ended = false
  depth : s.pending.length = depth + 1
  optional : ∀ k, some k ∈ s.pending → k.required = false
  indent : s.indent = -1
  outer : s.outer = []
  rest : s.cursor.rest = rest
  keyAllowed : s.keyAllowed = keyAllowed
  read : s.read = tokens

theorem Inside.inFlow (h : Inside s rest keyAllowed (depth + 1) tokens) : s.inFlow = true := by
  simp [Scanner.inFlow, h.depth]

theorem Inside.moveTo (h : Inside s more keyAllowed depth tokens) (hc : c.rest = rest) (k : Bool) :
    Inside ({ s with keyAllowed := k }.moveTo c) rest k depth tokens :=
  ⟨h.ended, h.depth, h.optional, h.indent, h.outer, hc, rfl, h.read⟩

theorem Inside.pass (h : Inside s more keyAllowed depth tokens) (token : Token)
    (hc : c.rest = rest) (k : Bool) :
    Inside ({ s with keyAllowed := k }.pass token c) rest k depth (tokens ++ [token]) := by
  refine ⟨h.ended, h.depth, h.optional, h.indent, h.outer, hc, rfl, ?_⟩
  rw [read_pass, ← h.read]
  rfl

/-- A state without stale keys. -/
theorem Inside.exists_dropStale (h : Inside s rest keyAllowed depth tokens) :
    ∃ r, s.dropStale = .ok r ∧ Inside r rest keyAllowed depth tokens ∧ r.cursor = s.cursor := by
  refine ⟨_, dropStale_eq fun k hk _ => h.optional k hk, ?_, rfl⟩
  refine ⟨h.ended, by simpa using h.depth, fun k hk => ?_, h.indent, h.outer, h.rest, h.keyAllowed,
    h.read⟩
  obtain ⟨key, hkey, hfilter⟩ := List.mem_map.1 hk
  obtain ⟨rfl, -⟩ := Option.filter_eq_some_iff.1 hfilter
  exact h.optional k hkey

/-- A pending key that is not stale stays. -/
theorem Inside.exists_dropStale_key {key : PendingKey} {outer : List (Option PendingKey)}
    (h : Inside s rest keyAllowed depth tokens) (hpending : s.pending = some key :: outer)
    (hnear : isStale s.cursor key = false) :
    ∃ r outer, s.dropStale = .ok r ∧ Inside r rest keyAllowed depth tokens ∧ r.cursor = s.cursor ∧
      r.pending = some key :: outer := by
  obtain ⟨r, hstale, hr, hcursor⟩ := h.exists_dropStale
  refine ⟨r, outer.map fun k => k.filter fun k => !isStale s.cursor k, hstale, hr, hcursor, ?_⟩
  have heq := hstale.symm.trans (dropStale_eq fun k hk _ => h.optional k hk)
  rw [Except.ok.inj heq, hpending]
  simp [hnear]

/-- A state without a pending key on the innermost level. -/
theorem Inside.exists_dropKey (h : Inside s rest keyAllowed depth tokens) :
    ∃ r, s.dropKey = .ok r ∧ Inside r rest keyAllowed depth tokens ∧ r.cursor = s.cursor ∧
      r.pending.tail = s.pending.tail := by
  rw [dropKey]
  split
  · next k outer hpending =>
    have hrequired := h.optional k (by rw [hpending]; exact List.mem_cons_self)
    rw [hrequired]
    refine ⟨_, rfl, ⟨h.ended, ?_, fun j hj => ?_, h.indent, h.outer, h.rest, h.keyAllowed, h.read⟩,
      rfl, ?_⟩
    · rw [← h.depth, hpending]
      rfl
    · refine h.optional j ?_
      rw [hpending]
      exact List.mem_cons_of_mem _ (by simpa using hj)
    · rw [hpending]
      rfl
  · exact ⟨s, rfl, h, rfl, rfl⟩

/-- A state that remembers a key where one may begin; it does not have to be a key. -/
theorem Inside.exists_saveKey (h : Inside s rest keyAllowed depth tokens) :
    ∃ r, s.saveKey = .ok r ∧ Inside r rest keyAllowed depth tokens ∧ r.cursor = s.cursor ∧
      (keyAllowed = true →
        ∃ outer, r.pending = some ⟨false, tokens.length, s.cursor⟩ :: outer) := by
  rw [saveKey, h.keyAllowed]
  cases keyAllowed with
  | false => exact ⟨s, rfl, h, rfl, fun hkey => by cases hkey⟩
  | true =>
    obtain ⟨r, hdrop, hr, hcursor, htail⟩ := h.exists_dropKey
    have hrequired : (!r.inFlow && r.indent == r.cursor.column) = false := by
      rw [hr.indent]
      simp
    have hnumber : r.tokens.length = tokens.length := by rw [← length_read, hr.read]
    refine ⟨{ r with pending := some ⟨false, r.tokens.length, r.cursor⟩ :: r.pending.tail }, ?_,
      ⟨hr.ended, ?_, fun k hk => ?_, hr.indent, hr.outer, hr.rest, hr.keyAllowed, hr.read⟩, hcursor,
      fun _ => ⟨r.pending.tail, by rw [hnumber, hcursor]⟩⟩
    · rw [if_pos rfl, hdrop]
      simp only [Except.map, hrequired]
    · have hdepth := hr.depth
      simp
      omega
    · rcases List.mem_cons.1 hk with hk | hk
      · rw [Option.some.inj hk]
      · exact hr.optional k (List.mem_of_mem_tail hk)

/-- A text without the blanks and newlines at its start. -/
def pastGap (text : List Char) : List Char := text.dropWhile fun ch => ch == ' ' || ch == '\n'

theorem pastGap_append (hgap : IsGap gap) (hrest : StartsToken rest) :
    pastGap (gap ++ rest) = rest := by
  refine Text.dropWhile_append_stops (fun ch hch => ?_) fun ch hch => ?_
  · obtain ⟨n, rfl | rfl⟩ := hgap
    · simp [(List.mem_replicate.1 hch).2]
    · rcases List.mem_cons.1 hch with rfl | hch
      · rfl
      · simp [(List.mem_replicate.1 hch).2]
  · obtain ⟨hspace, -, hbreak⟩ := isGapOrBreak_eq_false_iff.1 (hrest ch hch).1
    have hline : ch ≠ '\n' := by
      rintro rfl
      cases hbreak
    simp [hspace, hline]

/-- A state between brackets in front of a text, or in front of the next token of the text. -/
def Ahead (s : Scanner) (text : List Char) (depth : Nat) (tokens : List Token) : Prop :=
  ∃ keyAllowed,
    Inside s text keyAllowed depth tokens ∨ Inside s (pastGap text) keyAllowed depth tokens

/-- The next token between brackets is read from a state at its place. -/
theorem Inside.exists_at (hgap : IsGap gap) (hrest : StartsToken rest)
    (h : Inside s (gap ++ rest) keyAllowed (depth + 1) tokens) :
    ∃ r, Inside r rest keyAllowed (depth + 1) tokens ∧ s.next = r.readToken := by
  have htoken : ∃ c, s.cursor.toToken s.inFlow (s.cursor.rest.length + 1) s.keyAllowed =
      (keyAllowed, c) ∧ c.rest = rest := by
    rw [h.inFlow, h.keyAllowed]
    obtain ⟨n, rfl | rfl⟩ := hgap
    · refine ⟨_, Cursor.toToken_spaces h.rest hrest, ?_⟩
      simpa using Cursor.skip_rest_append (w := List.replicate n ' ') h.rest
    · have hline : s.cursor.rest = '\n' :: (List.replicate n ' ' ++ rest) := h.rest
      have hlength : s.cursor.rest.length + 1 = (List.replicate n ' ' ++ rest).length + 2 := by
        rw [hline, List.length_cons]
      refine ⟨_, ?_, (Cursor.skip_nextLine hline).1⟩
      rw [hlength, Cursor.toToken_newLine hline hrest]
      simp
  obtain ⟨c, htoken, hc⟩ := htoken
  have hmoved : Inside ({ s with keyAllowed }.moveTo c) rest keyAllowed (depth + 1) tokens :=
    h.moveTo hc keyAllowed
  obtain ⟨r, hstale, hr, -⟩ := hmoved.exists_dropStale
  refine ⟨r, hr, ?_⟩
  rw [next_eq htoken hstale, closeBlocks_inFlow hr.inFlow]

theorem Ahead.exists_at (hgap : IsGap gap) (hrest : StartsToken rest)
    (h : Ahead s (gap ++ rest) (depth + 1) tokens) :
    ∃ r keyAllowed, Inside r rest keyAllowed (depth + 1) tokens ∧ s.next = r.readToken ∧
      rest.length ≤ s.cursor.rest.length ∧ s.ended = false := by
  obtain ⟨keyAllowed, h | h⟩ := h
  · obtain ⟨r, hr, hnext⟩ := h.exists_at hgap hrest
    refine ⟨r, keyAllowed, hr, hnext, ?_, h.ended⟩
    rw [h.rest, List.length_append]
    omega
  · rw [pastGap_append hgap hrest] at h
    obtain ⟨r, hr, hnext⟩ := Inside.exists_at isGap_nil hrest h
    exact ⟨r, keyAllowed, hr, hnext, by rw [h.rest], h.ended⟩

/-- A step of a run that ends between brackets. -/
theorem Inside.reaches {r : Scanner} (h : Inside t rest keyAllowed depth tokens)
    (hended : s.ended = false) (hnext : s.next = r.readToken) (hread : r.readToken = .ok t)
    (hshort : rest.length < s.cursor.rest.length) :
    ∃ u, Reaches s u ∧ Inside u rest keyAllowed depth tokens := by
  obtain ⟨u, hstale, hu, hcursor⟩ := h.exists_dropStale
  refine ⟨u, Reaches.step hended ?_ ?_, hu⟩
  · rw [hnext, hread]
    exact hstale
  · rwa [hu.rest]

/-! ## Brackets and commas -/

theorem Inside.readOpen (h : Inside s (ch :: rest) keyAllowed depth tokens) (token : Token) :
    ∃ t, s.readOpen token = .ok t ∧ Inside t rest true (depth + 1) (tokens ++ [token]) := by
  obtain ⟨r, hsave, hr, -, -⟩ := h.exists_saveKey
  refine ⟨{ r with pending := none :: r.pending, keyAllowed := true }.mark token 1, ?_,
    hr.ended, ?_, fun k hk => ?_, hr.indent, hr.outer, Cursor.skip_rest_cons hr.rest, rfl, ?_⟩
  · rw [Scanner.readOpen, hsave]
    rfl
  · rw [← hr.depth]
    rfl
  · have hk : some k ∈ none :: r.pending := hk
    exact hr.optional k (by simpa using hk)
  · rw [read_mark, ← hr.read]
    rfl

theorem Inside.readClose (h : Inside s (ch :: rest) keyAllowed (depth + 1) tokens) (token : Token) :
    ∃ t, s.readClose token = .ok t ∧ Inside t rest false depth (tokens ++ [token]) := by
  obtain ⟨r, hdrop, hr, -, -⟩ := h.exists_dropKey
  refine ⟨{ r with pending := r.pending.tail, keyAllowed := false }.mark token 1, ?_,
    hr.ended, ?_, fun k hk => ?_, hr.indent, hr.outer, Cursor.skip_rest_cons hr.rest, rfl, ?_⟩
  · rw [Scanner.readClose, hdrop]
    simp only [Except.map, hr.inFlow, if_true]
  · have hdepth := hr.depth
    show r.pending.tail.length = _
    rw [List.length_tail]
    omega
  · exact hr.optional k (List.mem_of_mem_tail hk)
  · rw [read_mark, ← hr.read]
    rfl

theorem Inside.readComma (h : Inside s (ch :: rest) keyAllowed depth tokens) :
    ∃ t, s.readComma = .ok t ∧ Inside t rest true depth (tokens ++ [.flowEntry]) := by
  obtain ⟨r, hdrop, hr, -, -⟩ := h.exists_dropKey
  refine ⟨{ r with keyAllowed := true }.mark .flowEntry 1, ?_,
    hr.ended, hr.depth, hr.optional, hr.indent, hr.outer, Cursor.skip_rest_cons hr.rest, rfl, ?_⟩
  · rw [Scanner.readComma, hdrop]
    rfl
  · rw [read_mark, ← hr.read]
    rfl

/-- The bracket that opens a list behind a colon. -/
theorem Inside.openSequence (hgap : IsGap gap)
    (h : Inside s (gap ++ '[' :: rest) keyAllowed (depth + 1) tokens) :
    ∃ t, Reaches s t ∧ Inside t rest true (depth + 2) (tokens ++ [.flowSequenceStart]) := by
  obtain ⟨r, hr, hnext⟩ := h.exists_at hgap (startsToken_cons.2 ⟨rfl, by decide, by decide⟩)
  obtain ⟨t, hopen, ht⟩ := hr.readOpen .flowSequenceStart
  refine ht.reaches h.ended hnext ((readToken_openSequence hr.rest).trans hopen) ?_
  rw [h.rest]
  simp
  omega

theorem Inside.openMapping (hgap : IsGap gap)
    (h : Inside s (gap ++ '\x7b' :: rest) keyAllowed (depth + 1) tokens) :
    ∃ t, Reaches s t ∧ Inside t rest true (depth + 2) (tokens ++ [.flowMappingStart]) := by
  obtain ⟨r, hr, hnext⟩ := h.exists_at hgap (startsToken_cons.2 ⟨rfl, by decide, by decide⟩)
  obtain ⟨t, hopen, ht⟩ := hr.readOpen .flowMappingStart
  refine ht.reaches h.ended hnext ((readToken_openMapping hr.rest).trans hopen) ?_
  rw [h.rest]
  simp
  omega

/-- The first bracket of a text. -/
theorem Inside.openRoot (h : Inside s ('\x7b' :: rest) keyAllowed 0 tokens) :
    ∃ t, Reaches s t ∧ Inside t rest true 1 (tokens ++ [.flowMappingStart]) := by
  obtain ⟨r, hstale, hr, -⟩ := h.exists_dropStale
  have hstart : StartsToken s.cursor.rest := by
    rw [h.rest]
    exact startsToken_cons.2 ⟨rfl, by decide, by decide⟩
  have hnext : s.next = r.readToken := by
    refine next_here hstart hstale (closeBlocks_of_le ?_)
    rw [hr.indent]
    omega
  obtain ⟨t, hopen, ht⟩ := hr.readOpen .flowMappingStart
  refine ht.reaches h.ended hnext ((readToken_openMapping hr.rest).trans hopen) ?_
  rw [h.rest]
  simp

theorem Ahead.closeSequence (hgap : IsGap gap)
    (h : Ahead s (gap ++ ']' :: rest) (depth + 1) tokens) :
    ∃ t, Reaches s t ∧ Inside t rest false depth (tokens ++ [.flowSequenceEnd]) := by
  obtain ⟨r, keyAllowed, hr, hnext, hlength, hended⟩ :=
    h.exists_at hgap (startsToken_cons.2 ⟨rfl, by decide, by decide⟩)
  obtain ⟨t, hclose, ht⟩ := hr.readClose .flowSequenceEnd
  exact ht.reaches hended hnext ((readToken_closeSequence hr.rest).trans hclose) hlength

theorem Ahead.closeMapping (hgap : IsGap gap)
    (h : Ahead s (gap ++ '\x7d' :: rest) (depth + 1) tokens) :
    ∃ t, Reaches s t ∧ Inside t rest false depth (tokens ++ [.flowMappingEnd]) := by
  obtain ⟨r, keyAllowed, hr, hnext, hlength, hended⟩ :=
    h.exists_at hgap (startsToken_cons.2 ⟨rfl, by decide, by decide⟩)
  obtain ⟨t, hclose, ht⟩ := hr.readClose .flowMappingEnd
  exact ht.reaches hended hnext ((readToken_closeMapping hr.rest).trans hclose) hlength

theorem Ahead.comma (h : Ahead s (',' :: rest) (depth + 1) tokens) :
    ∃ t, Reaches s t ∧ Inside t rest true (depth + 1) (tokens ++ [.flowEntry]) := by
  obtain ⟨r, keyAllowed, hr, hnext, hlength, hended⟩ :=
    Ahead.exists_at isGap_nil (startsToken_cons.2 ⟨rfl, by decide, by decide⟩) h
  obtain ⟨t, hcomma, ht⟩ := hr.readComma
  exact ht.reaches hended hnext ((readToken_comma hr.rest).trans hcomma) hlength

/-! ## Scalars -/

/-- A scalar in double quotes behind a colon. -/
theorem Inside.text {body value : List Char} (hbody : Spells '"' body value)
    (h : Inside s (' ' :: '"' :: (body ++ '"' :: rest)) keyAllowed (depth + 1) tokens) :
    ∃ t, Reaches s t ∧
      Inside t rest false (depth + 1) (tokens ++ [.scalar .double (String.ofList value)]) := by
  obtain ⟨r, hr, hnext⟩ :=
    Inside.exists_at isGap_space (startsToken_cons.2 ⟨rfl, by decide, by decide⟩) h
  obtain ⟨r', hsave, hr', -, -⟩ := hr.exists_saveKey
  obtain ⟨after, hread, hafter, -⟩ := quoted_of_spells rfl hbody hr'.rest (by simp)
  have ht : Inside
      ({ r' with keyAllowed := false }.pass (.scalar .double (String.ofList value)) after)
      rest false (depth + 1) (tokens ++ [.scalar .double (String.ofList value)]) :=
    hr'.pass _ hafter false
  refine ht.reaches h.ended hnext ?_ ?_
  · rw [readToken_quote hr.rest (.inr rfl), readQuoted]
    simp only [bind, Except.bind, hsave, hread]
    rfl
  · rw [h.rest]
    simp
    omega

/-- A word behind a colon, with a mark or the end of its line behind it. -/
theorem Inside.word {w : List Char} {mark : Char} (hne : w ≠ [])
    (hw : ∀ x ∈ w, x.isAlphanum = true) (hmark : isFlowMark mark = true)
    (hgap : gap = [] ∨ ∃ n, gap = '\n' :: List.replicate n ' ')
    (h : Inside s (' ' :: (w ++ (gap ++ mark :: rest))) keyAllowed (depth + 1) tokens) :
    ∃ t, Reaches s t ∧
      Ahead t (gap ++ mark :: rest) (depth + 1) (tokens ++ [.scalar .plain (String.ofList w)]) := by
  obtain ⟨ch, more, rfl⟩ := List.exists_cons_of_ne_nil hne
  have hch := hw ch List.mem_cons_self
  have hgapch := isGapOrBreak_of_isAlphanum hch
  have hmarkstart : StartsToken (mark :: rest) := by
    refine startsToken_cons.2 ?_
    simp only [isFlowMark, Bool.or_eq_true, beq_iff_eq] at hmark
    rcases hmark with (((rfl | rfl) | rfl) | rfl) | rfl <;> decide
  obtain ⟨r, hr, hnext⟩ := Inside.exists_at isGap_space
    (startsToken_cons.2 ⟨hgapch, ne_of_isAlphanum hch rfl, ne_of_isAlphanum hch rfl⟩) h
  obtain ⟨r', hsave, hr', hcursor, -⟩ := hr.exists_saveKey
  obtain ⟨p, hread, htext, hplace⟩ : ∃ p, plain true (r'.indent + 1) r'.cursor = .ok p ∧
      p.text = ch :: more ∧ (p.after.rest = gap ++ mark :: rest ∨ p.after.rest = mark :: rest) := by
    rcases hgap with rfl | ⟨n, rfl⟩
    · exact ⟨_, plain_of_isAlphanum hne hw hr'.rest (plainWord_flowMark hmark rest)
        (startsToken_cons.1 hmarkstart).1, rfl, .inl (Cursor.skip_rest_append hr'.rest)⟩
    · exact ⟨_, plain_newLine_of_isAlphanum hne hw hr'.rest hmark, rfl,
        .inr (Cursor.skip_nextLine (Cursor.skip_rest_append hr'.rest)).1⟩
  have ht : Inside ({ r' with keyAllowed := p.brokenOff }.pass
      (.scalar .plain (String.ofList p.text)) p.after) p.after.rest p.brokenOff (depth + 1)
      (tokens ++ [.scalar .plain (String.ofList (ch :: more))]) := by
    rw [← htext]
    exact hr'.pass _ rfl _
  have hplain : r.readToken = .ok ({ r' with keyAllowed := p.brokenOff }.pass
      (.scalar .plain (String.ofList p.text)) p.after) := by
    rw [readToken_plain hr.rest (startsAsMark_of_isAlphanum hch _) hgapch
      (fun _ => ⟨ne_of_isAlphanum hch rfl, ne_of_isAlphanum hch rfl⟩)
      (goesOn_of_isAlphanum hne hw hr.rest).border, readPlain]
    simp only [bind, Except.bind, hsave, hr'.inFlow, hread]
  obtain ⟨t, hreaches, ht⟩ := ht.reaches h.ended hnext hplain (by
    rw [h.rest]
    rcases hplace with hplace | hplace
    · rw [hplace]
      simp
      omega
    · rw [hplace]
      simp
      omega)
  refine ⟨t, hreaches, p.brokenOff, ?_⟩
  have hgap' : IsGap gap := by
    rcases hgap with rfl | ⟨n, rfl⟩
    · exact isGap_nil
    · exact ⟨n, .inr rfl⟩
  rcases hplace with hplace | hplace
  · exact .inl (hplace ▸ ht)
  · right
    rw [pastGap_append hgap' hmarkstart]
    exact hplace ▸ ht

/-! ## Keys -/

/-- The colon of a key turns what is pending into the key. -/
theorem Inside.readValue {key : PendingKey} {outer : List (Option PendingKey)} {token : Token}
    (hpending : s.pending = some key :: outer) (hnumber : key.number = tokens.length)
    (h : Inside s (ch :: rest) keyAllowed (depth + 1) (tokens ++ [token])) :
    ∃ t, s.readValue = .ok t ∧
      Inside t rest false (depth + 1) (tokens ++ [.key, token, .value]) := by
  obtain ⟨named, hnamed⟩ : ∃ named, s.insertAt key.number .key key.place.mark = named := ⟨_, rfl⟩
  have hmarked : named.read = tokens ++ [.key, token] := by
    rw [← hnamed, hnumber]
    exact read_insertAt h.read
  have hflow : named.inFlow = true := by
    rw [← hnamed]
    exact h.inFlow
  have hopen : named.openBlock key.place.mark key.number .blockMappingStart = named := by
    rw [openBlock, hflow]
    rfl
  have hvalue : s.readValue =
      .ok ({ named with pending := none :: outer, keyAllowed := false }.mark .value 1) := by
    simp only [Scanner.readValue, hpending, hnamed, hopen]
  have hcursor : named.cursor = s.cursor := by
    rw [← hnamed]
    rfl
  refine ⟨_, hvalue, ?_, ?_, fun k hk => ?_, ?_, ?_, ?_, rfl, ?_⟩
  · rw [← h.ended, ← hnamed]
    rfl
  · rw [← h.depth, hpending]
    rfl
  · have hk : some k ∈ none :: outer := hk
    refine h.optional k ?_
    rw [hpending]
    exact List.mem_cons_of_mem _ (by simpa using hk)
  · rw [← h.indent, ← hnamed]
    rfl
  · rw [← h.outer, ← hnamed]
    rfl
  · exact Cursor.skip_rest_cons (hcursor ▸ h.rest)
  · have htokens : tokens ++ [.key, token, .value] = named.read ++ [.value] := by
      rw [hmarked, List.append_assoc]
      rfl
    rw [htokens]
    exact read_mark ..

/-- A key in double quotes is read, and stays pending. -/
theorem Inside.keyText {body value : List Char} (hgap : IsGap gap) (hbody : Spells '"' body value)
    (hline : ∀ x ∈ body, isBreak x = false) (hshort : byteCount body ≤ 1000)
    (h : Inside s (gap ++ '"' :: (body ++ '"' :: ':' :: rest)) true (depth + 1) tokens) :
    ∃ t key outer, Reaches s t ∧
      Inside t (':' :: rest) false (depth + 1) (tokens ++ [.scalar .double (String.ofList value)]) ∧
      t.pending = some key :: outer ∧ key.number = tokens.length ∧
      isStale t.cursor key = false := by
  obtain ⟨r, hr, hnext⟩ := h.exists_at hgap (startsToken_cons.2 ⟨rfl, by decide, by decide⟩)
  obtain ⟨r', hsave, hr', hcursor, hpending⟩ := hr.exists_saveKey
  obtain ⟨outer, hpending⟩ := hpending rfl
  obtain ⟨after, hread, hafter, hplace⟩ := quoted_of_spells rfl hbody hr'.rest (by simp)
  have hquoted : r.readToken = .ok ({ r' with keyAllowed := false }.pass
      (.scalar .double (String.ofList value)) after) := by
    rw [readToken_quote hr.rest (.inr rfl), readQuoted]
    simp only [bind, Except.bind, hsave, hread]
    rfl
  have hm : Inside
      ({ r' with keyAllowed := false }.pass (.scalar .double (String.ofList value)) after)
      (':' :: rest) false (depth + 1) (tokens ++ [.scalar .double (String.ofList value)]) :=
    hr'.pass _ hafter false
  have hnear : isStale after ⟨false, tokens.length, r.cursor⟩ = false := by
    have htext : r.cursor.rest = ('"' :: (body ++ ['"'])) ++ ':' :: rest := by
      rw [hr.rest]
      simp
    have hlength : body.length + 2 = ('"' :: (body ++ ['"'])).length := by simp
    have hbytes : byteCount ('"' :: (body ++ ['"'])) = byteCount body + 2 := by
      rw [← List.singleton_append, byteCount_append, byteCount_append]
      have hone : byteCount ['"'] = 1 := by decide
      omega
    rw [hplace hline, hcursor, hlength]
    exact isStale_skip htext (by omega)
  obtain ⟨t, outer', hstale, ht, htcursor, htpending⟩ := hm.exists_dropStale_key hpending hnear
  refine ⟨t, _, outer', Reaches.step h.ended ?_ ?_, ht, htpending, rfl, htcursor ▸ hnear⟩
  · rw [hnext, hquoted]
    exact hstale
  · rw [ht.rest, h.rest]
    simp
    omega

/-- The colon behind a key. -/
theorem Inside.colon {key : PendingKey} {outer : List (Option PendingKey)} {token : Token}
    (hpending : s.pending = some key :: outer) (hnumber : key.number = tokens.length)
    (hnear : isStale s.cursor key = false)
    (h : Inside s (':' :: rest) keyAllowed (depth + 1) (tokens ++ [token])) :
    ∃ t, Reaches s t ∧ Inside t rest false (depth + 1) (tokens ++ [.key, token, .value]) := by
  obtain ⟨r, outer', hstale, hr, -, hpending'⟩ := h.exists_dropStale_key hpending hnear
  have hnext : s.next = r.readToken := by
    refine next_here ?_ hstale (closeBlocks_inFlow hr.inFlow _)
    rw [h.rest]
    exact startsToken_cons.2 ⟨rfl, by decide, by decide⟩
  obtain ⟨t, hvalue, ht⟩ := hr.readValue hpending' hnumber
  exact ht.reaches h.ended hnext ((readToken_colon hr.rest (.inl hr.inFlow)).trans hvalue)
    (by rw [h.rest]; simp)

/-- A key in double quotes and its colon. -/
theorem Inside.key {body value : List Char} (hgap : IsGap gap) (hbody : Spells '"' body value)
    (hline : ∀ x ∈ body, isBreak x = false) (hshort : byteCount body ≤ 1000)
    (h : Inside s (gap ++ '"' :: (body ++ '"' :: ':' :: rest)) true (depth + 1) tokens) :
    ∃ t, Reaches s t ∧
      Inside t rest false (depth + 1)
        (tokens ++ [.key, .scalar .double (String.ofList value), .value]) := by
  obtain ⟨t, key, outer, hfirst, ht, hpending, hnumber, hnear⟩ := h.keyText hgap hbody hline hshort
  obtain ⟨u, hsecond, hu⟩ := ht.colon hpending hnumber hnear
  exact ⟨u, hfirst.trans hsecond, hu⟩

/-! ## The end -/

/-- Behind the last bracket, the text ends with a newline. -/
theorem Inside.finish (h : Inside s ['\n'] keyAllowed 0 tokens) (fuel : Nat) :
    ∃ lexemes, s.run (fuel + 2) = (lexemes, none) ∧
      lexemes.map Lexeme.token = tokens ++ [.streamEnd] := by
  have hflow : s.inFlow = false := by simp [Scanner.inFlow, h.depth]
  have hline : s.cursor.rest = '\n' :: (List.replicate 0 ' ' ++ []) := h.rest
  have htoken : s.cursor.toToken s.inFlow (s.cursor.rest.length + 1) s.keyAllowed =
      (true, s.cursor.nextLine.skip 0) := by
    have hlength : s.cursor.rest.length + 1 = 0 + 2 := by rw [h.rest]; rfl
    rw [hlength, hflow, Cursor.toToken_newLine hline startsToken_nil]
    simp
  have hmoved : Inside ({ s with keyAllowed := true }.moveTo (s.cursor.nextLine.skip 0)) [] true 0
      tokens := h.moveTo (Cursor.skip_nextLine hline).1 true
  obtain ⟨r, hstale, hr, -⟩ := hmoved.exists_dropStale
  have hnext : s.next = r.readToken := by
    rw [next_eq htoken hstale, closeBlocks_of_le]
    rw [hr.indent]
    omega
  obtain ⟨c, hc, hcrest⟩ : ∃ c, (if r.cursor.column == 0 then r.cursor
      else { r.cursor with line := r.cursor.line + 1, column := 0 } : Cursor) = c ∧
      c.rest = [] := by
    refine ⟨_, rfl, ?_⟩
    split
    · exact hr.rest
    · exact hr.rest
  have hend : Inside (r.moveTo c) [] true 0 tokens :=
    ⟨hr.ended, hr.depth, hr.optional, hr.indent, hr.outer, hcrest, hr.keyAllowed, hr.read⟩
  have hclose : (r.moveTo c).closeBlocks (-1) = r.moveTo c :=
    closeBlocks_of_le (Int.le_of_eq hend.indent)
  obtain ⟨u, hdrop, hu, -, -⟩ := hend.exists_dropKey
  have hread : r.readToken =
      .ok { u.mark .streamEnd 0 with keyAllowed := false, ended := true } := by
    rw [readToken, hr.rest]
    simp only [readEnd, hc, hclose, hdrop]
    rfl
  obtain ⟨t, ht⟩ : ∃ t, { u.mark .streamEnd 0 with keyAllowed := false, ended := true } = t :=
    ⟨_, rfl⟩
  have hlast : ∀ k, some k ∈ t.pending → isStale t.cursor k = true → k.required = false := by
    rw [← ht]
    exact fun k hk _ => hu.optional k hk
  obtain ⟨v, hstep, hv⟩ : ∃ v, s.next.bind dropStale = .ok v ∧ v.ended = t.ended ∧
      v.tokens = t.tokens := by
    refine ⟨{ t with pending := t.pending.map fun k => k.filter fun k => !isStale t.cursor k }, ?_,
      rfl, rfl⟩
    rw [hnext, hread, ht]
    exact dropStale_eq hlast
  have hended : t.ended = true := by rw [← ht]
  have htokens : t.read = tokens ++ [.streamEnd] := by
    rw [← ht, ← hu.read]
    exact read_mark .streamEnd 0 u
  refine ⟨t.tokens.reverse, ?_, htokens⟩
  rw [run, h.ended, hstep]
  simp only [Bool.false_eq_true, if_false, run, hv, hended, if_true]

end Scanner

end Cadastre.Yaml
