import Cadastre.Proofs.Schema.Line

/-!
# Lines that open a constraint

A line opens a constraint of its table when its first tokens are the words of one, in any letter case
and with blank characters or opening parentheses between them. Such a line gives no column where the
words are spaced as the openings are written, with single spaces; spaced in another way it is read
as a column that is named by the first word.
-/

namespace Cadastre.Schema

open Text

variable {cs w r rest line name definition gap sep : List Char} {tokens : List (List Char)}
  {c : Char} {column : Column}

/-! ## Tokens -/

/-- Whether a character stands between tokens. -/
def isSeparator (c : Char) : Bool := isBlank c || c == '('

/-- A text begins with these tokens, each behind a gap of separators and in full. -/
inductive FirstTokens : List (List Char) → List Char → Prop where
  | nil {cs : List Char} : FirstTokens [] cs
  | cons {gap token rest : List Char} {tokens : List (List Char)}
      (hgap : ∀ c ∈ gap, isSeparator c = true) (hne : token ≠ [])
      (htoken : ∀ c ∈ token, isSeparator c = false) (hstop : Stops (fun c => !isSeparator c) rest)
      (hnext : FirstTokens tokens rest) : FirstTokens (token :: tokens) (gap ++ (token ++ rest))

/-- The words that open a constraint, in capitals. -/
def constraintWords : List (List (List Char)) :=
  [ ["CONSTRAINT".toList], ["PRIMARY".toList, "KEY".toList], ["FOREIGN".toList, "KEY".toList],
    ["UNIQUE".toList], ["CHECK".toList], ["EXCLUDE".toList] ]

/-- The first tokens of a line are the words of a constraint, in any letter case. -/
def OpensConstraint (line : List Char) : Prop :=
  ∃ tokens, FirstTokens tokens line ∧ tokens.map capitals ∈ constraintWords

/-- A declaration has the words of a constraint at its start and goes on behind the first of them
with blank characters that are not the single space of an opening. -/
inductive LooselySpaced : List Char → Prop where
  | one {w rest : List Char} {c : Char} (hword : [capitals w] ∈ constraintWords)
      (hblank : isBlank c = true) (hspace : c ≠ ' ') : LooselySpaced (w ++ c :: rest)
  | two {w sep v rest : List Char} {c : Char} (hwords : [capitals w, capitals v] ∈ constraintWords)
      (hblank : isBlank c = true) (hsep : ∀ d ∈ sep, isSeparator d = true)
      (hspace : c :: sep ≠ [' ']) (hstop : Stops (fun c => !isSeparator c) rest) :
      LooselySpaced (w ++ (c :: sep ++ (v ++ rest)))

/-! ## Capitals -/

theorem capitals_append (x y : List Char) : capitals (x ++ y) = capitals x ++ capitals y :=
  List.flatMap_append

theorem isSeparator_of_isBlank (h : isBlank c = true) : isSeparator c = true := by
  rw [isSeparator, h, Bool.true_or]

theorem capital_of_isSeparator (h : isSeparator c = true) : capital c = [c] := by
  rw [isSeparator, Bool.or_eq_true] at h
  rcases h with h | h
  · exact forall_blank (P := fun c => capital c = [c]) (by decide +kernel) h
  · obtain rfl : c = '(' := by simpa using h
    decide

theorem capitals_of_isSeparator (h : ∀ c ∈ cs, isSeparator c = true) : capitals cs = cs := by
  induction cs with
  | nil => rfl
  | cons c cs ih =>
    have hfirst := capital_of_isSeparator (h c List.mem_cons_self)
    have hrest : capitals cs = cs := ih fun d hd => h d (List.mem_cons_of_mem c hd)
    unfold capitals at hrest ⊢
    rw [List.flatMap_cons, hfirst, hrest]
    rfl

theorem isWord_of_isAlpha (h : c.isAlpha = true) : isWord c = true := by
  have hascii : c.toNat < 0x80 := by
    have hZ : 'Z'.val.toNat = 90 := rfl
    have hz : 'z'.val.toNat = 122 := rfl
    have hletter : (decide ('A'.val ≤ c.val ∧ c.val ≤ 'Z'.val) ||
        (decide ('a'.val ≤ c.val) && decide (c.val ≤ 'z'.val))) = true := h
    simp only [Bool.or_eq_true, Bool.and_eq_true, decide_eq_true_eq, UInt32.le_iff_toNat_le,
      Char.toNat_val] at hletter hZ hz
    omega
  rw [isWord, if_pos hascii, Char.isAlphanum, h]
  rfl

/-- A character whose capitals are letters from A to Z belongs to a word. -/
theorem isWord_of_capital (h : ∀ d ∈ capital c, d.isUpper = true) : isWord c = true := by
  unfold capital at h
  split at h
  all_goals try decide +kernel
  -- what is left are the characters with one capital, which only small letters do not share
  have hupper : c.toUpper.isUpper = true := h _ (List.mem_singleton_self _)
  refine isWord_of_isAlpha ?_
  by_cases hlower : c.isLower = true
  · show (c.isUpper || c.isLower) = true
    rw [hlower, Bool.or_true]
  · have hsmall : ¬ ('a'.val ≤ c.val ∧ c.val ≤ 'z'.val) := fun ⟨hfrom, hto⟩ =>
      hlower (Bool.and_eq_true_iff.2 ⟨decide_eq_true hfrom, decide_eq_true hto⟩)
    have hsame : c.toUpper = c := dif_neg hsmall
    rw [hsame] at hupper
    show (c.isUpper || c.isLower) = true
    rw [hupper, Bool.true_or]

theorem isWord_of_capitals (h : ∀ d ∈ capitals w, d.isUpper = true) : ∀ c ∈ w, isWord c = true :=
  fun _ hc => isWord_of_capital fun d hd => h d (List.mem_flatMap.2 ⟨_, hc, hd⟩)

/-- The words of a constraint are words, however they are written. -/
theorem isWord_of_constraintWords (h : tokens.map capitals ∈ constraintWords) (hw : w ∈ tokens) :
    w ≠ [] ∧ ∀ c ∈ w, isWord c = true := by
  have hall : constraintWords.all fun words =>
      words.all fun word => !word.isEmpty && word.all Char.isUpper := by
    decide
  have hword := List.all_eq_true.1 (List.all_eq_true.1 hall _ h) _ (List.mem_map_of_mem hw)
  rw [Bool.and_eq_true, List.all_eq_true] at hword
  obtain ⟨hne, hupper⟩ := hword
  refine ⟨?_, isWord_of_capitals hupper⟩
  rintro rfl
  cases hne

/-! ## Declarations -/

theorem before_append (mark : List Char) (h : ∀ d ∈ mark.head?, d ∉ w) (hne : mark ≠ []) :
    before mark (w ++ cs) = w ++ before mark cs := by
  obtain ⟨m, mark, rfl⟩ := List.exists_cons_of_ne_nil hne
  have hm : m ∉ w := h m rfl
  induction w with
  | nil => rfl
  | cons c w ih =>
    obtain ⟨hfirst, hrest⟩ := List.ne_and_not_mem_of_not_mem_cons hm
    have hno : ¬ (m :: mark).isPrefixOf (c :: (w ++ cs)) = true := by
      simp [List.isPrefixOf, hfirst]
    rw [List.cons_append, before, if_neg hno, ih (by simpa using hrest) hrest]
    rfl

theorem exists_dropComma_append (h : Trimmed w) (hne : w ≠ []) (hcomma : ',' ∉ w) (r : List Char) :
    ∃ q, q <+: r ∧ dropComma (w ++ r) = w ++ q := by
  unfold dropComma
  split
  · next rest hrest =>
    obtain rfl | ⟨r, d, rfl⟩ := List.eq_nil_or_concat r
    · refine absurd ?_ hcomma
      rw [← List.mem_reverse, ← List.append_nil w, hrest]
      exact List.mem_cons_self
    · rw [List.concat_eq_append, ← List.append_assoc, List.reverse_append] at hrest
      obtain ⟨-, rfl⟩ := List.cons.inj hrest
      obtain ⟨q, hq, htrim⟩ := exists_trim_append_of_trimmed h hne r
      refine ⟨q, hq.trans ?_, by simpa using htrim⟩
      rw [List.concat_eq_append]
      exact List.prefix_append r [d]
  · exact ⟨r, List.prefix_rfl, rfl⟩

/-- What is done to a line before it is read takes nothing from a trimmed text at its start in which
there is neither a comma nor what begins a comment. -/
theorem exists_declaration_append (hgap : Blank gap) (h : Trimmed w) (hne : w ≠ [])
    (hdash : '-' ∉ w) (hcomma : ',' ∉ w) (rest : List Char) :
    ∃ r, r <+: rest ∧ declaration (gap ++ (w ++ rest)) = w ++ r := by
  have hgapDash : '-' ∉ gap := fun hmem => absurd (hgap '-' hmem) (by decide)
  have hbefore : before ['-', '-'] (gap ++ (w ++ rest)) = gap ++ (w ++ before ['-', '-'] rest) := by
    rw [before_append _ (by simpa using hgapDash) (by simp),
      before_append _ (by simpa using hdash) (by simp)]
  have htrim :
      trim (gap ++ (w ++ before ['-', '-'] rest)) = trim (w ++ before ['-', '-'] rest) := by
    have hstart := h.1.append hne (before ['-', '-'] rest)
    have hstart' : trimStart (w ++ before ['-', '-'] rest) = w ++ before ['-', '-'] rest :=
      trimStart_append (w := []) (by simp [Blank]) hstart
    rw [trim, trim, trimStart_append hgap hstart, hstart']
  obtain ⟨q, hq, hw⟩ := exists_trim_append_of_trimmed h hne (before ['-', '-'] rest)
  obtain ⟨r, hr, hdrop⟩ := exists_dropComma_append h hne hcomma q
  refine ⟨r, (hr.trans hq).trans (before_isPrefix _ rest), ?_⟩
  rw [declaration, hbefore, htrim, hw, hdrop]

/-! ## Columns that are named by a word -/

theorem dropBlanks?_eq_none (h : Stops isBlank r) : dropBlanks? r = none := by
  cases r with
  | nil => rfl
  | cons c r => rw [dropBlanks?, stops_cons.1 h]; rfl

/-- A text that ends with no blank character is not made of them. -/
theorem trimStart_ne_nil (h : Ends cs) (hne : cs ≠ []) : trimStart cs ≠ [] := by
  intro hnil
  have hlast := h (cs.getLast hne) (by simp [List.getLast?_eq_some_getLast hne])
  rw [List.dropWhile_eq_nil_iff.1 hnil _ (List.getLast_mem hne)] at hlast
  cases hlast

/-- A declaration that begins with a word gives a column just if a blank character follows the word
and it does not open a constraint. -/
theorem exists_column_iff (hne : w ≠ []) (hw : ∀ d ∈ w, isWord d = true) (hstop : Stops isWord r)
    (hquote : Stops (· == '"') r) (hline : declaration line = w ++ r) :
    (∃ column, column? line = some column) ↔
      ¬ Stops isBlank r ∧ isConstraint (w ++ r) = false := by
  have htrimmed : Trimmed (w ++ r) := hline ▸ trimmed_declaration line
  have hread : dropBlanks? r ≠ some [] →
      nameAndDefinition? (w ++ r) = (dropBlanks? r).map fun definition => (w, definition) :=
    nameAndDefinition?_name (.inl rfl) hne hw (.inl rfl) hstop hquote
  have hnames : (∃ name definition, NamesDefinition (w ++ r) name definition) ↔
      ¬ Stops isBlank r := by
    simp only [← nameAndDefinition?_eq_some_iff]
    by_cases hblank : Stops isBlank r
    · have hnone := dropBlanks?_eq_none hblank
      rw [hread (by simp [hnone]), hnone]
      simp [hblank]
    · obtain ⟨c, r, rfl⟩ := List.exists_cons_of_ne_nil (l := r) (by
        rintro rfl
        exact hblank (by simp [Stops]))
      have hc : isBlank c = true := by simpa [stops_cons] using hblank
      have hdrop : dropBlanks? (c :: r) = some (trimStart r) := if_pos hc
      -- the declaration ends with a character that is not blank, so a definition is left
      have hends : Ends (c :: r) := Ends.of_append (t := w) htrimmed.2
      have hleft : trimStart (c :: r) ≠ [] := trimStart_ne_nil hends (by simp)
      have hskip : trimStart (c :: r) = trimStart r := List.dropWhile_cons_of_pos hc
      rw [hread (by rw [hdrop, ← hskip]; simpa using hleft), hdrop]
      simp [hblank]
  simp only [exists_column?_iff, Declares, hline, exists_and_left, hnames]
  exact and_comm

/-! ## Openings -/

/-- Behind the word of a constraint, an opening has a single space. -/
theorem isConstraint_one (hword : [capitals w] ∈ constraintWords) (hc : isSeparator c = true)
    (rest : List Char) : isConstraint (w ++ c :: rest) = (' ' == c) := by
  have hcapitals : capitals (w ++ c :: rest) = capitals w ++ c :: capitals rest := by
    rw [capitals_append, capitals, capitals, List.flatMap_cons, capital_of_isSeparator hc]
    rfl
  rw [isConstraint, hcapitals]
  simp only [constraintWords, List.mem_cons, List.cons.injEq, List.not_mem_nil, or_false, and_true,
    reduceCtorEq, and_false, false_or] at hword
  rcases hword with hw | hw | hw | hw <;> rw [hw] <;> simp [constraintOpenings, List.isPrefixOf]

/-- Between the two words of a constraint, an opening has a single space. -/
theorem isConstraint_two {v : List Char} (hwords : [capitals w, capitals v] ∈ constraintWords)
    (hsep : ∀ d ∈ sep, isSeparator d = true) (hne : sep ≠ []) (rest : List Char) :
    isConstraint (w ++ (sep ++ (v ++ rest))) = true ↔ sep = [' '] := by
  have hcapitals : capitals (w ++ (sep ++ (v ++ rest))) =
      capitals w ++ (sep ++ (capitals v ++ capitals rest)) := by
    rw [capitals_append, capitals_append, capitals_append, capitals_of_isSeparator hsep]
  have hletter : ∀ d, isSeparator d = true → d ≠ 'K' := by
    rintro d hd rfl
    exact absurd hd (by decide)
  obtain ⟨c, sep, rfl⟩ := List.exists_cons_of_ne_nil hne
  rw [isConstraint, hcapitals]
  simp only [constraintWords, List.mem_cons, List.cons.injEq, List.not_mem_nil, or_false, and_true,
    reduceCtorEq, and_false, false_or] at hwords
  cases sep with
  | nil =>
    rw [List.cons.injEq, and_iff_left rfl, @eq_comm _ c ' ']
    rcases hwords with ⟨hw, hv⟩ | ⟨hw, hv⟩ <;> rw [hw, hv] <;>
      simp [constraintOpenings, List.isPrefixOf]
  | cons d sep =>
    have hd := hletter d (hsep d (by simp))
    rcases hwords with ⟨hw, hv⟩ | ⟨hw, hv⟩ <;> rw [hw, hv] <;>
      simp [constraintOpenings, List.isPrefixOf, hd.symm]

/-! ## Lines -/

theorem stops_isWord_of_isSeparator (h : Stops (fun c => !isSeparator c) r) :
    Stops isWord r ∧ Stops (· == '"') r := by
  refine ⟨fun c hc => ?_, fun c hc => ?_⟩
  · have hsep : isSeparator c = true := by simpa using h c hc
    rw [isSeparator, Bool.or_eq_true] at hsep
    rcases hsep with hblank | hopen
    · exact isWord_of_isBlank hblank
    · obtain rfl : c = '(' := by simpa using hopen
      decide +kernel
  · have hsep : isSeparator c = true := by simpa using h c hc
    rw [beq_eq_false_iff_ne]
    rintro rfl
    exact absurd hsep (by decide)

theorem constraintWords_one (h : [capitals w] ∈ constraintWords) :
    w ≠ [] ∧ ∀ c ∈ w, isWord c = true := by
  have hwords : [w].map capitals ∈ constraintWords := h
  exact isWord_of_constraintWords hwords List.mem_cons_self

theorem constraintWords_two {v : List Char} (h : [capitals w, capitals v] ∈ constraintWords) :
    (w ≠ [] ∧ ∀ c ∈ w, isWord c = true) ∧ (v ≠ [] ∧ ∀ c ∈ v, isWord c = true) := by
  have hwords : [w, v].map capitals ∈ constraintWords := h
  exact ⟨isWord_of_constraintWords hwords (by simp), isWord_of_constraintWords hwords (by simp)⟩

/-- A declaration with the words of a constraint that are not spaced as in an opening is read as a
column. -/
theorem exists_column_of_looselySpaced (h : LooselySpaced (declaration line)) :
    ∃ column, column? line = some column := by
  generalize hline : declaration line = cs at h
  cases h with
  | @one w rest c hword hblank hspace =>
    obtain ⟨hne, hw⟩ := constraintWords_one hword
    have hsep := isSeparator_of_isBlank hblank
    obtain ⟨hstop, hquote⟩ :=
      stops_isWord_of_isSeparator (r := c :: rest) (stops_cons.2 (by simp [hsep]))
    refine (exists_column_iff hne hw hstop hquote hline).2 ⟨?_, ?_⟩
    · rw [stops_cons, hblank]
      simp
    · rw [isConstraint_one hword hsep, beq_eq_false_iff_ne]
      exact hspace.symm
  | @two w sep v rest c hwords hblank hsep hspace hstop =>
    obtain ⟨⟨hne, hw⟩, -⟩ := constraintWords_two hwords
    have hfirst := isSeparator_of_isBlank hblank
    obtain ⟨hstop, hquote⟩ :=
      stops_isWord_of_isSeparator (r := c :: sep ++ (v ++ rest)) (stops_cons.2 (by simp [hfirst]))
    refine (exists_column_iff hne hw hstop hquote hline).2 ⟨?_, ?_⟩
    · rw [List.cons_append, stops_cons, hblank]
      simp
    · rw [Bool.eq_false_iff, ne_eq, isConstraint_two hwords ?_ (by simp)]
      · exact hspace
      · intro d hd
        rcases List.mem_cons.1 hd with rfl | hd
        · exact hfirst
        · exact hsep d hd

theorem column?_eq_none_of_paren (h : declaration line = '(' :: r) : column? line = none := by
  have hword : isWord '(' = false := by decide +kernel
  have hnone : nameAndDefinition? ('(' :: r) = none := by
    simp [nameAndDefinition?, dropQuote, hword]
  unfold column?
  simp only [h, hnone]
  split <;> rfl

/-- Only blank characters stand before the name of a column. -/
theorem blank_of_column (hgap : ∀ c ∈ gap, isSeparator c = true)
    (h : column? (gap ++ rest) = some column) : Blank gap := by
  obtain ⟨b, hb, hsplit, hstop⟩ := exists_blank_append_trimStart gap
  cases hnext : trimStart gap with
  | nil =>
    rw [hnext, List.append_nil] at hsplit
    rwa [hsplit]
  | cons c g =>
    have hc : c = '(' := by
      have hsep : isSeparator c = true := hgap c (by rw [hsplit, hnext]; simp)
      rw [hnext, stops_cons] at hstop
      simpa [isSeparator, hstop] using hsep
    have htrimmed : Trimmed ['('] := ⟨stops_cons.2 (by decide), stops_cons.2 (by decide)⟩
    obtain ⟨r, -, hline⟩ :=
      exists_declaration_append hb htrimmed (by simp) (by decide) (by decide) (g ++ rest)
    have hwhole : gap ++ rest = b ++ (['('] ++ (g ++ rest)) := by
      rw [hsplit, hnext, hc]
      simp
    rw [hwhole, column?_eq_none_of_paren hline] at h
    cases h

theorem trimmed_of_isWord (hw : ∀ c ∈ w, isWord c = true) : Trimmed w :=
  ⟨fun c hc => isBlank_of_isWord (hw c (List.mem_of_mem_head? hc)),
    fun c hc => isBlank_of_isWord (hw c (List.mem_reverse.1 (List.mem_of_mem_head? hc)))⟩

/-- Neither a word nor what separates words holds a comma or begins a comment. -/
theorem notMem_of_isWord (hw : ∀ c ∈ w, isWord c = true ∨ isSeparator c = true) :
    '-' ∉ w ∧ ',' ∉ w := by
  constructor
  · intro hmem
    rcases hw '-' hmem with h | h
    · exact absurd h (by decide +kernel)
    · exact absurd h (by decide)
  · intro hmem
    rcases hw ',' hmem with h | h
    · exact absurd h (by decide +kernel)
    · exact absurd h (by decide)

theorem looselySpaced_of_one (hword : [capitals w] ∈ constraintWords) (hgap : Blank gap)
    (hstop : Stops (fun c => !isSeparator c) rest)
    (hcolumn : column? (gap ++ (w ++ rest)) = some column) :
    LooselySpaced (declaration (gap ++ (w ++ rest))) := by
  obtain ⟨hne, hw⟩ := constraintWords_one hword
  obtain ⟨hdash, hcomma⟩ := notMem_of_isWord fun c hc => .inl (hw c hc)
  obtain ⟨r, hr, hline⟩ :=
    exists_declaration_append hgap (trimmed_of_isWord hw) hne hdash hcomma rest
  obtain ⟨hend, hquote⟩ := stops_isWord_of_isSeparator (hstop.mono hr)
  obtain ⟨hblank, hconstraint⟩ := (exists_column_iff hne hw hend hquote hline).1 ⟨column, hcolumn⟩
  rw [hline]
  cases r with
  | nil => exact absurd (by simp [Stops]) hblank
  | cons c r =>
    have hc : isBlank c = true := by simpa [stops_cons] using hblank
    rw [isConstraint_one hword (isSeparator_of_isBlank hc), beq_eq_false_iff_ne] at hconstraint
    exact .one hword hc hconstraint.symm

theorem looselySpaced_of_two {v : List Char} (hwords : [capitals w, capitals v] ∈ constraintWords)
    (hgap : Blank gap) (hsep : ∀ d ∈ sep, isSeparator d = true) (hne : sep ≠ [])
    (hstop : Stops (fun c => !isSeparator c) rest)
    (hcolumn : column? (gap ++ (w ++ (sep ++ (v ++ rest)))) = some column) :
    LooselySpaced (declaration (gap ++ (w ++ (sep ++ (v ++ rest))))) := by
  obtain ⟨⟨hwne, hw⟩, hvne, hv⟩ := constraintWords_two hwords
  have htrimmed : Trimmed (w ++ (sep ++ v)) := by
    refine ⟨(trimmed_of_isWord hw).1.append hwne _, ?_⟩
    rw [List.reverse_append, List.reverse_append, List.append_assoc]
    exact (trimmed_of_isWord hv).2.append (by simpa using hvne) _
  obtain ⟨hdash, hcomma⟩ : '-' ∉ w ++ (sep ++ v) ∧ ',' ∉ w ++ (sep ++ v) := by
    refine notMem_of_isWord fun c hc => ?_
    simp only [List.mem_append] at hc
    rcases hc with hc | hc | hc
    · exact .inl (hw c hc)
    · exact .inr (hsep c hc)
    · exact .inl (hv c hc)
  obtain ⟨r, hr, hline⟩ :=
    exists_declaration_append hgap htrimmed (by simp [hwne]) hdash hcomma rest
  simp only [List.append_assoc] at hline
  obtain ⟨c, sep, rfl⟩ := List.exists_cons_of_ne_nil hne
  have hfirst := hsep c List.mem_cons_self
  obtain ⟨hend, hquote⟩ :=
    stops_isWord_of_isSeparator (r := c :: sep ++ (v ++ r)) (stops_cons.2 (by simp [hfirst]))
  obtain ⟨hblank, hconstraint⟩ := (exists_column_iff hwne hw hend hquote hline).1 ⟨column, hcolumn⟩
  rw [Bool.eq_false_iff, ne_eq, isConstraint_two hwords hsep hne] at hconstraint
  rw [hline]
  refine .two hwords ?_ (fun d hd => hsep d (List.mem_cons_of_mem c hd)) hconstraint (hstop.mono hr)
  simpa [stops_cons] using hblank

/-- A line that opens a constraint and is read as a column is loosely spaced. -/
theorem looselySpaced_of_column (h : OpensConstraint line) (hcolumn : column? line = some column) :
    LooselySpaced (declaration line) := by
  obtain ⟨tokens, htokens, hwords⟩ := h
  cases htokens with
  | nil => exact absurd hwords (by decide)
  | @cons gap w rest tokens hgap _ _ hstop hnext =>
    have hblank := blank_of_column hgap hcolumn
    cases hnext with
    | nil => exact looselySpaced_of_one hwords hblank hstop hcolumn
    | @cons sep v rest tokens hsep hne hv hstop' _ =>
      obtain rfl : tokens = [] := by
        have hlength : ∀ words ∈ constraintWords, words.length ≤ 2 := by decide
        simpa using hlength _ hwords
      refine looselySpaced_of_two hwords hblank hsep ?_ hstop' hcolumn
      -- without separators the first word would go on with the second one
      rintro rfl
      obtain ⟨d, v, rfl⟩ := List.exists_cons_of_ne_nil hne
      have hd : isSeparator d = true := by simpa using hstop d rfl
      rw [hv d List.mem_cons_self] at hd
      cases hd

/-! ## Tables -/

/-- A column of a table is read from a line of the statement that creates the table. -/
theorem exists_line_of_mem_columns {content : String} {t : Table} (ht : t ∈ tables content)
    (hcolumn : column ∈ t.columns) :
    ∃ s ∈ statements content.toList, ∃ line ∈ lines s.body, column? line = some column := by
  have hmem : t ∈ (statements content.toList).filterMap Statement.table? :=
    (stablySorted_sortByKey Table.name _).perm.mem_iff.1 ht
  obtain ⟨s, hs, hread⟩ := List.mem_filterMap.1 hmem
  unfold Statement.table? at hread
  split at hread
  · cases hread
  · obtain rfl := Option.some.inj hread
    obtain ⟨line, hline, hread⟩ := List.mem_filterMap.1 hcolumn
    exact ⟨s, hs, line, hline, hread⟩

/-- A line that opens a constraint gives a column just if its words are not spaced as in an opening,
and a table has no other columns from such lines. -/
theorem column_of_constraint_line (line : List Char) (content : String) :
    (OpensConstraint line →
      ((∃ column, column? line = some column) ↔ LooselySpaced (declaration line))) ∧
    ∀ t ∈ tables content, ∀ column ∈ t.columns,
      ∃ s ∈ statements content.toList, ∃ line ∈ lines s.body, column? line = some column ∧
        (OpensConstraint line → LooselySpaced (declaration line)) := by
  constructor
  · intro hopens
    constructor
    · rintro ⟨column, hcolumn⟩
      exact looselySpaced_of_column hopens hcolumn
    · exact exists_column_of_looselySpaced
  · intro t ht column hcolumn
    obtain ⟨s, hs, line, hline, hread⟩ := exists_line_of_mem_columns ht hcolumn
    exact ⟨s, hs, line, hline, hread, fun hopens => looselySpaced_of_column hopens hread⟩

/-- The line of a constraint with a tab behind its word. -/
def tabbedLine : List Char := ['U', 'N', 'I', 'Q', 'U', 'E', '\t', '(', 'i', 'd', ')']

theorem opensConstraint_tabbedLine : OpensConstraint tabbedLine := by
  refine ⟨[['U', 'N', 'I', 'Q', 'U', 'E']], ?_, by decide⟩
  show FirstTokens _ ([] ++ (['U', 'N', 'I', 'Q', 'U', 'E'] ++ ['\t', '(', 'i', 'd', ')']))
  have hany : ['U', 'N', 'I', 'Q', 'U', 'E'].any isSeparator = false := by decide
  have htoken : ∀ c ∈ ['U', 'N', 'I', 'Q', 'U', 'E'], isSeparator c = false :=
    fun c hc => Bool.eq_false_iff.2 (List.any_eq_false.1 hany c hc)
  exact .cons (by simp) (by simp) htoken (stops_cons.2 (by decide)) .nil

theorem column_of_constraint_line_tabbed :
    OpensConstraint tabbedLine ∧ ∃ column, column? tabbedLine = some column := by
  have hdeclaration : declaration tabbedLine = "UNIQUE".toList ++ '\t' :: "(id)".toList := by
    decide +kernel
  refine ⟨opensConstraint_tabbedLine, ?_⟩
  refine ((column_of_constraint_line tabbedLine "").1 opensConstraint_tabbedLine).2 ?_
  rw [hdeclaration]
  exact .one (by decide) (by decide) (by decide)

theorem column?_tabbedLine : ¬ ∀ line, OpensConstraint line → column? line = none := by
  intro hnone
  have hcolumn : column? tabbedLine = some ⟨"UNIQUE", "(id)", true⟩ := by decide +kernel
  rw [hnone tabbedLine opensConstraint_tabbedLine] at hcolumn
  cases hcolumn

end Cadastre.Schema
