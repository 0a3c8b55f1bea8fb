import Cadastre.Proofs.Yaml.Quoted
import Cadastre.Yaml.Writer

/-!
# Reading a literal block

A literal block is read line by line. Its first mark tells the indentation where the first line
cannot, its second one what becomes of the breaks at its end; with these marks a string with
newlines is read back from its lines, wherever its breaks and spaces stand.
-/

namespace Cadastre.Yaml

open Text (Stops stops_cons takeWhile_append_stops)

variable {ch b : Char} {cs bs line more rest : List Char} {c : Cursor} {context : Context}
  {indent n fuel : Nat}

/-! ## The lines of a block -/

/-- The only breaks of a text are newlines and separators, and no tab stands in it. -/
structure Lined (cs : List Char) : Prop where
  breaks : ∀ ch ∈ cs, isBreak ch = true → ch = '\n' ∨ isSeparator ch = true
  tabless : '\t' ∉ cs

theorem Lined.of_append (h : Lined (line ++ more)) : Lined more where
  breaks ch hch := h.breaks ch (List.mem_append_right _ hch)
  tabless hch := h.tabless (List.mem_append_right _ hch)

/-- What a block keeps of a break at its end, and of further ones. -/
def chompOf (cs : List Char) : Chomp :=
  match cs.reverse with
  | [] => .strip
  | ch :: before =>
    if !isBreak ch then .strip
    else
      match before with
      | [] => .keep
      | d :: _ => if isBreak d then .keep else .clip

/-- What a block needs behind it to end its last line. -/
def closing (cs : List Char) : List Char := if cs.getLast?.any isBreak then [] else ['\n']

theorem chompOf_append (hne : more ≠ []) (hstops : Stops isBreak more) :
    chompOf (line ++ more) = chompOf more := by
  cases hback : more.reverse with
  | nil => exact absurd (List.reverse_eq_nil_iff.1 hback) hne
  | cons last before =>
    rw [chompOf, chompOf, List.reverse_append, hback, List.cons_append]
    by_cases hlast : isBreak last = true
    · cases before with
      | nil =>
        obtain rfl : more = [last] := by simpa using congrArg List.reverse hback
        rw [stops_cons.1 hstops] at hlast
        cases hlast
      | cons d before => rfl
    · simp [hlast]

/-- The break at the end of a line is kept if it is the only one, and with further ones all are. -/
theorem chompOf_line (hne : line ≠ []) (hline : ∀ ch ∈ line, isBreak ch = false) :
    chompOf line = .strip := by
  cases hback : line.reverse with
  | nil => exact absurd (List.reverse_eq_nil_iff.1 hback) hne
  | cons last before =>
    have hlast := hline last (List.mem_reverse.1 (hback ▸ List.mem_cons_self))
    simp [chompOf, hback, hlast]

theorem chompOf_line_break (hne : line ≠ []) (hline : ∀ ch ∈ line, isBreak ch = false)
    (hb : isBreak b = true) : chompOf (line ++ [b]) = .clip := by
  cases hback : line.reverse with
  | nil => exact absurd (List.reverse_eq_nil_iff.1 hback) hne
  | cons last before =>
    have hlast := hline last (List.mem_reverse.1 (hback ▸ List.mem_cons_self))
    simp [chompOf, hback, hlast, hb]

theorem chompOf_breaks (hne : bs ≠ []) (hbs : ∀ x ∈ bs, isBreak x = true)
    (hline : line = [] ∨ line.getLast?.any isBreak = true) : chompOf (line ++ bs) = .keep := by
  cases hback : bs.reverse with
  | nil => exact absurd (List.reverse_eq_nil_iff.1 hback) hne
  | cons last before =>
    have hall : ∀ x ∈ last :: before, isBreak x = true := by
      intro x hx
      exact hbs x (List.mem_reverse.1 (hback ▸ hx))
    obtain ⟨hlast, hbefore⟩ := List.forall_mem_cons.1 hall
    cases before with
    | nil =>
      rcases hline with rfl | hline
      · simp [chompOf, hback, hlast]
      · rw [← List.head?_reverse] at hline
        cases hfront : line.reverse with
        | nil => simp [hfront] at hline
        | cons d front =>
          rw [hfront] at hline
          have hd : isBreak d = true := hline
          simp [chompOf, hback, hfront, hlast, hd]
    | cons d before =>
      have hd := hbefore d List.mem_cons_self
      simp [chompOf, hback, hlast, hd]

/-! ## How a string is cut into lines -/

theorem literalBody_breaks (hbs : ∀ x ∈ bs, isBreak x = true) (cs : List Char) :
    literalBody indent true (bs ++ cs) = bs ++ literalBody indent true cs := by
  induction bs with
  | nil => rfl
  | cons b bs ih =>
    obtain ⟨hb, hbs⟩ := List.forall_mem_cons.1 hbs
    rw [List.cons_append, literalBody, if_pos hb, ih hbs, List.cons_append]

theorem literalBody_line (hline : ∀ x ∈ line, isBreak x = false) (cs : List Char) :
    literalBody indent false (line ++ cs) = line ++ literalBody indent false cs := by
  induction line with
  | nil => rfl
  | cons x line ih =>
    obtain ⟨hx, hline⟩ := List.forall_mem_cons.1 hline
    rw [List.cons_append, literalBody, if_neg (by simp [hx]), ih hline]
    rfl

theorem literalBody_true_of_stops (hne : cs ≠ []) (hcs : Stops isBreak cs) :
    literalBody indent true cs = List.replicate indent ' ' ++ literalBody indent false cs := by
  obtain ⟨x, cs, rfl⟩ := List.exists_cons_of_ne_nil hne
  have hx : ¬ isBreak x = true := by simp [stops_cons.1 hcs]
  simp only [literalBody, if_neg hx, if_true, Bool.false_eq_true, if_false, List.nil_append]

theorem literalBody_break (hb : isBreak b = true) (cs : List Char) :
    literalBody indent false (b :: cs) = b :: literalBody indent true cs := by
  rw [literalBody, if_pos hb]

theorem head?_literalBody (indent : Nat) (hne : cs ≠ []) (rest : List Char) :
    (literalBody indent false cs ++ rest).head? = cs.head? := by
  obtain ⟨x, cs, rfl⟩ := List.exists_cons_of_ne_nil hne
  rw [literalBody]
  split <;> rfl

theorem getLast?_literalBody (after : Bool) (cs : List Char) :
    (literalBody indent after cs).getLast? = cs.getLast? := by
  induction cs generalizing after with
  | nil => rfl
  | cons x cs ih =>
    rw [literalBody]
    split
    · rw [List.getLast?_cons, List.getLast?_cons, ih]
    · rw [List.getLast?_append_of_ne_nil _ (List.cons_ne_nil _ _), List.getLast?_cons,
        List.getLast?_cons, ih]

/-! ## Empty lines and indentation -/

theorem isBreak_of_lined (hb : b = '\n' ∨ isSeparator b = true) : isBreak b = true := by
  rcases hb with rfl | hb
  · rfl
  · exact isBreak_of_isSeparator hb

theorem nextLine_of_lined (hb : b = '\n' ∨ isSeparator b = true) (hc : c.rest = b :: rest) :
    c.nextLine.rest = rest ∧ c.nextLine.column = 0 := by
  rcases hb with rfl | hb
  · rw [Cursor.nextLine_cons hc rfl (by decide)]
    exact ⟨rfl, rfl⟩
  · rw [nextLine_separator hb hc]
    exact ⟨rfl, rfl⟩

theorem breakText_of_lined (hb : b = '\n' ∨ isSeparator b = true) (cs : List Char) :
    breakText (b :: cs) = [b] := by
  rcases hb with rfl | hb
  · rfl
  · exact breakText_separator hb cs

/-- What stands after empty lines of a block: `n` spaces, and what is neither a break nor more of
the indentation. -/
structure LineAhead (indent n : Nat) (rest : List Char) : Prop where
  inside : n ≤ indent
  breakless : Stops isBreak rest
  tabless : rest.head? ≠ some '\t'
  spaceless : n < indent → rest.head? ≠ some ' '

theorem LineAhead.of_stops (hn : n ≤ indent) (hrest : Stops isGapOrBreak rest) :
    LineAhead indent n rest where
  inside := hn
  breakless ch hch := (isGapOrBreak_eq_false_iff.1 (hrest ch hch)).2.2
  tabless h := (isGapOrBreak_eq_false_iff.1 (hrest _ h)).2.1 rfl
  spaceless _ h := (isGapOrBreak_eq_false_iff.1 (hrest _ h)).1 rfl

/-- A further line of a string, with its indentation taken off. -/
theorem LineAhead.of_lined (hlined : Lined cs) (hne : cs ≠ []) (hcs : Stops isBreak cs)
    (rest : List Char) : LineAhead indent indent (literalBody indent false cs ++ rest) := by
  have hhead := head?_literalBody indent hne rest
  exact ⟨Nat.le_refl _, fun ch hch => hcs ch (hhead ▸ hch),
    fun h => hlined.tabless (List.mem_of_mem_head? (hhead ▸ h)), fun h => absurd h (lt_irrefl _)⟩

/-- The empty lines end where a line does. -/
theorem blockBreaks_stop (context : Context) (hindent : 0 < indent)
    (hahead : LineAhead indent n rest) (widest : Nat) (breaks : List Char) (hcolumn : c.column = 0)
    (hc : c.rest = List.replicate n ' ' ++ rest) :
    ∃ widest' after, blockBreaks context indent (fuel + 1) widest breaks c =
        .ok (widest', breaks, after) ∧
      after.rest = rest ∧ after.column = n := by
  have hzero : (indent == 0) = false := by simpa using hindent.ne'
  have hspaces : min (c.rest.takeWhile (· == ' ')).length (indent - c.column) = n := by
    have hinside := hahead.inside
    rw [hc, hcolumn, List.takeWhile_append_of_pos (by simp), List.length_append,
      List.length_replicate]
    by_cases hlt : n < indent
    · have hnone : rest.takeWhile (· == ' ') = [] := by
        cases rest with
        | nil => rfl
        | cons x rest =>
          have hx : x ≠ ' ' := by simpa using hahead.spaceless hlt
          simp [hx]
      rw [hnone, List.length_nil]
      omega
    · omega
  have hafter : (c.skip n).rest = rest := by
    simpa using Cursor.skip_rest_append (w := List.replicate n ' ') hc
  have hcolumn' : (c.skip n).column = n := by rw [Cursor.skip_column, hcolumn, Nat.zero_add]
  have htab : (c.skip n).at? '\t' = false := by
    refine Cursor.at?_eq_false fun x hx => ?_
    rintro rfl
    exact hahead.tabless (hafter ▸ hx)
  refine ⟨max widest (c.skip n).column, c.skip n, ?_, hafter, hcolumn'⟩
  rw [blockBreaks]
  simp only [hzero, Bool.false_eq_true, if_false, hspaces, htab, Bool.and_false, hafter]
  cases rest with
  | nil => rfl
  | cons x rest => simp [stops_cons.1 hahead.breakless]

/-- An empty line without spaces is read as its break. -/
theorem blockBreaks_cons (context : Context) (hindent : 0 < indent) (widest : Nat)
    (breaks : List Char) (hb : b = '\n' ∨ isSeparator b = true) (hc : c.rest = b :: rest) :
    blockBreaks context indent (fuel + 1) widest breaks c =
      blockBreaks context indent fuel (max widest c.column) (breaks ++ [b]) c.nextLine := by
  have hzero : (indent == 0) = false := by simpa using hindent.ne'
  have hbreak := isBreak_of_lined hb
  have hgap := isGap_of_isBreak hbreak
  simp only [isGap, Bool.or_eq_false_iff] at hgap
  have hspaces : min (c.rest.takeWhile (· == ' ')).length (indent - c.column) = 0 := by
    simp [hc, hgap.1]
  have htab : c.at? '\t' = false := by
    simp [Cursor.at?, hc, hgap.2]
  rw [blockBreaks]
  simp only [hzero, Bool.false_eq_true, if_false, hspaces, Cursor.skip_zero, htab, Bool.and_false]
  rw [hc]
  simp only [hbreak, if_true, breakText_of_lined hb]

/-- Where the indentation of a block is known, its empty lines are read up to the indentation of
the next line, or up to a line that has less. -/
theorem blockBreaks_of_lined (context : Context) (hindent : 0 < indent)
    (hahead : LineAhead indent n rest) (hbs : ∀ b ∈ bs, b = '\n' ∨ isSeparator b = true) :
    ∀ (fuel widest : Nat) (breaks : List Char) (c : Cursor), c.column = 0 →
      c.rest = bs ++ (List.replicate n ' ' ++ rest) → c.rest.length < fuel →
        ∃ widest' after, blockBreaks context indent fuel widest breaks c =
            .ok (widest', breaks ++ bs, after) ∧
          after.rest = rest ∧ after.column = n := by
  induction bs with
  | nil =>
    intro fuel widest breaks c hcolumn hc hfuel
    obtain ⟨f, rfl⟩ : ∃ f, fuel = f + 1 := ⟨fuel - 1, by omega⟩
    rw [List.append_nil]
    exact blockBreaks_stop context hindent hahead widest breaks hcolumn hc
  | cons b bs ih =>
    intro fuel widest breaks c _ hc hfuel
    obtain ⟨hb, hbs⟩ := List.forall_mem_cons.1 hbs
    obtain ⟨f, rfl⟩ : ∃ f, fuel = f + 1 := ⟨fuel - 1, by omega⟩
    rw [List.cons_append] at hc
    rw [hc, List.length_cons] at hfuel
    obtain ⟨hline, hstart⟩ := nextLine_of_lined hb hc
    obtain ⟨widest', after, hread, hafter⟩ := ih hbs f (max widest c.column) (breaks ++ [b])
      c.nextLine hstart hline (by rw [hline]; omega)
    refine ⟨widest', after, ?_, hafter⟩
    rw [blockBreaks_cons context hindent widest breaks hb hc, hread, List.append_assoc,
      List.singleton_append]

/-- Where it is not known yet, the indentation of a block is that of its first line. -/
theorem blockBreaks_first (context : Context) (fuel : Nat) (hcolumn : c.column = 0)
    (hc : c.rest = List.replicate n ' ' ++ rest) (hrest : Stops isGapOrBreak rest) :
    ∃ after, blockBreaks context 0 (fuel + 1) 0 [] c = .ok (n, [], after) ∧
      after.rest = rest ∧ after.column = n := by
  have hstops : ∀ x ∈ rest.head?, x ≠ ' ' ∧ x ≠ '\t' ∧ isBreak x = false :=
    fun x hx => isGapOrBreak_eq_false_iff.1 (hrest x hx)
  have hspaces : c.rest.takeWhile (· == ' ') = List.replicate n ' ' := by
    rw [hc]
    exact takeWhile_append_stops (by simp) fun x hx => by simpa using (hstops x hx).1
  have hafter : (c.skip n).rest = rest := by
    simpa using Cursor.skip_rest_append (w := List.replicate n ' ') hc
  have hcolumn' : (c.skip n).column = n := by rw [Cursor.skip_column, hcolumn, Nat.zero_add]
  have htab : (c.skip n).at? '\t' = false :=
    Cursor.at?_eq_false fun x hx => (hstops x (hafter ▸ hx)).2.1
  refine ⟨c.skip n, ?_, hafter, hcolumn'⟩
  rw [blockBreaks]
  simp only [beq_self_eq_true, if_true, hspaces, List.length_replicate, htab, Bool.and_false,
    Bool.false_eq_true, if_false, hafter, hcolumn', Nat.zero_max]
  cases rest with
  | nil => rfl
  | cons x rest => simp [(hstops x rfl).2.2]

/-! ## The text of a block -/

/-- What is kept of the breaks at the end of a block. -/
def BlockState.kept (chomp : Chomp) (s : BlockState) : List Char :=
  match chomp with
  | .strip => []
  | .clip => s.ended
  | .keep => s.ended ++ s.empty

theorem blockText_end {chomp : Chomp} {s : BlockState} (h : c.column ≠ indent) :
    blockText context false indent chomp (fuel + 1) s c = .ok (s.kept chomp, c) := by
  have hcolumn : (c.column == indent) = false := by simpa using h
  simp only [blockText, hcolumn, Bool.false_and, Bool.false_eq_true, if_false]
  rfl

/-- A line of a block, and the empty lines after it. -/
theorem blockText_line (context : Context) (fuel : Nat) (chomp : Chomp) (s : BlockState)
    (hindent : 0 < indent) (hcolumn : c.column = indent)
    (hc : c.rest = line ++ b :: (bs ++ (List.replicate n ' ' ++ rest)))
    (hline : ∀ x ∈ line, isBreak x = false) (hbs : ∀ x ∈ b :: bs, x = '\n' ∨ isSeparator x = true)
    (hahead : LineAhead indent n rest) :
    ∃ blank after, after.rest = rest ∧ after.column = n ∧
      blockText context false indent chomp (fuel + 1) s c =
        (blockText context false indent chomp fuel ⟨[b], blank, bs⟩ after).map fun (t, c) =>
          (s.ended ++ s.empty ++ line ++ t, c) := by
  obtain ⟨hb, hbs⟩ := List.forall_mem_cons.1 hbs
  have hbreak := isBreak_of_lined hb
  have hspan : c.span (fun x => !isBreak x) = (line, c.skip line.length) := by
    refine Cursor.span_append hc (fun x hx => by simp [hline x hx]) (stops_cons.2 ?_)
    simp [hbreak]
  have hend := Cursor.skip_rest_append hc
  obtain ⟨hnext, hstart⟩ := nextLine_of_lined hb hend
  obtain ⟨widest, after, hempty, hafter, hcolumn'⟩ := blockBreaks_of_lined context hindent hahead
    hbs ((c.skip line.length).rest.length + 1) 0 [] _ hstart hnext
    (by rw [hnext, hend, List.length_cons]; omega)
  refine ⟨c.rest.head?.any isGap, after, hafter, hcolumn', ?_⟩
  have hmore : (c.column == indent && !c.rest.isEmpty) = true := by
    simp [hcolumn, hc]
  rw [hend] at hempty
  simp only [blockText, hmore, if_true, hspan, hend, breakText_of_lined hb, Bool.false_and,
    Bool.false_eq_true, if_false, hempty]
  rfl

/-- A text that does not begin with a break is its first line, perhaps a break, the empty lines
after it, and the lines after these. -/
theorem exists_line (hne : cs ≠ []) (hstops : Stops isBreak cs) :
    ∃ line more, cs = line ++ more ∧ line ≠ [] ∧ (∀ x ∈ line, isBreak x = false) ∧
      (more = [] ∨ ∃ b bs next, more = b :: (bs ++ next) ∧ (∀ x ∈ b :: bs, isBreak x = true) ∧
        Stops isBreak next) := by
  refine ⟨cs.takeWhile (!isBreak ·), cs.dropWhile (!isBreak ·),
    List.takeWhile_append_dropWhile.symm, ?_, fun x hx => ?_, ?_⟩
  · obtain ⟨x, cs, rfl⟩ := List.exists_cons_of_ne_nil hne
    simp [stops_cons.1 hstops]
  · simpa using List.mem_takeWhile_imp hx
  · cases hmore : cs.dropWhile (!isBreak ·) with
    | nil => exact .inl rfl
    | cons b more =>
      right
      have hb : isBreak b = true := by
        simpa using Text.stops_dropWhile (!isBreak ·) cs b (by rw [hmore]; rfl)
      exact ⟨b, more.takeWhile isBreak, more.dropWhile isBreak,
        by rw [List.takeWhile_append_dropWhile],
        List.forall_mem_cons.2 ⟨hb, Text.all_takeWhile _ _⟩, Text.stops_dropWhile _ _⟩

theorem closing_append (hne : more ≠ []) : closing (line ++ more) = closing more := by
  rw [closing, closing, List.getLast?_append_of_ne_nil _ hne]

theorem closing_line (hne : line ≠ []) (hline : ∀ ch ∈ line, isBreak ch = false) :
    closing line = ['\n'] := by
  have hlast : line.getLast?.any isBreak = false := by
    rw [List.getLast?_eq_some_getLast hne]
    exact hline _ (List.getLast_mem hne)
  rw [closing, hlast]
  rfl

theorem closing_breaks (hne : bs ≠ []) (hbs : ∀ x ∈ bs, isBreak x = true) : closing bs = [] := by
  have hlast : bs.getLast?.any isBreak = true := by
    rw [List.getLast?_eq_some_getLast hne]
    exact hbs _ (List.getLast_mem hne)
  rw [closing, if_pos hlast]

/-- Of the breaks after the last line all are kept. -/
theorem kept_breaks (hne : line ≠ []) (hline : ∀ ch ∈ line, isBreak ch = false) {blank : Bool}
    (hbs : ∀ x ∈ b :: bs, isBreak x = true) :
    BlockState.kept (chompOf (line ++ b :: bs)) ⟨[b], blank, bs⟩ = b :: bs := by
  obtain ⟨hb, hbs⟩ := List.forall_mem_cons.1 hbs
  by_cases hnil : bs = []
  · subst hnil
    rw [chompOf_line_break hne hline hb]
    rfl
  · have hsplit : line ++ b :: bs = (line ++ [b]) ++ bs := by simp
    rw [hsplit, chompOf_breaks hnil hbs (.inr (by simpa using hb))]
    rfl

/-- A string whose lines stand in a block is read back from its first line on. -/
def ReadsInBlock (context : Context) (indent n : Nat) (rest cs : List Char) : Prop :=
  ∀ (fuel : Nat) (s : BlockState) (c : Cursor), c.column = indent →
    c.rest = literalBody indent false cs ++ (closing cs ++ (List.replicate n ' ' ++ rest)) →
      c.rest.length < fuel →
        ∃ after, blockText context false indent (chompOf cs) fuel s c =
            .ok (s.ended ++ s.empty ++ cs, after) ∧
          after.rest = rest ∧ after.column = n

/-- The last line may have no break of its own. -/
theorem readsInBlock_line (context : Context) (hn : n < indent) (hrest : Stops isGapOrBreak rest)
    (hne : line ≠ []) (hline : ∀ x ∈ line, isBreak x = false) :
    ReadsInBlock context indent n rest line := by
  intro fuel s c hcolumn hc hfuel
  have hbody : literalBody indent false line = line := by
    rw [← List.append_nil line, literalBody_line hline, literalBody]
  rw [hbody, closing_line hne hline] at hc
  rw [hc, List.length_append] at hfuel
  obtain ⟨f, rfl⟩ : ∃ f, fuel = f + 2 := ⟨fuel - 2, by simp at hfuel; omega⟩
  have hend : c.rest = line ++ '\n' :: ([] ++ (List.replicate n ' ' ++ rest)) := hc
  obtain ⟨blank, after, hafter, hcolumn', hread⟩ := blockText_line context (f + 1) (chompOf line) s
    (Nat.zero_lt_of_lt hn) hcolumn hend hline (by simp) (LineAhead.of_stops hn.le hrest)
  refine ⟨after, ?_, hafter, hcolumn'⟩
  have hleft : after.column ≠ indent := by omega
  rw [hread, blockText_end hleft, chompOf_line hne hline]
  simp only [BlockState.kept, Except.map, List.append_nil]

/-- The last line may have breaks after it. -/
theorem readsInBlock_breaks (context : Context) (hn : n < indent)
    (hrest : Stops isGapOrBreak rest) (hne : line ≠ []) (hline : ∀ x ∈ line, isBreak x = false)
    (hbs : ∀ x ∈ b :: bs, isBreak x = true) (hlined : Lined (line ++ b :: bs)) :
    ReadsInBlock context indent n rest (line ++ b :: bs) := by
  intro fuel s c hcolumn hc hfuel
  obtain ⟨hb, hbs'⟩ := List.forall_mem_cons.1 hbs
  have hbody : literalBody indent true bs = bs := by
    rw [← List.append_nil bs, literalBody_breaks hbs', literalBody]
  rw [literalBody_line hline, literalBody_break hb, hbody, closing_append (List.cons_ne_nil _ _),
    closing_breaks (List.cons_ne_nil _ _) hbs, List.nil_append, List.append_assoc,
    List.cons_append] at hc
  rw [hc, List.length_append] at hfuel
  have hpos := List.length_pos_iff.2 hne
  obtain ⟨f, rfl⟩ : ∃ f, fuel = f + 2 := ⟨fuel - 2, by rw [List.length_cons] at hfuel; omega⟩
  obtain ⟨blank, after, hafter, hcolumn', hread⟩ := blockText_line context (f + 1)
    (chompOf (line ++ b :: bs)) s (Nat.zero_lt_of_lt hn) hcolumn hc hline
    (fun x hx => hlined.breaks x (List.mem_append_right _ hx) (hbs x hx))
    (LineAhead.of_stops hn.le hrest)
  refine ⟨after, ?_, hafter, hcolumn'⟩
  have hleft : after.column ≠ indent := by omega
  rw [hread, blockText_end hleft, kept_breaks hne hline hbs]
  simp only [Except.map, List.append_assoc]

/-- A line with its breaks comes in front of the lines after it. -/
theorem ReadsInBlock.cons {next : List Char} (hindent : 0 < indent) (hne : line ≠ [])
    (hline : ∀ x ∈ line, isBreak x = false) (hbs : ∀ x ∈ b :: bs, isBreak x = true)
    (hlined : Lined (line ++ b :: bs ++ next)) (hnext : next ≠ []) (hstops : Stops isBreak next)
    (h : ReadsInBlock context indent n rest next) :
    ReadsInBlock context indent n rest (line ++ b :: bs ++ next) := by
  intro fuel s c hcolumn hc hfuel
  obtain ⟨hb, hbs'⟩ := List.forall_mem_cons.1 hbs
  have hbody : literalBody indent false (line ++ b :: bs ++ next) =
      line ++ b :: (bs ++ (List.replicate indent ' ' ++ literalBody indent false next)) := by
    rw [List.append_assoc, literalBody_line hline, List.cons_append, literalBody_break hb,
      literalBody_breaks hbs', literalBody_true_of_stops hnext hstops]
  rw [hbody, closing_append hnext] at hc
  simp only [List.append_assoc, List.cons_append] at hc
  rw [hc, List.length_append] at hfuel
  have hpos := List.length_pos_iff.2 hne
  obtain ⟨f, rfl⟩ : ∃ f, fuel = f + 1 := ⟨fuel - 1, by omega⟩
  obtain ⟨blank, after, hafter, hcolumn', hread⟩ := blockText_line context f
    (chompOf (line ++ b :: bs ++ next)) s hindent hcolumn hc hline
    (fun x hx => hlined.breaks x (List.mem_append_left _ (List.mem_append_right _ hx)) (hbs x hx))
    (LineAhead.of_lined hlined.of_append hnext hstops _)
  obtain ⟨last, htext, hlast⟩ := h f ⟨[b], blank, bs⟩ after hcolumn' hafter (by
    rw [hafter]
    simp only [List.length_cons, List.length_append] at hfuel ⊢
    omega)
  refine ⟨last, ?_, hlast⟩
  rw [chompOf_append hnext hstops] at hread ⊢
  rw [hread, htext]
  simp only [Except.map, List.append_assoc, List.cons_append, List.nil_append]

/-- The lines of a string in a block are read as the string. -/
theorem readsInBlock_of_lined (context : Context) (hn : n < indent)
    (hrest : Stops isGapOrBreak rest) (hlined : Lined cs) (hne : cs ≠ [])
    (hstops : Stops isBreak cs) : ReadsInBlock context indent n rest cs := by
  induction hlength : cs.length using Nat.strong_induction_on generalizing cs with
  | h k ih =>
    obtain ⟨line, more, rfl, hlinene, hline, hmore⟩ := exists_line hne hstops
    rcases hmore with rfl | ⟨b, bs, next, rfl, hbs, hnext⟩
    · rw [List.append_nil]
      exact readsInBlock_line context hn hrest hlinene hline
    · by_cases hlast : next = []
      · subst hlast
        rw [List.append_nil] at hlined ⊢
        exact readsInBlock_breaks context hn hrest hlinene hline hbs hlined
      · have hsplit : line ++ b :: (bs ++ next) = line ++ b :: bs ++ next := by simp
        have hshort : next.length < k := by
          rw [← hlength, hsplit, List.length_append, List.length_append, List.length_cons]
          omega
        rw [hsplit] at hlined ⊢
        exact (ih _ hshort hlined.of_append hlast hnext rfl).cons (Nat.zero_lt_of_lt hn) hlinene
          hline hbs hlined hlast hnext

/-! ## The marks of a block -/

/-- How it is written what becomes of the breaks at the end. -/
def Chomp.mark : Chomp → List Char
  | .strip => ['-']
  | .clip => []
  | .keep => ['+']

theorem chompMark_eq (cs : List Char) : chompMark cs = (chompOf cs).mark := by
  rw [chompMark, chompOf]
  cases cs.reverse with
  | nil => rfl
  | cons x before =>
    cases hx : isBreak x with
    | false => simp [hx, Chomp.mark]
    | true =>
      cases before with
      | nil => simp [hx, Chomp.mark]
      | cons d before => cases hd : isBreak d <;> simp [hx, hd, Chomp.mark]

/-- Whether the indentation of a block cannot be told by its first line. -/
def isHinted (cs : List Char) : Bool := cs.head?.any fun x => x == ' ' || isBreak x

theorem literal_eq (indent : Nat) (cs : List Char) : literal indent cs =
    '|' :: ((if isHinted cs then ['2'] else []) ++
      ((chompOf cs).mark ++ '\n' :: literalBody indent true cs)) := by
  unfold literal isHinted
  rw [chompMark_eq]
  cases cs <;> simp

theorem blockMarks_literal (context : Context) {chomp : Chomp} {hinted : Bool}
    (hc : c.rest = (if hinted then ['2'] else []) ++ (chomp.mark ++ '\n' :: rest)) :
    ∃ after, blockMarks context c = .ok (chomp, if hinted then 2 else 0, after) ∧
      after.rest = '\n' :: rest := by
  obtain ⟨text, index, row, column⟩ := c
  obtain rfl : text = _ := hc
  cases hinted <;> cases chomp <;> exact ⟨_, rfl, rfl⟩

theorem endOfLine_newLine (context : Context) (hc : c.rest = '\n' :: rest) :
    c.endOfLine context = .ok c.nextLine := by
  have hskip : c.skipWhile isGap = c := by
    rw [Cursor.skipWhile_append (w := []) hc (by simp) (stops_cons.2 rfl), List.length_nil,
      Cursor.skip_zero]
  have hcomment : c.at? '#' = false := by simp [Cursor.at?, hc]
  rw [Cursor.endOfLine]
  simp only [hskip, hcomment, Bool.false_eq_true, if_false, hc]
  rfl

/-- After its marks, a block is read from the first of its lines on. -/
theorem exists_block_eq (parent : Nat) (hc : c.rest = literal indent cs ++ more) :
    ∃ context start, start.rest = literalBody indent true cs ++ more ∧ start.column = 0 ∧
      block false parent c =
        (blockBreaks context (if isHinted cs then parent + 2 else 0) (start.rest.length + 1) 0 []
          start).bind fun (widest, empty, c) =>
            blockText context false (if isHinted cs then parent + 2 else max widest (parent + 1))
              (chompOf cs) (c.rest.length + 1) ⟨[], false, empty⟩ c := by
  rw [literal_eq, List.cons_append] at hc
  have hmarks := Cursor.skip_rest_cons hc
  rw [List.append_assoc, List.append_assoc, List.cons_append] at hmarks
  obtain ⟨context, hcontext⟩ : ∃ context : Context,
      ⟨"while scanning a block scalar", c.mark⟩ = context := ⟨_, rfl⟩
  obtain ⟨c', hread, hc'⟩ := blockMarks_literal context hmarks
  obtain ⟨hbody, hstart⟩ := nextLine_of_lined (.inl rfl) hc'
  refine ⟨context, c'.nextLine, hbody, hstart, ?_⟩
  have hknown : ((parent : Int) ⊔ 0).toNat + 2 = parent + 2 := by omega
  have hleast : ((parent + 1 : Int) ⊔ 1).toNat = parent + 1 := by omega
  simp only [block, hcontext, hread, bind, Except.bind, endOfLine_newLine context hc']
  cases isHinted cs with
  | false =>
    simp only [Bool.false_eq_true, if_false, beq_self_eq_true, if_true, hleast]
  | true =>
    have htwo : ((2 : Nat) == 0) = false := rfl
    have hsome : (parent + 2 == 0) = false := rfl
    simp only [if_true, htwo, Bool.false_eq_true, if_false, hknown, hsome]

theorem stops_of_not_isHinted (hlined : Lined cs) (hhint : isHinted cs = false) :
    Stops isGapOrBreak cs := by
  intro x hx
  rw [isHinted, Option.mem_def.1 hx] at hhint
  simp only [Option.any_some, Bool.or_eq_false_iff, beq_eq_false_iff_ne] at hhint
  refine isGapOrBreak_eq_false_iff.2 ⟨hhint.1, ?_, hhint.2⟩
  rintro rfl
  exact hlined.tabless (List.mem_of_mem_head? hx)

section Literal

variable {parent : Nat} (hlined : Lined cs) (hne : cs ≠ []) (hn : n < parent + 2)
  (hrest : Stops isGapOrBreak rest)
  (hc : c.rest = literal (parent + 2) cs ++ (closing cs ++ (List.replicate n ' ' ++ rest)))

include hlined hne hn hrest hc

/-- A string whose first line tells the indentation is read back from its literal block. -/
theorem block_unhinted (hhint : isHinted cs = false) :
    ∃ after, block false parent c = .ok (cs, after) ∧ after.rest = rest ∧ after.column = n := by
  obtain ⟨context, start, hbody, hstart, hread⟩ := exists_block_eq parent hc
  have hstops := stops_of_not_isHinted hlined hhint
  have hline : Stops isBreak cs := fun x hx => (isGapOrBreak_eq_false_iff.1 (hstops x hx)).2.2
  rw [literalBody_true_of_stops hne hline, List.append_assoc] at hbody
  have hhead : Stops isGapOrBreak (literalBody (parent + 2) false cs ++
      (closing cs ++ (List.replicate n ' ' ++ rest))) := by
    intro x hx
    rw [head?_literalBody _ hne] at hx
    exact hstops x hx
  obtain ⟨first, hempty, hplace, hcolumn⟩ := blockBreaks_first context start.rest.length hstart
    hbody hhead
  have hwide : max (parent + 2) (parent + 1) = parent + 2 := by omega
  rw [hread, hhint]
  simp only [Bool.false_eq_true, if_false, hempty, Except.bind, hwide]
  exact readsInBlock_of_lined context hn hrest hlined hne hline _ _ _ hcolumn hplace
    (Nat.lt_succ_self _)

/-- A string that begins with a space or a break is read back from its literal block. -/
theorem block_hinted (hhint : isHinted cs = true) :
    ∃ after, block false parent c = .ok (cs, after) ∧ after.rest = rest ∧ after.column = n := by
  obtain ⟨context, start, hbody, hstart, hread⟩ := exists_block_eq parent hc
  rw [hhint] at hread
  simp only [if_true] at hread
  obtain ⟨bs, next, rfl, hbs, hnext⟩ : ∃ bs next, cs = bs ++ next ∧
      (∀ x ∈ bs, isBreak x = true) ∧ Stops isBreak next :=
    ⟨cs.takeWhile isBreak, cs.dropWhile isBreak, List.takeWhile_append_dropWhile.symm,
      Text.all_takeWhile _ _, Text.stops_dropWhile _ _⟩
  have hbs' : ∀ x ∈ bs, x = '\n' ∨ isSeparator x = true := fun x hx =>
    hlined.breaks x (List.mem_append_left _ hx) (hbs x hx)
  rw [literalBody_breaks hbs, List.append_assoc] at hbody
  by_cases hlast : next = []
  · -- the string has no character but breaks
    subst hlast
    rw [List.append_nil] at hne hbody hread ⊢
    rw [closing_breaks hne hbs] at hbody
    obtain ⟨widest, after, hempty, hafter, hcolumn⟩ := blockBreaks_of_lined context
      (Nat.succ_pos _) (LineAhead.of_stops hn.le hrest) hbs' _ 0 [] start hstart hbody
      (Nat.lt_succ_self _)
    have hkeep := chompOf_breaks hne hbs (.inl rfl)
    rw [List.nil_append] at hkeep
    have hleft : after.column ≠ parent + 2 := by omega
    refine ⟨after, ?_, hafter, hcolumn⟩
    rw [hread, hempty]
    simp only [Except.bind, blockText_end hleft, hkeep]
    rfl
  · rw [closing_append hlast, literalBody_true_of_stops hlast hnext, List.append_assoc] at hbody
    obtain ⟨widest, first, hempty, hplace, hcolumn⟩ := blockBreaks_of_lined context
      (Nat.succ_pos _) (LineAhead.of_lined hlined.of_append hlast hnext _) hbs' _ 0 [] start hstart
      hbody (Nat.lt_succ_self _)
    rw [hread, hempty, chompOf_append hlast hnext]
    exact readsInBlock_of_lined context hn hrest hlined.of_append hlast hnext _ _ _ hcolumn hplace
      (Nat.lt_succ_self _)

/-- A string is read back from its literal block, up to a line in a column to the left. -/
theorem block_literal :
    ∃ after, block false parent c = .ok (cs, after) ∧ after.rest = rest ∧ after.column = n := by
  cases hhint : isHinted cs with
  | false => exact block_unhinted hlined hne hn hrest hc hhint
  | true => exact block_hinted hlined hne hn hrest hc hhint

end Literal

end Cadastre.Yaml
