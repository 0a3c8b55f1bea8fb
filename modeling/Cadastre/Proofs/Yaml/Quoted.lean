import Cadastre.Proofs.Yaml.Cursor
import Cadastre.Yaml.Scalar
import Mathlib.Logic.Function.Iterate

/-!
# Reading between quotes

A text between quotes spells a value character by character: a character stands for itself, an
escape for the character it names, a space for itself where no break follows, and a separator of
lines or paragraphs for itself, whatever spaces come after it. The main statement is that a text is
read as the value it spells.
-/

namespace Cadastre.Yaml

open Text (Mark Stops stops_cons)

variable {quote ch : Char} {e t v rest : List Char} {c : Cursor} {fuel : Nat}

/-- A separator of lines or paragraphs; of the breaks, these stand for themselves. -/
def isSeparator (ch : Char) : Bool := ch == '\u2028' || ch == '\u2029'

theorem isBreak_of_isSeparator (h : isSeparator ch = true) : isBreak ch = true := by
  simp only [isSeparator, Bool.or_eq_true, beq_iff_eq] at h
  rcases h with rfl | rfl <;> rfl

theorem breakText_separator (h : isSeparator ch = true) (cs : List Char) :
    breakText (ch :: cs) = [ch] := by
  rw [isSeparator] at h
  rw [breakText, if_pos h]

theorem nextLine_separator (h : isSeparator ch = true) (hc : c.rest = ch :: rest) :
    c.nextLine = ⟨rest, c.index + ch.utf8Size, c.line + 1, 0⟩ := by
  refine Cursor.nextLine_cons hc (isBreak_of_isSeparator h) ?_
  rintro rfl
  exact absurd h (by decide)

/-! ## Gaps -/

section Gaps

variable {context : Context} {limit : Int}

/-- A run of spaces is a gap without a break. -/
theorem gap_spaces (n : Nat) : ∀ {before : List Char} {c : Cursor} {fuel : Nat},
    c.rest = List.replicate n ' ' ++ rest → Stops isGapOrBreak rest → n < fuel →
      gap context limit fuel before none [] c =
        .ok ⟨before ++ List.replicate n ' ', none, [], c.skip n⟩ := by
  induction n with
  | zero =>
    intro before c fuel hc hrest hfuel
    obtain ⟨f, rfl⟩ : ∃ f, fuel = f + 1 := ⟨fuel - 1, by omega⟩
    rw [List.replicate_zero, List.nil_append] at hc
    rw [gap, hc, Cursor.skip_zero, List.replicate_zero, List.append_nil]
    cases rest with
    | nil => rfl
    | cons ch rest =>
      have hch := stops_cons.1 hrest
      simp only [isGapOrBreak, Bool.or_eq_false_iff] at hch
      simp [hch.1, hch.2]
  | succ n ih =>
    intro before c fuel hc hrest hfuel
    obtain ⟨f, rfl⟩ : ∃ f, fuel = f + 1 := ⟨fuel - 1, by omega⟩
    rw [List.replicate_succ, List.cons_append] at hc
    rw [gap, hc]
    simp only [show isGap ' ' = true from rfl, if_true, Option.isSome_none, Bool.false_eq_true,
      if_false]
    rw [ih (Cursor.skip_rest_cons hc) hrest (by omega), Cursor.skip_skip, List.append_assoc,
      List.singleton_append, ← List.replicate_succ, Nat.add_comm 1 n]

/-- Spaces after a break do not count. -/
theorem gap_indentation (n : Nat) {first further : List Char} :
    ∀ {c : Cursor} {fuel : Nat}, c.rest = List.replicate n ' ' ++ rest →
      Stops isGapOrBreak rest → n < fuel →
        gap context limit fuel [] (some first) further c =
          .ok ⟨[], some first, further, c.skip n⟩ := by
  induction n with
  | zero =>
    intro c fuel hc hrest hfuel
    obtain ⟨f, rfl⟩ : ∃ f, fuel = f + 1 := ⟨fuel - 1, by omega⟩
    rw [List.replicate_zero, List.nil_append] at hc
    rw [gap, hc, Cursor.skip_zero]
    cases rest with
    | nil => rfl
    | cons ch rest =>
      have hch := stops_cons.1 hrest
      simp only [isGapOrBreak, Bool.or_eq_false_iff] at hch
      simp [hch.1, hch.2]
  | succ n ih =>
    intro c fuel hc hrest hfuel
    obtain ⟨f, rfl⟩ : ∃ f, fuel = f + 1 := ⟨fuel - 1, by omega⟩
    rw [List.replicate_succ, List.cons_append] at hc
    rw [gap, hc]
    simp only [show isGap ' ' = true from rfl, if_true, Option.isSome_some,
      show (' ' == '\t') = false from rfl, Bool.false_and, Bool.false_eq_true, if_false]
    rw [ih (Cursor.skip_rest_cons hc) hrest (by omega), Cursor.skip_skip,
      Nat.add_comm 1 n]

/-- Separators after a break all stand for themselves, and the spaces after them do not count. -/
theorem gap_separators (n : Nat) {first : List Char} (bs : List Char) :
    ∀ {further : List Char} {c : Cursor} {fuel : Nat},
      c.rest = bs ++ (List.replicate n ' ' ++ rest) → (∀ b ∈ bs, isSeparator b = true) →
        Stops isGapOrBreak rest → bs.length + n < fuel →
          gap context limit fuel [] (some first) further c =
            .ok ⟨[], some first, further ++ bs, (Cursor.nextLine^[bs.length] c).skip n⟩ := by
  induction bs with
  | nil =>
    intro further c fuel hc _ hrest hfuel
    rw [gap_indentation n hc hrest (by simpa using hfuel), List.append_nil]
    rfl
  | cons b bs ih =>
    intro further c fuel hc hbs hrest hfuel
    obtain ⟨f, rfl⟩ : ∃ f, fuel = f + 1 := ⟨fuel - 1, by omega⟩
    obtain ⟨hb, hbs⟩ := List.forall_mem_cons.1 hbs
    rw [List.length_cons] at hfuel
    rw [List.cons_append] at hc
    have hnext : c.nextLine.rest = bs ++ (List.replicate n ' ' ++ rest) := by
      rw [nextLine_separator hb hc]
    have hbreak := isBreak_of_isSeparator hb
    rw [gap, hc]
    simp only [isGap_of_isBreak hbreak, hbreak, Bool.false_eq_true, if_false, if_true,
      Option.isSome_some, breakText_separator hb]
    rw [ih hnext hbs hrest (by omega), List.append_assoc, List.singleton_append]
    rfl

/-- A run of separators with spaces after it is a gap of its separators. -/
theorem gapAt_separators {n : Nat} {b : Char} {bs : List Char}
    (hc : c.rest = b :: bs ++ (List.replicate n ' ' ++ rest))
    (hbs : ∀ x ∈ b :: bs, isSeparator x = true) (hrest : Stops isGapOrBreak rest) :
    gapAt context limit none c =
      .ok ⟨[], some [b], bs, (Cursor.nextLine^[bs.length] c.nextLine).skip n⟩ := by
  obtain ⟨hb, hbs⟩ := List.forall_mem_cons.1 hbs
  have hbreak := isBreak_of_isSeparator hb
  have hnext : c.nextLine.rest = bs ++ (List.replicate n ' ' ++ rest) := by
    rw [nextLine_separator hb hc]
    rfl
  rw [gapAt, gap, hc]
  simp only [List.cons_append, isGap_of_isBreak hbreak, hbreak, Bool.false_eq_true, if_false,
    if_true, Option.isSome_none, breakText_separator hb]
  rw [gap_separators n bs hnext hbs hrest (by
    rw [List.length_cons, List.length_append, List.length_append, List.length_replicate]
    omega), List.nil_append]

/-- Separators stand for themselves. -/
theorem Gap.text_separators {b : Char} (hb : isSeparator b = true) (bs : List Char)
    (after : Cursor) : Gap.text ⟨[], some [b], bs, after⟩ = b :: bs := by
  have hne : ([b] == ['\n']) = false := by
    rw [beq_eq_false_iff_ne]
    rintro h
    obtain rfl : b = '\n' := by simpa using h
    exact absurd hb (by decide)
  simp only [Gap.text, hne, Bool.false_eq_true, if_false, List.singleton_append]

theorem gapAt_spaces {n : Nat} (hc : c.rest = List.replicate n ' ' ++ rest)
    (hrest : Stops isGapOrBreak rest) :
    gapAt context limit none c = .ok ⟨List.replicate n ' ', none, [], c.skip n⟩ := by
  have hlength : n < c.rest.length + 1 := by
    rw [hc, List.length_append, List.length_replicate]
    omega
  rw [gapAt, gap_spaces n hc hrest hlength, List.nil_append]

end Gaps

/-! ## Spelling -/

/-- What follows a backslash names a character. -/
structure Escapes (e : List Char) (ch : Char) : Prop where
  /-- The line goes on after the backslash. -/
  head : ∃ x ∈ e.head?, isBreak x = false
  /-- The escape is read as the character. -/
  read : ∀ (context : Context) (c : Cursor) (rest : List Char), c.rest = '\\' :: (e ++ rest) →
    escape context c = .ok (ch, c.skip (e.length + 1))

/-- A text before a closing quote spells a value. -/
inductive Spells (quote : Char) : List Char → List Char → Prop
  | nil : Spells quote [] []
  | char {ch : Char} {t v : List Char} (hgap : isGapOrBreak ch = false) (hquote : ch ≠ quote)
      (hescape : quote = '"' → ch ≠ '\\') (h : Spells quote t v) : Spells quote (ch :: t) (ch :: v)
  | twice {t v : List Char} (hquote : quote = '\'') (h : Spells quote t v) :
      Spells quote ('\'' :: '\'' :: t) ('\'' :: v)
  | escape {ch : Char} {e t v : List Char} (hquote : quote = '"') (he : Escapes e ch)
      (h : Spells quote t v) : Spells quote ('\\' :: (e ++ t)) (ch :: v)
  | space {t v : List Char} (hnext : ∀ ch ∈ t.head?, isBreak ch = false) (h : Spells quote t v) :
      Spells quote (' ' :: t) (' ' :: v)
  /-- One of several breaks. -/
  | separator {ch : Char} {t v : List Char} (hch : isSeparator ch = true)
      (hnext : ∃ b ∈ t.head?, isBreak b = true) (h : Spells quote t v) :
      Spells quote (ch :: t) (ch :: v)
  /-- The last break before a line, with the spaces in front of the line. -/
  | lineEnd {ch : Char} {t v : List Char} {n : Nat} (hch : isSeparator ch = true)
      (hnext : ∀ b ∈ t.head?, isGapOrBreak b = false)
      (hborder : n = 0 → ∀ rest, startsBorder (t ++ quote :: rest) = false)
      (h : Spells quote t v) : Spells quote (ch :: (List.replicate n ' ' ++ t)) (ch :: v)

section Runs

variable (hquote : isGapOrBreak quote = false)

include hquote

/-- Where no break comes first, a run of spaces comes before something else. -/
theorem Spells.exists_spaces (h : Spells quote t v) (hhead : ∀ b ∈ t.head?, isBreak b = false)
    (rest : List Char) :
    ∃ n r, t ++ quote :: rest = List.replicate n ' ' ++ r ∧ Stops isGapOrBreak r := by
  induction h with
  | nil => exact ⟨0, _, rfl, stops_cons.2 hquote⟩
  | char hgap _ _ _ _ => exact ⟨0, _, rfl, stops_cons.2 hgap⟩
  | twice _ _ _ => exact ⟨0, _, rfl, stops_cons.2 rfl⟩
  | escape _ _ _ _ => exact ⟨0, _, rfl, stops_cons.2 rfl⟩
  | space hnext _ ih =>
    obtain ⟨n, r, heq, hr⟩ := ih hnext
    exact ⟨n + 1, r, by rw [List.cons_append, heq, List.replicate_succ, List.cons_append], hr⟩
  | separator hch _ _ _ =>
    have hbreak := isBreak_of_isSeparator hch
    rw [hhead _ rfl] at hbreak
    cases hbreak
  | lineEnd hch _ _ _ _ =>
    have hbreak := isBreak_of_isSeparator hch
    rw [hhead _ rfl] at hbreak
    cases hbreak

/-- Where a break comes first, a run of separators and spaces comes before something else. -/
theorem Spells.exists_separators (h : Spells quote t v) (hhead : ∃ b ∈ t.head?, isBreak b = true)
    (rest : List Char) :
    ∃ b bs n r, t ++ quote :: rest = b :: bs ++ (List.replicate n ' ' ++ r) ∧
      (∀ x ∈ b :: bs, isSeparator x = true) ∧ Stops isGapOrBreak r := by
  obtain ⟨b, hb, hbreak⟩ := hhead
  induction h generalizing b with
  | nil => cases hb
  | char hgap _ _ _ _ =>
    obtain rfl := Option.some.inj hb
    rw [isGapOrBreak_eq_false_iff] at hgap
    rw [hgap.2.2] at hbreak
    cases hbreak
  | twice _ _ _ =>
    obtain rfl := Option.some.inj hb
    exact absurd hbreak (by decide)
  | escape _ _ _ _ =>
    obtain rfl := Option.some.inj hb
    exact absurd hbreak (by decide)
  | space _ _ _ =>
    obtain rfl := Option.some.inj hb
    exact absurd hbreak (by decide)
  | separator hch hnext _ ih =>
    obtain ⟨x, hx, hxbreak⟩ := hnext
    obtain ⟨y, bs, n, r, heq, hbs, hr⟩ := ih x hx hxbreak
    exact ⟨_, y :: bs, n, r, by rw [List.cons_append, heq]; rfl,
      List.forall_mem_cons.2 ⟨hch, hbs⟩, hr⟩
  | @lineEnd ch t v n hch hnext _ _ _ =>
    refine ⟨ch, [], n, t ++ quote :: rest, by simp, by simpa using hch, ?_⟩
    cases t with
    | nil => exact stops_cons.2 hquote
    | cons x t => exact stops_cons.2 (hnext x rfl)

end Runs

/-! ## Reading -/

section Reading

variable {start : Mark}

/-- No border of a document stands at a place. -/
def OffBorder (c : Cursor) : Prop := c.column = 0 → startsBorder c.rest = false

theorem OffBorder.eq_false (h : OffBorder c) : (c.column == 0 && startsBorder c.rest) = false := by
  rw [Bool.and_eq_false_imp]
  exact fun hcolumn => h (by simpa using hcolumn)

theorem offBorder_skip {n : Nat} (h : n ≠ 0) : OffBorder (c.skip n) := by
  intro hcolumn
  rw [Cursor.skip_column] at hcolumn
  omega

theorem startsBorder_eq_false (hdash : ch ≠ '-') (hdot : ch ≠ '.') (cs : List Char) :
    startsBorder (ch :: cs) = false := by
  unfold startsBorder
  split
  · next h => exact absurd (List.cons.inj h).1 hdash
  · next h => exact absurd (List.cons.inj h).1 hdot
  · rfl

theorem startsBorder_of_isGapOrBreak (h : isGapOrBreak ch = true) (cs : List Char) :
    startsBorder (ch :: cs) = false := by
  refine startsBorder_eq_false ?_ ?_ cs
  · rintro rfl
    exact absurd h (by decide)
  · rintro rfl
    exact absurd h (by decide)

theorem quotedText_close (hborder : OffBorder c) (hc : c.rest = quote :: rest)
    (hrest : quote = '\'' → rest.head? ≠ some '\'') :
    quotedText start quote (fuel + 1) c = .ok ([], c.skip 1) := by
  have htwice : (quote == '\'' && rest.head? == some '\'') = false := by
    rw [Bool.and_eq_false_imp]
    intro hq
    exact beq_eq_false_iff_ne.2 (hrest (by simpa using hq))
  rw [quotedText, hborder.eq_false, hc]
  simp only [Bool.false_eq_true, if_false, beq_self_eq_true, if_true, htwice]

theorem quotedText_twice (hborder : OffBorder c) (hc : c.rest = '\'' :: '\'' :: rest) :
    quotedText start '\'' (fuel + 1) c =
      (quotedText start '\'' fuel (c.skip 2)).map fun (t, c) => ('\'' :: t, c) := by
  rw [quotedText, hborder.eq_false, hc]
  rfl

theorem quotedText_char (hborder : OffBorder c) (hc : c.rest = ch :: rest)
    (hgap : isGapOrBreak ch = false) (hquote : ch ≠ quote) (hescape : quote = '"' → ch ≠ '\\') :
    quotedText start quote (fuel + 1) c =
      (quotedText start quote fuel (c.skip 1)).map fun (t, c) => (ch :: t, c) := by
  have hnone : (quote == '"' && ch == '\\') = false := by
    rw [Bool.and_eq_false_imp]
    intro hq
    exact beq_eq_false_iff_ne.2 (hescape (by simpa using hq))
  rw [quotedText, hborder.eq_false, hc]
  simp only [Bool.false_eq_true, if_false, beq_eq_false_iff_ne.2 hquote, hgap, hnone]

theorem quotedText_escape (hborder : OffBorder c) (he : Escapes e ch)
    (hc : c.rest = '\\' :: (e ++ rest)) :
    quotedText start '"' (fuel + 1) c =
      (quotedText start '"' fuel (c.skip (e.length + 1))).map fun (t, c) => (ch :: t, c) := by
  obtain ⟨x, hx, hbreak⟩ := he.head
  have hhead : (e ++ rest).head?.any isBreak = false := by
    rw [List.head?_append, hx]
    exact hbreak
  rw [quotedText, hborder.eq_false]
  simp only [Bool.false_eq_true, if_false]
  rw [hc]
  simp only [show ('\\' == '"') = false from rfl, Bool.false_eq_true, if_false,
    show isGapOrBreak '\\' = false from rfl, beq_self_eq_true, Bool.and_self, if_true, hhead,
    he.read _ c rest hc]
  rfl

theorem quotedText_gap {g : Gap} (hborder : OffBorder c) (hc : c.rest = ch :: rest)
    (hgap : isGapOrBreak ch = true) (hquote : isGapOrBreak quote = false)
    (hg : ∀ context, gapAt context 0 none c = .ok g) :
    quotedText start quote (fuel + 1) c =
      (quotedText start quote fuel g.after).map fun (t, c) => (g.text ++ t, c) := by
  have hne : (ch == quote) = false := by
    rw [beq_eq_false_iff_ne]
    rintro rfl
    rw [hgap] at hquote
    cases hquote
  rw [quotedText, hborder.eq_false, hc]
  simp only [Bool.false_eq_true, if_false, hne, hgap, if_true, hg]
  rfl

/-- Of two places in one gap, the first one is read as the second with a character before it. -/
theorem quotedText_gap_cons {d : Cursor} {x y : Char} {more : List Char} {g h : Gap}
    (hquote : isGapOrBreak quote = false) (hborder : OffBorder c) (hc : c.rest = x :: rest)
    (hx : isGapOrBreak x = true) (hg : ∀ context, gapAt context 0 none c = .ok g)
    (hborder' : OffBorder d) (hd : d.rest = y :: more) (hy : isGapOrBreak y = true)
    (hh : ∀ context, gapAt context 0 none d = .ok h) (hafter : g.after = h.after)
    (htext : g.text = ch :: h.text) :
    quotedText start quote (fuel + 1) c =
      (quotedText start quote (fuel + 1) d).map fun (t, c) => (ch :: t, c) := by
  rw [quotedText_gap hborder hc hx hquote hg, quotedText_gap hborder' hd hy hquote hh, hafter,
    htext]
  cases quotedText start quote fuel h.after <;> rfl

/-- A text before a closing quote is read from a place on as a value, if the fuel suffices. -/
def ReadsTo (start : Mark) (quote : Char) (rest t v : List Char) (c : Cursor) : Prop :=
  ∀ fuel, (t ++ quote :: rest).length < fuel →
    ∃ after, quotedText start quote fuel c = .ok (v, after) ∧ after.rest = rest ∧
      ((∀ ch ∈ t, isBreak ch = false) → after = c.skip (t.length + 1))

theorem readsTo_nil (hborder : OffBorder c) (hc : c.rest = quote :: rest)
    (hrest : quote = '\'' → rest.head? ≠ some '\'') : ReadsTo start quote rest [] [] c := by
  intro fuel hfuel
  obtain ⟨f, rfl⟩ : ∃ f, fuel = f + 1 := ⟨fuel - 1, by omega⟩
  exact ⟨_, quotedText_close hborder hc hrest, Cursor.skip_rest_cons hc, fun _ => rfl⟩

/-- What is read as one character comes in front of what is read after it. The fuel left may be more
than one less: the rest of a gap is read together with its front. -/
theorem ReadsTo.cons {w : List Char} {d : Cursor} (hw : w ≠ [])
    (hd : (∀ x ∈ w, isBreak x = false) → d = c.skip w.length)
    (hstep : ∀ f, ∃ f' ≥ f, quotedText start quote (f + 1) c =
      (quotedText start quote f' d).map fun (t, c) => (ch :: t, c))
    (h : ReadsTo start quote rest t v d) : ReadsTo start quote rest (w ++ t) (ch :: v) c := by
  intro fuel hfuel
  have hlength := List.length_pos_iff.2 hw
  rw [List.append_assoc, List.length_append] at hfuel
  obtain ⟨f, rfl⟩ : ∃ f, fuel = f + 1 := ⟨fuel - 1, by omega⟩
  obtain ⟨f', hf', hread⟩ := hstep f
  obtain ⟨after, hafter, hplace, hline⟩ := h f' (by omega)
  refine ⟨after, ?_, hplace, fun hbreaks => ?_⟩
  · rw [hread, hafter]
    rfl
  · rw [hline fun x hx => hbreaks x (List.mem_append_right _ hx),
      hd fun x hx => hbreaks x (List.mem_append_left _ hx), Cursor.skip_skip, List.length_append,
      Nat.add_assoc]

/-- A space is read with the spaces after it. -/
theorem ReadsTo.space {n : Nat} {r : List Char} (hquote : isGapOrBreak quote = false)
    (hborder : OffBorder c) (hc : c.rest = ' ' :: (t ++ quote :: rest))
    (hrun : t ++ quote :: rest = List.replicate n ' ' ++ r) (hr : Stops isGapOrBreak r)
    (h : ReadsTo start quote rest t v (c.skip 1)) :
    ReadsTo start quote rest (' ' :: t) (' ' :: v) c := by
  have hnext := Cursor.skip_rest_cons hc
  have hspaces : c.rest = List.replicate (n + 1) ' ' ++ r := by
    rw [hc, hrun, List.replicate_succ, List.cons_append]
  have hgap : ∀ context, gapAt context 0 none c =
      .ok ⟨List.replicate (n + 1) ' ', none, [], c.skip (n + 1)⟩ :=
    fun _ => gapAt_spaces hspaces hr
  refine h.cons (w := [' ']) (List.cons_ne_nil _ _) (fun _ => rfl) fun f => ?_
  cases n with
  | zero => exact ⟨f, Nat.le_refl _, quotedText_gap hborder hc rfl hquote hgap⟩
  | succ n =>
    have hmore : (c.skip 1).rest = ' ' :: (List.replicate n ' ' ++ r) := by
      rw [hnext, hrun, List.replicate_succ, List.cons_append]
    have hskip : c.skip (n + 1 + 1) = (c.skip 1).skip (n + 1) := by
      rw [Cursor.skip_skip, Nat.add_comm 1]
    exact ⟨f + 1, Nat.le_succ f, quotedText_gap_cons hquote hborder hc rfl hgap
      (offBorder_skip Nat.one_ne_zero) hmore rfl (fun _ => gapAt_spaces (hnext.trans hrun) hr)
      hskip rfl⟩

/-- A separator is read with the separators and spaces after it. -/
theorem ReadsTo.separator {b : Char} {bs r : List Char} {n : Nat}
    (hquote : isGapOrBreak quote = false) (hborder : OffBorder c)
    (hc : c.rest = ch :: (t ++ quote :: rest))
    (hrun : t ++ quote :: rest = b :: bs ++ (List.replicate n ' ' ++ r))
    (hbs : ∀ x ∈ ch :: b :: bs, isSeparator x = true) (hr : Stops isGapOrBreak r)
    (hborder' : OffBorder c.nextLine) (h : ReadsTo start quote rest t v c.nextLine) :
    ReadsTo start quote rest (ch :: t) (ch :: v) c := by
  obtain ⟨hch, hbs'⟩ := List.forall_mem_cons.1 hbs
  have hb := hbs' b List.mem_cons_self
  have hgapch := isGapOrBreak_of_isBreak (isBreak_of_isSeparator hch)
  have hgapb := isGapOrBreak_of_isBreak (isBreak_of_isSeparator hb)
  have hnext : c.nextLine.rest = b :: bs ++ (List.replicate n ' ' ++ r) := by
    rw [nextLine_separator hch hc, hrun]
  have hspaces : c.rest = ch :: (b :: bs) ++ (List.replicate n ' ' ++ r) := by
    rw [hc, hrun]
    rfl
  refine h.cons (w := [ch]) (List.cons_ne_nil _ _) (fun hbreaks => ?_) fun f =>
    ⟨f + 1, Nat.le_succ f, quotedText_gap_cons hquote hborder hc hgapch
      (fun _ => gapAt_separators hspaces hbs hr) hborder' hnext hgapb
      (fun _ => gapAt_separators hnext hbs' hr) rfl ?_⟩
  · exact absurd (hbreaks ch List.mem_cons_self) (by simp [isBreak_of_isSeparator hch])
  · rw [Gap.text_separators hch, Gap.text_separators hb]

/-- The last separator is read with the spaces in front of the next line. -/
theorem ReadsTo.lineEnd {n : Nat} (hquote : isGapOrBreak quote = false) (hborder : OffBorder c)
    (hch : isSeparator ch = true)
    (hc : c.rest = ch :: (List.replicate n ' ' ++ (t ++ quote :: rest)))
    (hstops : Stops isGapOrBreak (t ++ quote :: rest))
    (h : ReadsTo start quote rest t v (c.nextLine.skip n)) :
    ReadsTo start quote rest (ch :: (List.replicate n ' ' ++ t)) (ch :: v) c := by
  have hgapch := isGapOrBreak_of_isBreak (isBreak_of_isSeparator hch)
  have hsingle : c.rest = [ch] ++ (List.replicate n ' ' ++ (t ++ quote :: rest)) := hc
  have hgap : ∀ context, gapAt context 0 none c = .ok ⟨[], some [ch], [], c.nextLine.skip n⟩ :=
    fun _ => gapAt_separators hsingle (by simpa using hch) hstops
  refine h.cons (w := ch :: List.replicate n ' ') (List.cons_ne_nil _ _) (fun hbreaks => ?_)
    fun f => ⟨f, Nat.le_refl _, ?_⟩
  · exact absurd (hbreaks ch List.mem_cons_self) (by simp [isBreak_of_isSeparator hch])
  · rw [quotedText_gap hborder hc hgapch hquote hgap, Gap.text_separators hch]
    rfl

/-- A text is read as the value it spells, up to the closing quote. -/
theorem readsTo_of_spells (start : Mark) (hquote : isGapOrBreak quote = false)
    (h : Spells quote t v) (hrest : quote = '\'' → rest.head? ≠ some '\'') :
    ∀ c : Cursor, OffBorder c → c.rest = t ++ quote :: rest →
      ReadsTo start quote rest t v c := by
  induction h with
  | nil => exact fun c hborder hc => readsTo_nil hborder hc hrest
  | @char ch t v hgap hne hescape _ ih =>
    intro c hborder hc
    exact (ih _ (offBorder_skip Nat.one_ne_zero) (Cursor.skip_rest_cons hc)).cons (w := [ch])
      (List.cons_ne_nil _ _) (fun _ => rfl)
      fun f => ⟨f, Nat.le_refl _, quotedText_char hborder hc hgap hne hescape⟩
  | @twice t v hq _ ih =>
    subst hq
    intro c hborder hc
    exact (ih _ (offBorder_skip (Nat.succ_ne_zero 1))
      (Cursor.skip_rest_append (w := ['\'', '\'']) hc)).cons (w := ['\'', '\''])
      (List.cons_ne_nil _ _) (fun _ => rfl) fun f => ⟨f, Nat.le_refl _, quotedText_twice hborder hc⟩
  | @escape ch e t v hq he _ ih =>
    subst hq
    intro c hborder hc
    rw [List.cons_append, List.append_assoc] at hc
    exact (ih _ (offBorder_skip (Nat.succ_ne_zero _))
      (Cursor.skip_rest_append (w := '\\' :: e) hc)).cons (w := '\\' :: e)
      (List.cons_ne_nil _ _) (fun _ => rfl)
      fun f => ⟨f, Nat.le_refl _, quotedText_escape hborder he hc⟩
  | @space t v hnext h ih =>
    intro c hborder hc
    obtain ⟨n, r, hrun, hr⟩ := h.exists_spaces hquote hnext rest
    exact (ih _ (offBorder_skip Nat.one_ne_zero) (Cursor.skip_rest_cons hc)).space hquote hborder
      hc hrun hr
  | @separator ch t v hch hnext h ih =>
    intro c hborder hc
    obtain ⟨b, bs, n, r, hrun, hbs, hr⟩ := h.exists_separators hquote hnext rest
    have hline : c.nextLine.rest = t ++ quote :: rest := by
      rw [nextLine_separator hch hc]
      rfl
    have hgap := isGapOrBreak_of_isBreak (isBreak_of_isSeparator (hbs b List.mem_cons_self))
    have hborder' : OffBorder c.nextLine := by
      intro _
      rw [hline, hrun]
      exact startsBorder_of_isGapOrBreak hgap _
    exact (ih _ hborder' hline).separator hquote hborder hc hrun
      (List.forall_mem_cons.2 ⟨hch, hbs⟩) hr hborder'
  | @lineEnd ch t v n hch hnext hborder' h ih =>
    intro c hborder hc
    rw [List.cons_append, List.append_assoc] at hc
    have hline : c.nextLine.rest = List.replicate n ' ' ++ (t ++ quote :: rest) := by
      rw [nextLine_separator hch hc]
    have hplace : (c.nextLine.skip n).rest = t ++ quote :: rest := by
      simpa using Cursor.skip_rest_append (w := List.replicate n ' ') hline
    have hstops : Stops isGapOrBreak (t ++ quote :: rest) := by
      cases t with
      | nil => exact stops_cons.2 hquote
      | cons x t => exact stops_cons.2 (hnext x rfl)
    have hstart : OffBorder (c.nextLine.skip n) := by
      cases n with
      | zero =>
        intro _
        rw [hplace]
        exact hborder' rfl rest
      | succ n => exact offBorder_skip (Nat.succ_ne_zero n)
    exact (ih _ hstart hplace).lineEnd hquote hborder hch hc hstops

/-- A scalar between quotes is read as the value it spells. -/
theorem quoted_of_spells (hquote : isGapOrBreak quote = false) (h : Spells quote t v)
    (hc : c.rest = quote :: (t ++ quote :: rest))
    (hrest : quote = '\'' → rest.head? ≠ some '\'') :
    ∃ after, quoted quote c = .ok (v, after) ∧ after.rest = rest ∧
      ((∀ ch ∈ t, isBreak ch = false) → after = c.skip (t.length + 2)) := by
  have hnext := Cursor.skip_rest_cons hc
  obtain ⟨after, hread, hafter, hline⟩ := readsTo_of_spells c.mark hquote h hrest (c.skip 1)
    (offBorder_skip Nat.one_ne_zero) hnext (c.rest.length + 1) (by rw [hc, List.length_cons]; omega)
  refine ⟨after, hread, hafter, fun hbreaks => ?_⟩
  rw [hline hbreaks, Cursor.skip_skip, Nat.add_comm 1]

end Reading

end Cadastre.Yaml
