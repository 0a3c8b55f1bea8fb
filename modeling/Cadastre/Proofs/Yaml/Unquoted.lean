import Cadastre.Proofs.Yaml.Quoted
import Cadastre.Proofs.Yaml.Spelling

/-!
# Reading without quotes

A scalar without quotes is read word by word. Outside brackets a text whose characters make no mark
is read whole, up to the break after it; a word of letters and digits is read up to a colon, a comma
or the end of its line.
-/

namespace Cadastre.Yaml

open Text (Stops stops_cons)

variable {ch : Char} {cs w rest tail : List Char} {c : Cursor} {context : Context}

/-! ## Words -/

/-- No mark ends a word where it stands. -/
def Solid (flow : Bool) (tail : List Char) : List Char → Prop
  | [] => True
  | ch :: w =>
    isGapOrBreak ch = false ∧ (ch = ':' → flow = false ∧ atGapOrEnd (w ++ tail) = false) ∧
      (flow = true → isFlowMark ch = false) ∧ Solid flow tail w

/-- A solid word is read up to where no word goes on. -/
theorem plainWord_of_solid {flow : Bool} (htail : plainWord flow tail = ([], false))
    (hw : Solid flow tail w) : plainWord flow (w ++ tail) = (w, false) := by
  induction w with
  | nil => exact htail
  | cons ch w ih =>
    obtain ⟨hgap, hcolon, hmark, hw⟩ := hw
    have hinner : (flow && ch == ':' &&
        ((w ++ tail).head?.any fun d => isFlowMark d || d == '?')) = false := by
      by_cases h : ch = ':'
      · simp [(hcolon h).1]
      · simp [h]
    have hend : (ch == ':' && atGapOrEnd (w ++ tail)) = false := by
      by_cases h : ch = ':'
      · simp [(hcolon h).2]
      · simp [h]
    have hflow : (flow && isFlowMark ch) = false := by
      cases flow with
      | false => rfl
      | true => rw [Bool.true_and, hmark rfl]
    rw [List.cons_append, plainWord]
    simp only [hgap, hinner, hend, hflow, ih hw, Bool.false_eq_true, if_false]

theorem plainWord_of_isGapOrBreak {flow : Bool} (h : isGapOrBreak ch = true) (rest : List Char) :
    plainWord flow (ch :: rest) = ([], false) := by
  rw [plainWord, if_pos h]

theorem plainWord_colon (hrest : atGapOrEnd rest = true) :
    plainWord false (':' :: rest) = ([], false) := by
  have hgap : isGapOrBreak ':' = false := rfl
  simp only [plainWord, hgap, Bool.false_eq_true, if_false, Bool.false_and, beq_self_eq_true,
    Bool.true_and, hrest, if_true]

theorem plainWord_flowMark (h : isFlowMark ch = true) (rest : List Char) :
    plainWord true (ch :: rest) = ([], false) := by
  simp only [isFlowMark, Bool.or_eq_true, beq_iff_eq] at h
  rcases h with (((rfl | rfl) | rfl) | rfl) | rfl <;> rfl

/-- A letter or digit is none of the characters that are neither. -/
theorem ne_of_isAlphanum {x : Char} (h : ch.isAlphanum = true) (hx : x.isAlphanum = false) :
    ch ≠ x := by
  rintro rfl
  rw [hx] at h
  cases h

theorem toNat_of_isAlphanum (h : ch.isAlphanum = true) : 0x30 ≤ ch.toNat ∧ ch.toNat ≤ 0x7a := by
  unfold Char.isAlphanum Char.isAlpha Char.isUpper Char.isLower Char.isDigit at h
  simp only [Bool.or_eq_true, Bool.and_eq_true, decide_eq_true_eq, UInt32.le_iff_toNat_le,
    ge_iff_le] at h
  have hnumber : ch.val.toNat = ch.toNat := rfl
  have h0 : '0'.val.toNat = 0x30 := rfl
  have h9 : '9'.val.toNat = 0x39 := rfl
  have hA : 'A'.val.toNat = 0x41 := rfl
  have hZ : 'Z'.val.toNat = 0x5a := rfl
  have ha : 'a'.val.toNat = 0x61 := rfl
  have hz : 'z'.val.toNat = 0x7a := rfl
  omega

theorem isGapOrBreak_of_isAlphanum (h : ch.isAlphanum = true) : isGapOrBreak ch = false := by
  refine isGapOrBreak_eq_false_iff.2 ⟨ne_of_isAlphanum h rfl, ne_of_isAlphanum h rfl, ?_⟩
  have hother : ∀ x : Char, x.isAlphanum = false → (ch == x) = false :=
    fun x hx => beq_eq_false_iff_ne.2 (ne_of_isAlphanum h hx)
  rw [isBreak, hother '\n' rfl, hother '\r' rfl, hother '\u0085' rfl, hother '\u2028' rfl,
    hother '\u2029' rfl]
  rfl

theorem solid_of_isAlphanum {flow : Bool} (hw : ∀ ch ∈ w, ch.isAlphanum = true) :
    Solid flow tail w := by
  induction w with
  | nil => trivial
  | cons ch w ih =>
    obtain ⟨hch, hw⟩ := List.forall_mem_cons.1 hw
    refine ⟨isGapOrBreak_of_isAlphanum hch, fun h => absurd h (ne_of_isAlphanum hch rfl),
      fun _ => ?_, ih hw⟩
    have hother : ∀ x : Char, x.isAlphanum = false → (ch == x) = false :=
      fun x hx => beq_eq_false_iff_ne.2 (ne_of_isAlphanum hch hx)
    rw [isFlowMark, hother ',' rfl, hother '[' rfl, hother ']' rfl, hother '\x7b' rfl,
      hother '\x7d' rfl]
    rfl

/-! ## Marks inside a text -/

theorem marksInside_append {a b : List Char} (h : marksInside (a ++ b) = false) :
    marksInside b = false := by
  induction a with
  | nil => exact h
  | cons x a ih =>
    refine ih ?_
    cases hab : a ++ b with
    | nil => rfl
    | cons y more =>
      rw [List.cons_append, hab, marksInside, Bool.or_eq_false_iff] at h
      exact h.2

/-- The first word of a text that makes no mark is solid. -/
theorem solid_of_marksInside {x : Char} (hmarks : marksInside (x :: (w ++ cs)) = false)
    (hw : ∀ ch ∈ w, isGapOrBreak ch = false) (tail : List Char) : Solid false (cs ++ tail) w := by
  induction w generalizing x with
  | nil => trivial
  | cons ch w ih =>
    obtain ⟨hch, hw⟩ := List.forall_mem_cons.1 hw
    rw [List.cons_append, marksInside, Bool.or_eq_false_iff, Bool.or_eq_false_iff] at hmarks
    refine ⟨hch, fun hcolon => ⟨rfl, ?_⟩, fun h => absurd h (by decide), ih hmarks.2 hw⟩
    subst hcolon
    have hgo : atGapOrEnd (w ++ cs) = false := by simpa using hmarks.1.1
    rw [← List.append_assoc]
    cases hwcs : w ++ cs with
    | nil => simp [hwcs, atGapOrEnd] at hgo
    | cons y more =>
      rw [hwcs] at hgo
      exact hgo

/-! ## Single words -/

/-- A newline and the indentation after it. -/
theorem gapAt_newLine {limit : Int} {n : Nat}
    (hc : c.rest = '\n' :: (List.replicate n ' ' ++ rest)) (hrest : Stops isGapOrBreak rest) :
    gapAt context limit none c = .ok ⟨[], some ['\n'], [], c.nextLine.skip n⟩ := by
  have hline : c.nextLine.rest = List.replicate n ' ' ++ rest := by
    rw [Cursor.nextLine_cons hc rfl (by decide)]
  have hbreak : breakText ('\n' :: (List.replicate n ' ' ++ rest)) = ['\n'] := rfl
  rw [gapAt, gap, hc]
  simp only [show isGap '\n' = false from rfl, show isBreak '\n' = true from rfl,
    Bool.false_eq_true, if_false, if_true, Option.isSome_none, hbreak]
  exact gap_indentation n hline hrest (by
    rw [List.length_cons, List.length_append, List.length_replicate]
    omega)

/-- A place where a plain scalar may go on. -/
structure GoesOn (c : Cursor) : Prop where
  border : OffBorder c
  comment : ∀ ch ∈ c.rest.head?, ch ≠ '#'

theorem GoesOn.eq_false (h : GoesOn c) :
    ((c.column == 0 && startsBorder c.rest) || c.at? '#') = false := by
  rw [h.border.eq_false, Cursor.at?_eq_false h.comment]
  rfl

theorem plainText_of_stops {flow : Bool} {indent : Int} {fuel : Nat} (hgoes : GoesOn c)
    (hc : c.rest = w ++ tail) (hw : Solid flow tail w) (htail : plainWord flow tail = ([], false))
    (hgap : atGapOrEnd tail = false) :
    plainText context flow indent (fuel + 1) c = .ok ⟨w, false, c.skip w.length⟩ := by
  have hafter : (c.skip w.length).rest = tail := Cursor.skip_rest_append hc
  rw [plainText, hgoes.eq_false]
  simp only [Bool.false_eq_true, if_false, hc, plainWord_of_solid htail hw]
  rw [hafter, hgap]
  rfl

theorem plainText_of_gap {flow : Bool} {indent : Int} {fuel : Nat} {g : Gap} (hgoes : GoesOn c)
    (hc : c.rest = w ++ ch :: rest) (hw : Solid flow (ch :: rest) w)
    (hgap : isGapOrBreak ch = true)
    (hg : ∀ context, gapAt context indent none (c.skip w.length) = .ok g) :
    plainText context flow indent (fuel + 1) c =
      if !flow && (g.after.column : Int) < indent then .ok ⟨w, g.first.isSome, g.after⟩
      else
        (plainText context flow indent fuel g.after).map fun next =>
          if next.text.isEmpty then ⟨w, g.first.isSome, next.after⟩
          else ⟨w ++ g.text ++ next.text, next.brokenOff, next.after⟩ := by
  have hafter : (c.skip w.length).rest = ch :: rest := Cursor.skip_rest_append hc
  have hmore : (atGapOrEnd (ch :: rest) && !(ch :: rest).isEmpty) = true := by
    simpa [atGapOrEnd] using hgap
  rw [plainText, hgoes.eq_false]
  simp only [Bool.false_eq_true, if_false, hc,
    plainWord_of_solid (plainWord_of_isGapOrBreak hgap rest) hw]
  rw [hafter, hmore, if_pos rfl, hg]
  rfl

/-- Between brackets, a word is read up to a break with a mark behind it. -/
theorem plainText_flow_newLine {indent : Int} {n fuel : Nat} {mark : Char} (hgoes : GoesOn c)
    (hc : c.rest = w ++ '\n' :: (List.replicate n ' ' ++ mark :: rest))
    (hw : Solid true ('\n' :: (List.replicate n ' ' ++ mark :: rest)) w)
    (hmark : isFlowMark mark = true) :
    plainText context true indent (fuel + 2) c =
      .ok ⟨w, true, (c.skip w.length).nextLine.skip n⟩ := by
  have hafter : (c.skip w.length).rest = '\n' :: (List.replicate n ' ' ++ mark :: rest) :=
    Cursor.skip_rest_append hc
  have hsolid : isGapOrBreak mark = false ∧ mark ≠ '#' ∧ mark ≠ '-' ∧ mark ≠ '.' := by
    simp only [isFlowMark, Bool.or_eq_true, beq_iff_eq] at hmark
    rcases hmark with (((rfl | rfl) | rfl) | rfl) | rfl <;> decide
  have hplace := (Cursor.skip_nextLine hafter).1
  have hnext : GoesOn ((c.skip w.length).nextLine.skip n) := by
    refine ⟨fun _ => ?_, fun x hx => ?_⟩
    · rw [hplace]
      exact startsBorder_eq_false hsolid.2.2.1 hsolid.2.2.2 _
    · rw [hplace] at hx
      obtain rfl := Option.some.inj hx
      exact hsolid.2.1
  have hnone : atGapOrEnd (mark :: rest) = false := hsolid.1
  rw [plainText_of_gap hgoes hc hw rfl fun _ => gapAt_newLine hafter (stops_cons.2 hsolid.1)]
  simp only [Bool.not_true, Bool.false_and, Bool.false_eq_true, if_false, Option.isSome_some]
  rw [plainText_of_stops (w := []) hnext hplace trivial (plainWord_flowMark hmark rest) hnone,
    List.length_nil, Cursor.skip_zero]
  rfl

/-! ## Texts -/

/-- A text on one line that no mark and no blank at an end keeps from standing without quotes. -/
structure Plainly (cs : List Char) : Prop where
  nonempty : cs ≠ []
  head : cs.head? ≠ some ' '
  last : cs.getLast? ≠ some ' '
  lines : ∀ ch ∈ cs, isBreak ch = false
  tabless : '\t' ∉ cs
  marks : marksInside (' ' :: cs) = false

theorem Plainly.head_ne (h : Plainly cs) : ∀ ch ∈ cs.head?, ch ≠ '#' := by
  rintro ch hch rfl
  obtain ⟨more, rfl⟩ : ∃ more, cs = '#' :: more := by
    cases cs with
    | nil => cases hch
    | cons x more => exact ⟨more, by rw [Option.some.inj hch]⟩
  have hmark : marksInside (' ' :: '#' :: more) = true := by
    rw [marksInside]
    rfl
  rw [h.marks] at hmark
  cases hmark

theorem Plainly.stops (h : Plainly cs) : Stops isGapOrBreak (cs ++ rest) := by
  refine Stops.append (fun ch hch => ?_) h.nonempty rest
  refine isGapOrBreak_eq_false_iff.2 ⟨?_, ?_, h.lines ch (List.mem_of_mem_head? hch)⟩
  · rintro rfl
    exact h.head hch
  · rintro rfl
    exact h.tabless (List.mem_of_mem_head? hch)

/-- A run of spaces at the start of a text, and what comes after it. -/
theorem exists_spaces (cs : List Char) :
    ∃ k next, cs = List.replicate k ' ' ++ next ∧ next.head? ≠ some ' ' := by
  induction cs with
  | nil => exact ⟨0, [], rfl, by simp⟩
  | cons ch cs ih =>
    by_cases hch : ch = ' '
    · subst hch
      obtain ⟨k, next, rfl, hnext⟩ := ih
      exact ⟨k + 1, next, rfl, hnext⟩
    · exact ⟨0, ch :: cs, rfl, by simpa using hch⟩

/-- A text is its first word, perhaps a run of spaces, and the words after it. -/
theorem Plainly.exists_word (h : Plainly cs) :
    ∃ w more, cs = w ++ more ∧ (∀ ch ∈ w, isGapOrBreak ch = false) ∧ w ≠ [] ∧
      (more = [] ∨ ∃ k next, more = List.replicate (k + 1) ' ' ++ next ∧ Plainly next) := by
  refine ⟨cs.takeWhile (· != ' '), cs.dropWhile (· != ' '), List.takeWhile_append_dropWhile.symm,
    fun ch hch => ?_, ?_, ?_⟩
  · have hmem := (List.takeWhile_subset _) hch
    refine isGapOrBreak_eq_false_iff.2 ⟨?_, ?_, h.lines ch hmem⟩
    · simpa using List.mem_takeWhile_imp hch
    · rintro rfl
      exact h.tabless hmem
  · obtain ⟨x, more, rfl⟩ := List.exists_cons_of_ne_nil h.nonempty
    have hx : x ≠ ' ' := fun hspace => h.head (by rw [hspace]; rfl)
    simp [hx]
  · cases hmore : cs.dropWhile (· != ' ') with
    | nil => exact .inl rfl
    | cons x more =>
      right
      obtain rfl : x = ' ' := by
        have hstops := Text.stops_dropWhile (· != ' ') cs x (by rw [hmore]; rfl)
        simpa using hstops
      obtain ⟨k, next, rfl, hnext⟩ := exists_spaces more
      have hcs : cs = (cs.takeWhile (· != ' ') ++ List.replicate (k + 1) ' ') ++ next := by
        conv_lhs => rw [← List.takeWhile_append_dropWhile (p := (· != ' ')) (l := cs), hmore]
        rw [List.append_assoc, List.replicate_succ, List.cons_append]
      have hne : next ≠ [] := by
        rintro rfl
        refine h.last ?_
        rw [hcs, List.append_nil, List.replicate_succ', ← List.append_assoc]
        simp
      have hmem : ∀ ch ∈ next, ch ∈ cs := by
        intro ch hch
        rw [hcs]
        exact List.mem_append_right _ hch
      refine ⟨k, next, rfl, hne, hnext, ?_, fun ch hch => h.lines ch (hmem ch hch),
        fun htab => h.tabless (hmem _ htab), ?_⟩
      · intro hlast
        refine h.last ?_
        rw [hcs, List.getLast?_append_of_ne_nil _ hne, hlast]
      · refine marksInside_append (a := ' ' :: cs.takeWhile (· != ' ') ++ List.replicate k ' ') ?_
        have hmarks := h.marks
        rw [hcs, List.replicate_succ'] at hmarks
        simpa using hmarks

/-- Outside brackets, such a text is read up to a line in a column to the left. -/
theorem plainText_of_plainly {indent : Int} {n : Nat} (hindent : n < indent)
    (hrest : Stops isGapOrBreak rest) : ∀ {fuel : Nat} {cs : List Char} {c : Cursor}, Plainly cs →
      c.rest = cs ++ '\n' :: (List.replicate n ' ' ++ rest) → OffBorder c → indent ≤ c.column →
        cs.length < fuel →
          plainText context false indent fuel c =
            .ok ⟨cs, true, (c.skip cs.length).nextLine.skip n⟩ := by
  intro fuel
  induction fuel with
  | zero =>
    intro cs c _ _ _ _ hfuel
    omega
  | succ fuel ih =>
    intro cs c hcs hc hborder hcolumn hfuel
    have hgoes : GoesOn c := by
      refine ⟨hborder, fun ch hch => hcs.head_ne ch ?_⟩
      rw [hc] at hch
      rwa [List.head?_append_of_ne_nil _ hcs.nonempty] at hch
    obtain ⟨w, more, hw, hsolid, hne, hmore⟩ := hcs.exists_word
    subst hw
    have hmarks := solid_of_marksInside hcs.marks hsolid
      ('\n' :: (List.replicate n ' ' ++ rest))
    rcases hmore with rfl | ⟨k, next, rfl, hnext⟩
    · -- the text is over at the end of its line
      rw [List.append_nil] at hc ⊢
      have hafter : (c.skip w.length).rest = '\n' :: (List.replicate n ' ' ++ rest) :=
        Cursor.skip_rest_append hc
      rw [plainText_of_gap hgoes hc hmarks rfl fun _ => gapAt_newLine hafter hrest]
      have hline : (((c.skip w.length).nextLine.skip n).column : Int) < indent := by
        rw [Cursor.skip_column, Cursor.nextLine_cons hafter rfl (by decide)]
        simpa using hindent
      simp only [Bool.not_false, Bool.true_and, decide_eq_true hline, if_true, Option.isSome_some]
    · -- it goes on behind a run of spaces
      have htext : (List.replicate (k + 1) ' ' ++ next) ++ '\n' :: (List.replicate n ' ' ++ rest) =
          ' ' :: (List.replicate k ' ' ++ (next ++ '\n' :: (List.replicate n ' ' ++ rest))) := by
        rw [List.append_assoc, List.replicate_succ, List.cons_append]
      rw [htext] at hmarks
      rw [List.append_assoc, htext] at hc
      have hafter : (c.skip w.length).rest = List.replicate (k + 1) ' ' ++
          (next ++ '\n' :: (List.replicate n ' ' ++ rest)) := by
        rw [Cursor.skip_rest_append hc, List.replicate_succ, List.cons_append]
      have hplace : ((c.skip w.length).skip (k + 1)).rest =
          next ++ '\n' :: (List.replicate n ' ' ++ rest) := by
        simpa using Cursor.skip_rest_append (w := List.replicate (k + 1) ' ') hafter
      have hright : indent ≤ ((c.skip w.length).skip (k + 1)).column := by
        rw [Cursor.skip_column, Cursor.skip_column]
        omega
      have hlength : next.length < fuel := by
        have hpos := List.length_pos_iff.2 hne
        simp at hfuel
        omega
      rw [plainText_of_gap hgoes hc hmarks rfl fun _ => gapAt_spaces hafter hnext.stops,
        ih hnext hplace (offBorder_skip (Nat.succ_ne_zero k)) hright hlength]
      have hnot : ¬ (((c.skip w.length).skip (k + 1)).column : Int) < indent := by omega
      have hnone : next.isEmpty = false := by simpa using hnext.nonempty
      simp only [Bool.not_false, Bool.true_and, decide_eq_false hnot, Bool.false_eq_true, if_false,
        Except.map, hnone, Gap.text]
      simp only [Cursor.skip_skip, List.length_append, List.length_replicate, List.append_assoc,
        Nat.add_assoc]

theorem plainly_of_isAlphanum (hne : w ≠ []) (hw : ∀ ch ∈ w, ch.isAlphanum = true) :
    Plainly w := by
  have hspace : ' ' ∉ w := fun h => ne_of_isAlphanum (hw ' ' h) rfl rfl
  refine ⟨hne, fun h => hspace (List.mem_of_mem_head? h), fun h => hspace (List.mem_of_getLast? h),
    fun ch hch => (isGapOrBreak_eq_false_iff.1 (isGapOrBreak_of_isAlphanum (hw ch hch))).2.2,
    fun h => ne_of_isAlphanum (hw '\t' h) rfl rfl, ?_⟩
  have hmarks : ∀ x : Char, marksInside (x :: w) = false := by
    clear hne hspace
    induction w with
    | nil => exact fun _ => rfl
    | cons ch w ih =>
      intro x
      obtain ⟨hch, hw⟩ := List.forall_mem_cons.1 hw
      have hcolon : (ch == ':') = false := beq_eq_false_iff_ne.2 (ne_of_isAlphanum hch rfl)
      have hnumber : (ch == '#') = false := beq_eq_false_iff_ne.2 (ne_of_isAlphanum hch rfl)
      rw [marksInside, hcolon, hnumber, ih hw]
      rfl
  exact hmarks ' '

/-- A text that may stand without quotes by its characters. -/
theorem plainly_of_analyse (h : (analyse cs).plain = true) : Plainly cs := by
  simp only [analyse, Bool.not_eq_true', Bool.or_eq_false_iff, beq_eq_false_iff_ne] at h
  obtain ⟨⟨⟨⟨⟨⟨⟨hempty, -, hspecial⟩, -⟩, hbreaks⟩, hhead, hlast⟩, -⟩, hmark⟩, hinside⟩ := h
  have htab : '\t' ∉ cs := by
    intro htab
    have hprint := List.any_eq_false.1 hspecial '\t' htab
    exact absurd hprint (by decide)
  refine ⟨by simpa using hempty, hhead, hlast, fun ch hch => ?_, htab, ?_⟩
  · simpa using List.any_eq_false.1 hbreaks ch hch
  · cases cs with
    | nil => rfl
    | cons ch cs =>
      simp only [startsAsMark, Bool.or_eq_false_iff, decide_eq_false_iff_not] at hmark
      have hnumber : (ch == '#') = false := by
        rw [beq_eq_false_iff_ne]
        rintro rfl
        exact hmark.1 (by decide)
      have hcolon : (ch == ':' && atGapOrEnd cs) = false := by
        rw [Bool.and_eq_false_imp]
        intro h
        obtain rfl : ch = ':' := by simpa using h
        simpa using hmark.2
      rw [marksInside, hcolon, hnumber, hinside]
      rfl

/-! ## Scalars -/

theorem goesOn_of_isAlphanum (hne : w ≠ []) (hw : ∀ ch ∈ w, ch.isAlphanum = true)
    (hc : c.rest = w ++ tail) : GoesOn c := by
  obtain ⟨ch, w, rfl⟩ := List.exists_cons_of_ne_nil hne
  have hch := hw ch List.mem_cons_self
  refine ⟨fun _ => ?_, fun x hx => ?_⟩
  · rw [hc]
    exact startsBorder_eq_false (ne_of_isAlphanum hch rfl) (ne_of_isAlphanum hch rfl) _
  · rw [hc] at hx
    obtain rfl := Option.some.inj hx
    exact ne_of_isAlphanum hch rfl

/-- A text is read up to a line in a column to the left. -/
theorem plain_of_plainly {indent : Int} {n : Nat} (hcs : Plainly cs)
    (hc : c.rest = cs ++ '\n' :: (List.replicate n ' ' ++ rest)) (hrest : Stops isGapOrBreak rest)
    (hborder : OffBorder c) (hcolumn : indent ≤ c.column) (hindent : n < indent) :
    plain false indent c = .ok ⟨cs, true, (c.skip cs.length).nextLine.skip n⟩ :=
  plainText_of_plainly hindent hrest hcs hc hborder hcolumn
    (by rw [hc, List.length_append]; omega)

/-- A word is read up to where no word goes on. -/
theorem plain_of_isAlphanum {flow : Bool} {indent : Int} (hne : w ≠ [])
    (hw : ∀ ch ∈ w, ch.isAlphanum = true) (hc : c.rest = w ++ tail)
    (htail : plainWord flow tail = ([], false)) (hgap : atGapOrEnd tail = false) :
    plain flow indent c = .ok ⟨w, false, c.skip w.length⟩ :=
  plainText_of_stops (goesOn_of_isAlphanum hne hw hc) hc (solid_of_isAlphanum hw) htail hgap

/-- Between brackets, a word is read up to a break with a mark behind it. -/
theorem plain_newLine_of_isAlphanum {indent : Int} {n : Nat} {mark : Char} (hne : w ≠ [])
    (hw : ∀ ch ∈ w, ch.isAlphanum = true)
    (hc : c.rest = w ++ '\n' :: (List.replicate n ' ' ++ mark :: rest))
    (hmark : isFlowMark mark = true) :
    plain true indent c = .ok ⟨w, true, (c.skip w.length).nextLine.skip n⟩ := by
  have hfuel : ∃ f, c.rest.length = f + 1 := by
    obtain ⟨ch, w, rfl⟩ := List.exists_cons_of_ne_nil hne
    exact ⟨_, by rw [hc, List.cons_append, List.length_cons]⟩
  obtain ⟨f, hf⟩ := hfuel
  rw [plain, hf]
  exact plainText_flow_newLine (goesOn_of_isAlphanum hne hw hc) hc (solid_of_isAlphanum hw) hmark

end Cadastre.Yaml
