import Cadastre.Json.Writer
import Cadastre.Proofs.Yaml.Quoted
import Cadastre.Yaml.Writer
import Mathlib.Algebra.Group.Nat.Defs
import Mathlib.Tactic.SplitIfs

/-!
# What is written between quotes

A string written between double quotes spells itself, whatever its characters are. Between single
quotes it does if its only breaks are separators with no space beside them, and between the quotes
of JSON if moreover no separator stands before the border of a document.
-/

namespace Cadastre.Yaml

open Text (Stops stops_cons hexDigit? hexPadded)

variable {ch : Char} {cs ds : List Char}

/-! ## Hexadecimal digits -/

theorem hexValue?_append_singleton (ds : List Char) (d : Char) :
    hexValue? (ds ++ [d]) = (hexValue? ds).bind fun n => (hexDigit? d).map (16 * n + ·) := by
  simp [hexValue?]

/-- The digits of a number have its value, in small letters or in capital ones. -/
theorem hexValue?_toDigits {f : Char → Char}
    (hf : ∀ d < 16, hexDigit? (f d.digitChar) = some d) (n : Nat) :
    hexValue? ((Nat.toDigits 16 n).map f) = some n := by
  induction n using Nat.strong_induction_on with
  | _ n ih =>
    by_cases hlt : n < 16
    · rw [Nat.toDigits_of_lt_base hlt]
      simp [hexValue?, hf n hlt]
    · rw [Nat.toDigits_of_base_le (by omega) (by omega), List.map_append, List.map_singleton,
        hexValue?_append_singleton, ih (n / 16) (by omega), hf _ (Nat.mod_lt _ (by omega))]
      simp only [Option.bind_some, Option.map_some, Option.some.injEq]
      omega

/-- Zeros at the front do not change a value. -/
theorem hexValue?_replicate_append (k : Nat) (ds : List Char) :
    hexValue? (List.replicate k '0' ++ ds) = hexValue? ds := by
  induction k with
  | zero => rfl
  | succ k ih =>
    rw [← ih]
    rfl

theorem hexValue?_capitalHex (width n : Nat) : hexValue? (capitalHex width n) = some n := by
  have hcapital : ∀ d < 16, hexDigit? (Char.toUpper d.digitChar) = some d := by decide
  rw [capitalHex, hexValue?_replicate_append, hexValue?_toDigits hcapital]

theorem length_capitalHex {width n : Nat} (hwidth : 0 < width) (h : n < 16 ^ width) :
    (capitalHex width n).length = width := by
  have hlen := (Nat.length_toDigits_le_iff (b := 16) (by omega) hwidth).2 h
  simp only [capitalHex, List.length_append, List.length_replicate, List.length_map]
  omega

theorem hexValue?_hexPadded (width n : Nat) : hexValue? (hexPadded width n) = some n := by
  have hsmall : ∀ d < 16, hexDigit? (id d.digitChar) = some d := by decide
  have hdigits := hexValue?_toDigits hsmall n
  rw [List.map_id] at hdigits
  rw [hexPadded, hexValue?_replicate_append, Text.hexDigits, hdigits]

theorem length_hexPadded {width n : Nat} (hwidth : 0 < width) (h : n < 16 ^ width) :
    (hexPadded width n).length = width := by
  have hlen := (Nat.length_toDigits_le_iff (b := 16) (by omega) hwidth).2 h
  simp only [hexPadded, Text.hexDigits, List.length_append, List.length_replicate]
  omega

/-! ## Escapes -/

theorem charOf?_toNat (ch : Char) : charOf? ch.toNat = some ch := by
  have hvalid : ch.toNat < 0xd800 ∨ (0xdfff < ch.toNat ∧ ch.toNat < 0x110000) := ch.valid
  rw [charOf?, if_pos, Char.ofNat_toNat]
  simp only [Bool.or_eq_true, Bool.and_eq_true, decide_eq_true_eq]
  omega

/-- A letter that stands for a character. -/
theorem escapes_letter {x : Char} (hbreak : isBreak x = false) (hwidth : escapeWidth? x = none)
    (hshort : shortEscape? x = some ch) : Escapes [x] ch where
  head := ⟨x, rfl, hbreak⟩
  read context c rest hc := by
    rw [escape, hc]
    simp only [List.singleton_append, hwidth, hshort]
    rfl

/-- A letter that announces digits, and the digits of a character's number. -/
theorem escapes_number {x : Char} {width : Nat} (hbreak : isBreak x = false)
    (hwidth : escapeWidth? x = some width) (hlen : ds.length = width)
    (hvalue : hexValue? ds = some ch.toNat) : Escapes (x :: ds) ch where
  head := ⟨x, rfl, hbreak⟩
  read context c rest hc := by
    have hafter : (c.skip 2).rest = ds ++ rest := Cursor.skip_rest_append (w := ['\\', x]) hc
    have hdigits : (c.skip 2).rest.take width = ds := by
      rw [hafter, ← hlen, List.take_left]
    rw [escape, hc]
    simp only [List.cons_append, hwidth, numberedChar, hdigits, hlen, beq_self_eq_true, if_true,
      hvalue, charOf?_toNat, Cursor.skip_skip, List.length_cons]
    rw [Nat.add_comm 2]

theorem escapes_doubleEscape (ch : Char) : Escapes (doubleEscape ch) ch := by
  unfold doubleEscape
  split
  case h_15 =>
    have hmax : ch.toNat < 0x110000 := by
      have hvalid : ch.toNat < 0xd800 ∨ (0xdfff < ch.toNat ∧ ch.toNat < 0x110000) := ch.valid
      omega
    split_ifs with hbyte hplane
    · exact escapes_number rfl rfl (length_capitalHex (by omega) (by omega))
        (hexValue?_capitalHex _ _)
    · exact escapes_number rfl rfl (length_capitalHex (by omega) (by omega))
        (hexValue?_capitalHex _ _)
    · exact escapes_number rfl rfl (length_capitalHex (by omega) (by omega))
        (hexValue?_capitalHex _ _)
  all_goals exact escapes_letter rfl rfl rfl

/-! ## Double quotes -/

theorem head?_doubleChars (cs : List Char) :
    ∀ x ∈ (cs.flatMap doubleChar).head?, isBreak x = false := by
  intro x hx
  cases cs with
  | nil => cases hx
  | cons ch cs =>
    rw [List.flatMap_cons, doubleChar] at hx
    split at hx
    · obtain rfl := Option.some.inj hx
      rfl
    · next h =>
      obtain rfl := Option.some.inj hx
      simp only [Bool.or_eq_true, not_or, Bool.not_eq_true] at h
      exact h.1.1.2

/-- A string between double quotes spells itself. -/
theorem spells_doubleChars (cs : List Char) : Spells '"' (cs.flatMap doubleChar) cs := by
  induction cs with
  | nil => exact .nil
  | cons ch cs ih =>
    rw [List.flatMap_cons, doubleChar]
    split
    · exact .escape rfl (escapes_doubleEscape ch) ih
    · next h =>
      simp only [Bool.or_eq_true, not_or, Bool.not_eq_true, Bool.not_eq_true', beq_iff_eq] at h
      obtain ⟨⟨⟨hprintable, hbreak⟩, hquote⟩, hslash⟩ := h
      by_cases hspace : ch = ' '
      · subst hspace
        exact .space (head?_doubleChars cs) ih
      · have htab : ch ≠ '\t' := by
          rintro rfl
          exact absurd hprintable (by decide)
        exact .char (isGapOrBreak_eq_false_iff.2 ⟨hspace, htab, hbreak⟩) hquote (fun _ => hslash) ih

/-! ## Pairs of characters -/

theorem anyPair_cons_eq_false {p : Char → Char → Bool} (h : anyPair p (ch :: cs) = false) :
    (∀ b ∈ cs.head?, p ch b = false) ∧ anyPair p cs = false := by
  cases cs with
  | nil => exact ⟨by simp, rfl⟩
  | cons b cs =>
    rw [anyPair, Bool.or_eq_false_iff] at h
    exact ⟨by simpa using h.1, h.2⟩

/-! ## Single quotes -/

/-- The only breaks in a text are separators, and no space stands beside one. -/
structure Tidy (cs : List Char) : Prop where
  breaks : ∀ c ∈ cs, isBreak c = true → isSeparator c = true
  tabless : '\t' ∉ cs
  spaceBreak : anyPair (fun a b => a == ' ' && isBreak b) cs = false
  breakSpace : anyPair (fun a b => isBreak a && b == ' ') cs = false

theorem Tidy.tail (h : Tidy (ch :: cs)) : Tidy cs where
  breaks c hc := h.breaks c (List.mem_cons_of_mem _ hc)
  tabless hc := h.tabless (List.mem_cons_of_mem _ hc)
  spaceBreak := (anyPair_cons_eq_false h.spaceBreak).2
  breakSpace := (anyPair_cons_eq_false h.breakSpace).2

theorem isSeparator_ne_newline (h : isSeparator ch = true) : ch ≠ '\n' := by
  rintro rfl
  exact absurd h (by decide)

/-- After a break, a further separator is written as it would be at any other place. -/
theorem singleBody_true_of_separator {indent : Nat} (h : isSeparator ch = true) (cs : List Char) :
    singleBody indent true (ch :: cs) = singleBody indent false (ch :: cs) := by
  simp [singleBody, isBreak_of_isSeparator h, isSeparator_ne_newline h]

/-- After a break, a line is indented. -/
theorem singleBody_true_of_stops {indent : Nat} (h : Stops isBreak cs) :
    singleBody indent true cs = List.replicate indent ' ' ++ singleBody indent false cs := by
  cases cs with
  | nil => simp [singleBody]
  | cons ch cs => simp [singleBody, stops_cons.1 h]

theorem Tidy.head_isSeparator (h : Tidy cs) :
    ∀ b ∈ cs.head?, isBreak b = true → isSeparator b = true :=
  fun b hb => h.breaks b (List.mem_of_mem_head? hb)

/-- A text between quotes begins as it is written there, unless it begins with a newline. -/
theorem head?_singleBody (indent : Nat) (h : Tidy cs) :
    (singleBody indent false cs).head? = cs.head? := by
  cases cs with
  | nil => rfl
  | cons ch cs =>
    by_cases hbreak : isBreak ch = true
    · have hne := isSeparator_ne_newline (h.head_isSeparator ch rfl hbreak)
      simp [singleBody, hbreak, hne]
    · by_cases hquote : ch = '\''
      · subst hquote
        rfl
      · simp [singleBody, hbreak, hquote]

/-- A tidy string between single quotes spells itself. -/
theorem spells_singleBody {indent : Nat} (hindent : 0 < indent) (h : Tidy cs) :
    Spells '\'' (singleBody indent false cs) cs := by
  induction cs with
  | nil => exact .nil
  | cons ch cs ih =>
    have hspells := ih h.tail
    have hhead := head?_singleBody indent h.tail
    by_cases hbreak : isBreak ch = true
    · have hch := h.breaks ch List.mem_cons_self hbreak
      have hbody : singleBody indent false (ch :: cs) = ch :: singleBody indent true cs := by
        simp [singleBody, hbreak, isSeparator_ne_newline hch]
      rw [hbody]
      by_cases hnext : Stops isBreak cs
      · rw [singleBody_true_of_stops hnext]
        refine .lineEnd hch (fun b hb => ?_) (fun hzero => absurd hzero hindent.ne') hspells
        rw [hhead] at hb
        have hspace : b ≠ ' ' := by
          rintro rfl
          simpa [hbreak] using (anyPair_cons_eq_false h.breakSpace).1 ' ' hb
        have htab : b ≠ '\t' := by
          rintro rfl
          exact h.tail.tabless (List.mem_of_mem_head? hb)
        exact isGapOrBreak_eq_false_iff.2 ⟨hspace, htab, hnext b hb⟩
      · obtain ⟨b, hb, hbbreak⟩ : ∃ b ∈ cs.head?, isBreak b = true := by
          simpa [Stops] using hnext
        obtain ⟨more, rfl⟩ : ∃ more, cs = b :: more := by
          cases cs with
          | nil => cases hb
          | cons x more => exact ⟨more, by rw [Option.some.inj hb]⟩
        rw [singleBody_true_of_separator (h.tail.head_isSeparator b hb hbbreak)]
        exact .separator hch ⟨b, hhead ▸ hb, hbbreak⟩ hspells
    · have hplain : isBreak ch = false := by simpa using hbreak
      have hbody : singleBody indent false (ch :: cs) =
          (if ch == '\'' then [ch, ch] else [ch]) ++ singleBody indent false cs := by
        simp [singleBody, hplain]
      rw [hbody]
      by_cases hquote : ch = '\''
      · subst hquote
        exact .twice rfl hspells
      · rw [if_neg (by simpa using hquote), List.singleton_append]
        by_cases hspace : ch = ' '
        · subst hspace
          refine .space (fun b hb => ?_) hspells
          simpa using (anyPair_cons_eq_false h.spaceBreak).1 b (hhead ▸ hb)
        · have htab : ch ≠ '\t' := by
            rintro rfl
            exact h.tabless List.mem_cons_self
          exact .char (isGapOrBreak_eq_false_iff.2 ⟨hspace, htab, hplain⟩) hquote
            (fun hdouble => absurd hdouble (by decide)) hspells

/-! ## The quotes of JSON -/

/-- A text begins with the border of a document, as it would be written in JSON: a tab or newline
behind it would be escaped there. -/
def startsRawBorder : List Char → Bool
  | '-' :: '-' :: '-' :: c :: _ => c == ' ' || isSeparator c
  | '.' :: '.' :: '.' :: c :: _ => c == ' ' || isSeparator c
  | _ => false

/-- Whether a string between the quotes of JSON spells itself: its characters may stand in a text or
are escaped, none of them is the next-line character, and no space and no border of a document
stands beside a separator. -/
def isSteady : List Char → Bool
  | [] => true
  | c :: cs =>
    (isAllowed c || c.toNat < 0x20) && c != '\u0085' &&
      (if isSeparator c then cs.head? != some ' ' && !startsRawBorder cs
        else !(c == ' ' && cs.head?.any isSeparator)) &&
      isSteady cs

/-- A character is escaped in a JSON string, or it is no control, no quote and no backslash and
stands for itself. -/
theorem escapedChar_cases (ch : Char) :
    (∃ e, Json.escapedChar ch = '\\' :: e ∧ Escapes e ch) ∨
      (Json.escapedChar ch = [ch] ∧ ch ≠ '"' ∧ ch ≠ '\\' ∧ 0x20 ≤ ch.toNat) := by
  unfold Json.escapedChar
  split_ifs with h1 h2 h3 h4 h5 h6 h7 h8
  · obtain rfl : ch = '"' := by simpa using h1
    exact .inl ⟨_, rfl, escapes_letter rfl rfl rfl⟩
  · obtain rfl : ch = '\\' := by simpa using h2
    exact .inl ⟨_, rfl, escapes_letter rfl rfl rfl⟩
  · obtain rfl : ch = '\x08' := by simpa using h3
    exact .inl ⟨_, rfl, escapes_letter rfl rfl rfl⟩
  · obtain rfl : ch = '\x0c' := by simpa using h4
    exact .inl ⟨_, rfl, escapes_letter rfl rfl rfl⟩
  · obtain rfl : ch = '\n' := by simpa using h5
    exact .inl ⟨_, rfl, escapes_letter rfl rfl rfl⟩
  · obtain rfl : ch = '\r' := by simpa using h6
    exact .inl ⟨_, rfl, escapes_letter rfl rfl rfl⟩
  · obtain rfl : ch = '\t' := by simpa using h7
    exact .inl ⟨_, rfl, escapes_letter rfl rfl rfl⟩
  · exact .inl ⟨_, rfl, escapes_number rfl rfl (length_hexPadded (by omega) (by omega))
      (hexValue?_hexPadded _ _)⟩
  · exact .inr ⟨rfl, by simpa using h1, by simpa using h2, by omega⟩

/-- A character of a written string that is no backslash is the first character of the string. -/
theorem eq_cons_of_escapedChars {x : Char} {rest text : List Char} (hslash : x ≠ '\\')
    (hquote : x ≠ '"') (h : cs.flatMap Json.escapedChar ++ '"' :: rest = x :: text) :
    0x20 ≤ x.toNat ∧ ∃ more, cs = x :: more ∧
      more.flatMap Json.escapedChar ++ '"' :: rest = text := by
  cases cs with
  | nil => exact absurd (List.cons.inj h).1.symm hquote
  | cons ch cs =>
    rw [List.flatMap_cons] at h
    obtain ⟨e, he, -⟩ | ⟨hraw, -, -, hlow⟩ := escapedChar_cases ch
    · rw [he] at h
      exact absurd (List.cons.inj h).1.symm hslash
    · rw [hraw] at h
      obtain ⟨rfl, htext⟩ := List.cons.inj h
      exact ⟨hlow, cs, rfl, htext⟩

theorem isSteady_cons : isSteady (ch :: cs) = true ↔
    ((isAllowed ch || ch.toNat < 0x20) = true ∧ ch ≠ '\u0085') ∧
      (if isSeparator ch then cs.head? != some ' ' && !startsRawBorder cs
        else !(ch == ' ' && cs.head?.any isSeparator)) = true ∧ isSteady cs = true := by
  simp [isSteady, and_assoc]

theorem ne_of_isSteady (h : isSteady cs = true) : ∀ b ∈ cs.head?, b ≠ '\u0085' := by
  intro b hb
  cases cs with
  | nil => cases hb
  | cons ch cs =>
    obtain rfl := Option.some.inj hb
    exact (isSteady_cons.1 h).1.2

/-- In a steady string, what a space or break stands for is a space or separator. -/
theorem isSeparator_of_isGapOrBreak (h : ch ≠ '\u0085') (hlow : 0x20 ≤ ch.toNat)
    (hgap : isGapOrBreak ch = true) : ch = ' ' ∨ isSeparator ch = true := by
  simp only [isGapOrBreak, isGap, isBreak, Bool.or_eq_true, beq_iff_eq] at hgap
  rcases hgap with (rfl | rfl) | (((rfl | rfl) | rfl) | rfl) | rfl
  · exact .inl rfl
  · exact absurd hlow (by decide)
  · exact absurd hlow (by decide)
  · exact absurd hlow (by decide)
  · exact absurd rfl h
  · exact .inr rfl
  · exact .inr rfl

/-- No border of a document stands in the text of a string that begins with none. -/
theorem startsBorder_escapedChars (hsteady : isSteady cs = true)
    (hborder : startsRawBorder cs = false) (rest : List Char) :
    startsBorder (cs.flatMap Json.escapedChar ++ '"' :: rest) = false := by
  -- what follows three dashes or points in the text follows them in the string
  have hafter : ∀ x r, x ≠ '\\' → x ≠ '"' → atGapOrEnd r = true →
      cs.flatMap Json.escapedChar ++ '"' :: rest = x :: x :: x :: r →
        ∃ d more, cs = x :: x :: x :: d :: more ∧ (d = ' ' ∨ isSeparator d = true) := by
    intro x r hslash hquote hgap htext
    obtain ⟨-, cs1, h1, htext1⟩ := eq_cons_of_escapedChars hslash hquote htext
    obtain ⟨-, cs2, h2, htext2⟩ := eq_cons_of_escapedChars hslash hquote htext1
    obtain ⟨-, cs3, h3, htext3⟩ := eq_cons_of_escapedChars hslash hquote htext2
    subst h3 h2 h1
    cases cs3 with
    | nil =>
      rw [← htext3] at hgap
      exact absurd hgap (by simp [atGapOrEnd]; decide)
    | cons d more =>
      refine ⟨d, more, rfl, ?_⟩
      rw [← htext3, List.flatMap_cons] at hgap
      obtain ⟨e, he, -⟩ | ⟨hraw, -, -, hlow⟩ := escapedChar_cases d
      · rw [he] at hgap
        have hslash :
            atGapOrEnd ('\\' :: e ++ more.flatMap Json.escapedChar ++ '"' :: rest) = false := rfl
        rw [hslash] at hgap
        cases hgap
      · rw [hraw] at hgap
        have hd := (isSteady_cons.1 (isSteady_cons.1 (isSteady_cons.1 hsteady).2.2).2.2).2.2
        exact isSeparator_of_isGapOrBreak (ne_of_isSteady hd d rfl) hlow hgap
  have hnone : ∀ x r, (x = '-' ∨ x = '.') → atGapOrEnd r = true →
      cs.flatMap Json.escapedChar ++ '"' :: rest ≠ x :: x :: x :: r := by
    intro x r hx hgap htext
    have hslash : x ≠ '\\' ∧ x ≠ '"' := by rcases hx with rfl | rfl <;> decide
    obtain ⟨d, more, rfl, hd⟩ := hafter x r hslash.1 hslash.2 hgap htext
    have hblank : (d == ' ' || isSeparator d) = true := by simpa using hd
    rcases hx with rfl | rfl
    · rw [startsRawBorder, hblank] at hborder
      cases hborder
    · rw [startsRawBorder, hblank] at hborder
      cases hborder
  unfold startsBorder
  split
  · next r htext =>
    by_contra hgap
    exact hnone '-' r (.inl rfl) (by simpa using hgap) htext
  · next r htext =>
    by_contra hgap
    exact hnone '.' r (.inr rfl) (by simpa using hgap) htext
  · rfl

/-- The text of a string in JSON begins with a backslash or as the string does. -/
theorem head?_escapedChars :
    ∀ b ∈ (cs.flatMap Json.escapedChar).head?, b = '\\' ∨ (b ∈ cs.head? ∧ 0x20 ≤ b.toNat) := by
  intro b hb
  cases cs with
  | nil => cases hb
  | cons ch cs =>
    rw [List.flatMap_cons] at hb
    obtain ⟨e, he, -⟩ | ⟨hraw, -, -, hlow⟩ := escapedChar_cases ch
    · rw [he] at hb
      exact .inl (Option.some.inj hb).symm
    · rw [hraw] at hb
      obtain rfl := Option.some.inj hb
      exact .inr ⟨rfl, hlow⟩

/-- A steady string between the quotes of JSON spells itself. -/
theorem spells_escapedChars (h : isSteady cs = true) :
    Spells '"' (cs.flatMap Json.escapedChar) cs := by
  induction cs with
  | nil => exact .nil
  | cons ch cs ih =>
    obtain ⟨⟨hallowed, hline⟩, hbeside, hsteady⟩ := isSteady_cons.1 h
    have hspells := ih hsteady
    rw [List.flatMap_cons]
    obtain ⟨e, he, hescapes⟩ | ⟨hraw, hquote, hslash, hlow⟩ := escapedChar_cases ch
    · rw [he, List.cons_append]
      exact .escape rfl hescapes hspells
    · rw [hraw, List.singleton_append]
      by_cases hch : isSeparator ch = true
      · rw [if_pos hch, Bool.and_eq_true, Bool.not_eq_true', bne_iff_ne] at hbeside
        by_cases hnext : ∃ b ∈ (cs.flatMap Json.escapedChar).head?, isBreak b = true
        · exact .separator hch hnext hspells
        · refine .lineEnd (n := 0) hch (fun b hb => ?_)
            (fun _ => startsBorder_escapedChars hsteady hbeside.2) hspells
          have hbreak : isBreak b = false := by
            simpa using fun h => hnext ⟨b, hb, h⟩
          rcases head?_escapedChars b hb with rfl | ⟨hhead, hblow⟩
          · rfl
          · refine isGapOrBreak_eq_false_iff.2 ⟨?_, ?_, hbreak⟩
            · rintro rfl
              exact hbeside.1 hhead
            · rintro rfl
              exact absurd hblow (by decide)
      · by_cases hspace : ch = ' '
        · subst hspace
          refine .space (fun b hb => ?_) hspells
          rcases head?_escapedChars b hb with rfl | ⟨hhead, hblow⟩
          · rfl
          · by_contra hbreak
            have hgap := isGapOrBreak_of_isBreak (by simpa using hbreak)
            rcases isSeparator_of_isGapOrBreak (ne_of_isSteady hsteady b hhead) hblow hgap
              with rfl | hb
            · exact hbreak rfl
            · simp [hch, Option.mem_def.1 hhead, hb] at hbeside
        · have hgap : isGapOrBreak ch = false := by
            by_contra hgap
            rcases isSeparator_of_isGapOrBreak hline hlow (by simpa using hgap) with h | h
            · exact hspace h
            · exact hch h
          exact .char hgap hquote (fun _ => hslash) hspells

end Cadastre.Yaml
