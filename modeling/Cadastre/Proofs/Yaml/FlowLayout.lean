import Cadastre.Proofs.Json.Scalar
import Cadastre.Proofs.Yaml.Brackets
import Cadastre.Proofs.Yaml.Record

/-!
# Scanning a record that is written as JSON

A record that is written as JSON, with one item or member a line, is read as its tokens between
brackets. Its strings have to be such that nothing in them is folded or forbidden.
-/

namespace Cadastre.Yaml

open Scanner
open Json (prettyAt prettyItems prettyMembers newLine)
open Text (byteCount)

variable {s t : Scanner} {w rest text : List Char} {level depth n : Nat} {keyAllowed : Bool}
  {tokens : List Token}

/-! ## Words and lines -/

/-- A character that is no control, no quote and no backslash stands for itself. -/
theorem escapedChar_of_ne {ch : Char} (hquote : ch ≠ '"') (hslash : ch ≠ '\\')
    (hlow : 0x20 ≤ ch.toNat) : Json.escapedChar ch = [ch] := by
  have hcontrol : ∀ x : Char, x.toNat < 0x20 → ch ≠ x := by
    rintro x hx rfl
    omega
  simp [Json.escapedChar, hquote, hslash, hcontrol '\x08' (by decide), hcontrol '\x0c' (by decide),
    hcontrol '\n' (by decide), hcontrol '\r' (by decide), hcontrol '\t' (by decide),
    show ¬ ch.toNat < 32 by omega]

theorem escapedChar_of_isAlphanum {ch : Char} (h : ch.isAlphanum = true) :
    Json.escapedChar ch = [ch] := by
  have hlow := (toNat_of_isAlphanum h).1
  exact escapedChar_of_ne (ne_of_isAlphanum h rfl) (ne_of_isAlphanum h rfl) (by omega)

theorem flatMap_escapedChar (hw : ∀ x ∈ w, x.isAlphanum = true) :
    w.flatMap Json.escapedChar = w := by
  induction w with
  | nil => rfl
  | cons ch w ih =>
    obtain ⟨hch, hw⟩ := List.forall_mem_cons.1 hw
    rw [List.flatMap_cons, escapedChar_of_isAlphanum hch, ih hw, List.singleton_append]

theorem spells_of_isAlphanum (hw : ∀ x ∈ w, x.isAlphanum = true) : Spells '"' w w := by
  induction w with
  | nil => exact .nil
  | cons ch w ih =>
    obtain ⟨hch, hw⟩ := List.forall_mem_cons.1 hw
    exact .char (isGapOrBreak_of_isAlphanum hch) (ne_of_isAlphanum hch rfl)
      (fun _ => ne_of_isAlphanum hch rfl) (ih hw)

theorem isGap_newLine (level : Nat) : IsGap (newLine level) := ⟨2 * level, .inr rfl⟩

/-- A text goes on with a mark, at the place or on the next line. -/
def GoesOnWithMark (text : List Char) : Prop :=
  ∃ gap mark rest, text = gap ++ mark :: rest ∧ isFlowMark mark = true ∧
    (gap = [] ∨ ∃ n, gap = '\n' :: List.replicate n ' ')

theorem goesOnWithMark_newLine {mark : Char} (hmark : isFlowMark mark = true) :
    GoesOnWithMark (newLine level ++ mark :: rest) :=
  ⟨newLine level, mark, rest, rfl, hmark, .inr ⟨2 * level, rfl⟩⟩

theorem goesOnWithMark_prettyMembers (ms : List (String × Json)) (h : GoesOnWithMark text) :
    GoesOnWithMark (prettyMembers level ms ++ text) := by
  cases ms with
  | nil => exact h
  | cons m ms => exact ⟨[], ',', _, rfl, rfl, .inl rfl⟩

/-- A word behind a colon. -/
theorem Scanner.Inside.wordBefore (hne : w ≠ []) (hw : ∀ x ∈ w, x.isAlphanum = true)
    (htext : GoesOnWithMark text)
    (h : Inside s (' ' :: (w ++ text)) keyAllowed (depth + 1) tokens) :
    ∃ t, Reaches s t ∧ Ahead t text (depth + 1) (tokens ++ [.scalar .plain (String.ofList w)]) := by
  obtain ⟨gap, mark, rest, rfl, hmark, hgap⟩ := htext
  exact h.word hne hw hmark hgap

/-- A key in the form of a word. -/
theorem Scanner.Inside.wordKey {k : String} (hk : isWord k = true)
    (h : Inside s (newLine level ++ Json.stringText k ++ ':' :: rest) true (depth + 1) tokens) :
    ∃ t, Reaches s t ∧
      Inside t rest false (depth + 1) (tokens ++ [.key, .scalar .double k, .value]) := by
  obtain ⟨-, hletters, hbytes, -⟩ := isWord_iff.1 hk
  have hline : ∀ x ∈ k.toList, isBreak x = false := fun x hx =>
    (isGapOrBreak_eq_false_iff.1 (isGapOrBreak_of_isAlphanum (hletters x hx))).2.2
  have hvalue : String.ofList k.toList = k := String.ofList_toList
  rw [← hvalue]
  refine Inside.key (isGap_newLine level) (spells_of_isAlphanum hletters) hline (by omega) ?_
  simpa [Json.stringText, flatMap_escapedChar hletters] using h

/-! ## Values, items and members -/

/-- What stands behind the bracket that opens a record. -/
theorem prettyAt_record (level : Nat) {kind : String → Prop} {x : Json} (hx : IsRecord kind x) :
    prettyAt level x = '\x7b' :: (prettyAt level x).tail ∧
      flowTokens x = .flowMappingStart :: (flowTokens x).tail := by
  match x, hx with
  | .object (m :: ms), _ => exact ⟨rfl, rfl⟩

theorem Scanner.Inside.ahead (h : Inside s text keyAllowed depth tokens) :
    Ahead s text depth tokens :=
  ⟨keyAllowed, .inl h⟩

mutual

/-- A value behind a colon. -/
theorem reads_flowValue (text : List Char) (htext : GoesOnWithMark text) (level depth : Nat) :
    ∀ x, IsEntry (isSteady ·.toList) x → ∀ s keyAllowed tokens,
      Inside s (' ' :: (prettyAt level x ++ text)) keyAllowed (depth + 1) tokens →
      ∃ t, Reaches s t ∧ Ahead t text (depth + 1) (tokens ++ flowTokens x)
  | .bool b, _, s, keyAllowed, tokens, h => by
    cases b
    · exact h.wordBefore (List.cons_ne_nil _ _) (List.all_eq_true.1 rfl) htext
    · exact h.wordBefore (List.cons_ne_nil _ _) (List.all_eq_true.1 rfl) htext
  | .number (.whole n), hn, s, keyAllowed, tokens, h => by
    have hn : ¬ n < 0 := Int.not_lt.2 hn
    have habs : n.natAbs = n.toNat := by omega
    rw [prettyAt, Json.numberText, Json.wholeText, if_neg hn, habs] at h
    exact h.wordBefore Nat.toDigits_ne_nil Text.isAlphanum_of_mem_toDigits htext
  | .text v, hv, s, keyAllowed, tokens, h => by
    have hline : ' ' :: (prettyAt level (.text v) ++ text) =
        ' ' :: '"' :: (v.toList.flatMap Json.escapedChar ++ '"' :: text) := by
      simp [prettyAt, Json.stringText]
    rw [hline] at h
    obtain ⟨t, hreaches, ht⟩ := h.text (spells_escapedChars hv)
    rw [String.ofList_toList] at ht
    exact ⟨t, hreaches, ht.ahead⟩
  | .array [], _, s, keyAllowed, tokens, h => by
    obtain ⟨a, hsa, ha⟩ := Inside.openSequence isGap_space h
    obtain ⟨b, hab, hb⟩ := Ahead.closeSequence isGap_nil ha.ahead
    refine ⟨b, hsa.trans hab, ?_⟩
    simpa [flowTokens] using hb.ahead
  | .array (x :: xs), ⟨hx, hxs⟩, s, keyAllowed, tokens, h => by
    obtain ⟨hopen, htokens⟩ := prettyAt_record (level + 1) hx
    have hclose : GoesOnWithMark (newLine level ++ ']' :: text) := goesOnWithMark_newLine rfl
    have hlines : ' ' :: (prettyAt level (.array (x :: xs)) ++ text) =
        [' '] ++ '[' :: (newLine (level + 1) ++ '\x7b' :: ((prettyAt (level + 1) x).tail ++
          (prettyItems (level + 1) xs ++ (newLine level ++ ']' :: text)))) := by
      rw [prettyAt, hopen]
      simp
    rw [hlines] at h
    obtain ⟨a, hsa, ha⟩ := h.openSequence isGap_space
    obtain ⟨b, hab, hb⟩ := ha.openMapping (isGap_newLine _)
    obtain ⟨c, hbc, hc⟩ := reads_flowRecord _ (level + 1) (depth + 2) x hx b _ hb
    obtain ⟨d, hcd, hd⟩ := reads_flowItems _ hclose (level + 1) (depth + 1) xs hxs c _ hc.ahead
    obtain ⟨e, hde, he⟩ := hd.closeSequence (isGap_newLine _)
    refine ⟨e, hsa.trans (hab.trans (hbc.trans (hcd.trans hde))), ?_⟩
    rw [flowTokens, htokens]
    simpa using he.ahead

/-- A record behind the bracket that opens it. -/
theorem reads_flowRecord (text : List Char) (level depth : Nat) :
    ∀ x, IsRecord (isSteady ·.toList) x → ∀ s tokens,
      Inside s ((prettyAt level x).tail ++ text) true (depth + 1) tokens →
      ∃ t, Reaches s t ∧ Inside t text false depth (tokens ++ (flowTokens x).tail)
  | .object ((k, x) :: ms), ⟨hk, hx, hms⟩, s, tokens, h => by
    have hclose : GoesOnWithMark (newLine level ++ '\x7d' :: text) := goesOnWithMark_newLine rfl
    have hlines : (prettyAt level (.object ((k, x) :: ms))).tail ++ text =
        newLine (level + 1) ++ Json.stringText k ++ ':' :: (' ' :: (prettyAt (level + 1) x ++
          (prettyMembers (level + 1) ms ++ (newLine level ++ '\x7d' :: text)))) := by
      simp [prettyAt]
    rw [hlines] at h
    obtain ⟨a, hsa, ha⟩ := h.wordKey hk
    obtain ⟨b, hab, hb⟩ := reads_flowValue _ (goesOnWithMark_prettyMembers ms hclose) (level + 1)
      depth x hx a _ _ ha
    obtain ⟨c, hbc, hc⟩ := reads_flowMembers _ hclose (level + 1) depth ms hms b _ hb
    obtain ⟨d, hcd, hd⟩ := hc.closeMapping (isGap_newLine _)
    refine ⟨d, hsa.trans (hab.trans (hbc.trans hcd)), ?_⟩
    simpa [flowTokens] using hd

/-- Items, each behind a comma. -/
theorem reads_flowItems (text : List Char) (htext : GoesOnWithMark text) (level depth : Nat) :
    ∀ xs, AreRecords (isSteady ·.toList) xs → ∀ s tokens,
      Ahead s (prettyItems level xs ++ text) (depth + 1) tokens →
      ∃ t, Reaches s t ∧ Ahead t text (depth + 1) (tokens ++ flowItemTokens xs)
  | [], _, s, tokens, h => ⟨s, .refl s, by simpa [flowItemTokens, prettyItems] using h⟩
  | x :: xs, ⟨hx, hxs⟩, s, tokens, h => by
    obtain ⟨hopen, htokens⟩ := prettyAt_record level hx
    have hlines : prettyItems level (x :: xs) ++ text =
        ',' :: (newLine level ++ '\x7b' :: ((prettyAt level x).tail ++
          (prettyItems level xs ++ text))) := by
      rw [prettyItems, hopen]
      simp
    rw [hlines] at h
    obtain ⟨a, hsa, ha⟩ := h.comma
    obtain ⟨b, hab, hb⟩ := ha.openMapping (isGap_newLine _)
    obtain ⟨c, hbc, hc⟩ := reads_flowRecord _ level (depth + 1) x hx b _ hb
    obtain ⟨d, hcd, hd⟩ := reads_flowItems text htext level depth xs hxs c _ hc.ahead
    refine ⟨d, hsa.trans (hab.trans (hbc.trans hcd)), ?_⟩
    rw [flowItemTokens, htokens]
    simpa using hd

/-- Members, each behind a comma. -/
theorem reads_flowMembers (text : List Char) (htext : GoesOnWithMark text) (level depth : Nat) :
    ∀ ms, AreEntries (isSteady ·.toList) ms → ∀ s tokens,
      Ahead s (prettyMembers level ms ++ text) (depth + 1) tokens →
      ∃ t, Reaches s t ∧ Ahead t text (depth + 1) (tokens ++ flowMemberTokens ms)
  | [], _, s, tokens, h => ⟨s, .refl s, by simpa [flowMemberTokens, prettyMembers] using h⟩
  | (k, x) :: ms, ⟨hk, hx, hms⟩, s, tokens, h => by
    have hlines : prettyMembers level ((k, x) :: ms) ++ text =
        ',' :: (newLine level ++ Json.stringText k ++ ':' :: (' ' :: (prettyAt level x ++
          (prettyMembers level ms ++ text)))) := by
      simp [prettyMembers]
    rw [hlines] at h
    obtain ⟨a, hsa, ha⟩ := h.comma
    obtain ⟨b, hab, hb⟩ := ha.wordKey hk
    obtain ⟨c, hbc, hc⟩ :=
      reads_flowValue _ (goesOnWithMark_prettyMembers ms htext) level depth x hx b _ _ hb
    obtain ⟨d, hcd, hd⟩ := reads_flowMembers text htext level depth ms hms c _ hc
    refine ⟨d, hsa.trans (hab.trans (hbc.trans hcd)), ?_⟩
    simpa [flowMemberTokens] using hd

end

/-! ## Records -/

/-- The text of a record, which ends with a newline, is read to its end as the tokens of the
record. -/
theorem run_pretty {x : Json} {cs : List Char} (hx : IsRecord (isSteady ·.toList) x)
    (hcs : cs = prettyAt 0 x ++ ['\n']) :
    ∃ lexemes, (Scanner.start cs).run (cs.length + 2) = (lexemes, none) ∧
      lexemes.map Lexeme.token = flowTokens x ++ [.streamEnd] := by
  obtain ⟨hopen, htokens⟩ := prettyAt_record 0 hx
  have hstart :
      Inside (Scanner.start cs) ('\x7b' :: ((prettyAt 0 x).tail ++ ['\n'])) true 0 [] := by
    refine ⟨rfl, rfl, fun k hk => ?_, rfl, rfl, ?_, rfl, rfl⟩
    · cases List.mem_singleton.1 hk
    · rw [hopen] at hcs
      exact hcs
  obtain ⟨a, hsa, ha⟩ := hstart.openRoot
  obtain ⟨b, hab, hb⟩ := reads_flowRecord _ 0 0 x hx a _ ha
  obtain ⟨n, hn, hrun⟩ := hsa.trans hab
  have hsteps : cs.length + 2 = n + ((cs.length - n) + 2) := by
    have hle : n + b.cursor.rest.length ≤ cs.length := hn
    omega
  obtain ⟨lexemes, hfinish, hread⟩ := hb.finish (cs.length - n)
  refine ⟨lexemes, ?_, ?_⟩
  · rw [hsteps, hrun, hfinish]
  · rw [hread, htokens]
    rfl

end Cadastre.Yaml
