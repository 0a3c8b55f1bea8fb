import Cadastre.Proofs.Text.Digits
import Cadastre.Proofs.Yaml.Lines
import Cadastre.Proofs.Yaml.Record

/-!
# Scanning a written record

A record that is written in block layout is read as its tokens. Strings have the style that their
characters allow, and each member and item goes on up to the line of the next one.
-/

namespace Cadastre.Yaml

open Scanner
open Text (Stops stops_cons)

variable {s t : Scanner} {cs text rest : List Char} {n column : Nat} {i : Int}
  {is columns : List Int} {tokens : List Token}

/-! ## The start of a line -/

/-- A text begins with the indentation of a token that stands no further to the right than a
column. -/
def StartsLine (column : Nat) (text : List Char) : Prop :=
  ∃ n rest, text = List.replicate n ' ' ++ rest ∧ n ≤ column ∧ StartsToken rest

theorem StartsLine.mono {wider : Nat} (h : StartsLine column text) (hle : column ≤ wider) :
    StartsLine wider text := by
  obtain ⟨n, rest, htext, hn, hrest⟩ := h
  exact ⟨n, rest, htext, hn.trans hle, hrest⟩

theorem eq_of_startsToken {m n : Nat} {a b : List Char} (ha : StartsToken a) (hb : StartsToken b)
    (h : List.replicate m ' ' ++ a = List.replicate n ' ' ++ b) : m = n ∧ a = b := by
  have hno : ∀ {cs : List Char}, StartsToken cs → ∀ more, cs ≠ ' ' :: more := by
    rintro cs hcs more rfl
    exact absurd (startsToken_cons.1 hcs).1 (by decide)
  induction m generalizing n with
  | zero =>
    cases n with
    | zero => exact ⟨rfl, h⟩
    | succ n => exact absurd h (hno ha _)
  | succ m ih =>
    cases n with
    | zero => exact absurd h.symm (hno hb _)
    | succ n =>
      obtain ⟨rfl, hrest⟩ := ih (List.cons.inj h).2
      exact ⟨rfl, hrest⟩

/-- A state in front of the line with which a text begins. -/
def AwaitsLine (s : Scanner) (text : List Char) (columns : List Int) (tokens : List Token) : Prop :=
  ∀ n rest, text = List.replicate n ' ' ++ rest → StartsToken rest →
    Awaits s rest n columns tokens

theorem awaitsLine_of_awaits (hrest : StartsToken rest) (h : Awaits s rest n columns tokens) :
    AwaitsLine s (List.replicate n ' ' ++ rest) columns tokens := by
  intro m more htext hmore
  obtain ⟨rfl, rfl⟩ := eq_of_startsToken hrest hmore htext
  exact h

/-- A collection to the right of the next line is closed. -/
theorem AwaitsLine.close (h : AwaitsLine s text (i :: is) tokens) (htext : StartsLine column text)
    (hi : column < i) : AwaitsLine s text is (tokens ++ [.blockEnd]) := by
  intro n rest heq hrest
  obtain ⟨m, more, heq', hm, hmore⟩ := htext
  obtain ⟨rfl, -⟩ := eq_of_startsToken hrest hmore (heq.symm.trans heq')
  exact (h n rest heq hrest).close (by omega)

/-! ## Strings -/

/-- The style in which a string is written. -/
def stringStyle (s : String) : Style :=
  let cs := s.toList
  let a := analyse cs
  if cs.any (· == '\n') then
    if a.block then .literal else .double
  else if a.plain && !needsQuotes s then .plain
  else if a.single then .single
  else .double

theorem isBreak_of_isPrintable {ch : Char} (hprint : isPrintable ch = true)
    (hbreak : isBreak ch = true) : ch = '\n' ∨ isSeparator ch = true := by
  simp only [isBreak, Bool.or_eq_true, beq_iff_eq] at hbreak
  rcases hbreak with (((rfl | rfl) | rfl) | rfl) | rfl
  · exact .inl rfl
  · exact absurd hprint (by decide)
  · exact absurd hprint (by decide)
  · exact .inr rfl
  · exact .inr rfl

theorem notMem_tab (h : cs.any (fun c => !isPrintable c) = false) : '\t' ∉ cs := by
  intro htab
  exact absurd (List.any_eq_false.1 h '\t' htab) (by decide)

theorem lined_of_analyse (h : (analyse cs).block = true) : Lined cs := by
  simp only [analyse, Bool.not_eq_true', Bool.or_eq_false_iff] at h
  obtain ⟨⟨-, hspecial⟩, -⟩ := h
  refine ⟨fun ch hch hbreak => isBreak_of_isPrintable ?_ hbreak, notMem_tab hspecial⟩
  simpa using List.any_eq_false.1 hspecial ch hch

theorem tidy_of_analyse (h : (analyse cs).single = true) (hline : '\n' ∉ cs) : Tidy cs := by
  simp only [analyse, Bool.not_eq_true', Bool.or_eq_false_iff] at h
  obtain ⟨⟨hspace, hspecial⟩, hbreak⟩ := h
  refine ⟨fun ch hch hch' => ?_, notMem_tab hspecial, hspace, hbreak⟩
  have hprintable := List.any_eq_false.1 hspecial ch hch
  rcases isBreak_of_isPrintable (by simpa using hprintable) hch' with rfl | h
  · exact absurd hch hline
  · exact h

theorem endLine_eq (cs : List Char) : endLine cs = cs ++ closing cs := by
  rw [endLine, closing]
  cases hlast : cs.getLast? with
  | none =>
    obtain rfl : cs = [] := by simpa using hlast
    rfl
  | some ch =>
    cases hch : isBreak ch with
    | false => simp [hch]
    | true => simp [hch]

theorem closing_literal {indent : Nat} (hne : cs ≠ []) :
    closing (' ' :: literal indent cs) = closing cs := by
  have hbody : literalBody indent true cs ≠ [] := by
    intro hnil
    rw [← List.getLast?_eq_none_iff, getLast?_literalBody, List.getLast?_eq_none_iff] at hnil
    exact hne hnil
  have hsplit : ' ' :: literal indent cs =
      (' ' :: '|' :: ((if isHinted cs then ['2'] else []) ++ ((chompOf cs).mark ++ ['\n']))) ++
        literalBody indent true cs := by
    rw [literal_eq]
    simp
  rw [hsplit, closing_append hbody, closing, getLast?_literalBody, closing]

theorem closing_quoted {quote : Char} (hquote : isBreak quote = false) (body : List Char) :
    closing (' ' :: quote :: (body ++ [quote])) = ['\n'] := by
  have hsplit : ' ' :: quote :: (body ++ [quote]) = (' ' :: quote :: body) ++ [quote] := rfl
  rw [hsplit, closing_append (List.cons_ne_nil _ _), closing]
  simp [hquote]

theorem closing_space (hline : ∀ ch ∈ cs, isBreak ch = false) : closing (' ' :: cs) = ['\n'] :=
  closing_line (List.cons_ne_nil _ _) (List.forall_mem_cons.2 ⟨rfl, hline⟩)

theorem startsToken_of_analyse (h : (analyse cs).plain = true) :
    startsAsMark cs = false ∧ StartsToken cs := by
  have hplain := plainly_of_analyse h
  simp only [analyse, Bool.not_eq_true', Bool.or_eq_false_iff] at h
  obtain ⟨⟨⟨⟨⟨⟨⟨-, -, hspecial⟩, -⟩, -⟩, -⟩, -⟩, hmark⟩, -⟩ := h
  refine ⟨hmark, fun ch hch => ⟨?_, hplain.head_ne ch hch, ?_⟩⟩
  · have hstops : Stops isGapOrBreak (cs ++ []) := hplain.stops
    rw [List.append_nil] at hstops
    exact hstops ch hch
  · rintro rfl
    exact absurd (List.any_eq_false.1 hspecial _ (List.mem_of_mem_head? hch)) (by decide)

/-- A string between quotes behind a colon. -/
theorem Scanner.Behind.quotedString {quote : Char} {body : List Char} {v : String}
    (hquote : quote = '\'' ∨ quote = '"') (hbody : Spells quote body v.toList)
    (hrest : StartsToken rest)
    (h : Behind s (endLine (' ' :: quote :: (body ++ [quote])) ++ (List.replicate n ' ' ++ rest))
      columns tokens) :
    ∃ t, Reaches s t ∧
      Awaits t rest n columns (tokens ++ [.scalar (quoteStyle quote) v]) := by
  have hbreak : isBreak quote = false := by rcases hquote with rfl | rfl <;> rfl
  rw [endLine_eq, closing_quoted hbreak] at h
  have hvalue : String.ofList v.toList = v := String.ofList_toList
  rw [← hvalue]
  refine Behind.quoted hquote hbody hrest ?_
  simpa using h

/-- A string behind a colon, in a mapping that stands in some column. -/
theorem Scanner.Behind.string (v : String) (htext : StartsLine column text)
    (h : Behind s (endLine (' ' :: stringText (column + 2) v) ++ text) (column :: is) tokens) :
    ∃ t, Reaches s t ∧
      AwaitsLine t text (column :: is) (tokens ++ [.scalar (stringStyle v) v]) := by
  obtain ⟨n, rest, rfl, hn, hrest⟩ := htext
  have hvalue : String.ofList v.toList = v := String.ofList_toList
  suffices ∃ t, Reaches s t ∧
      Awaits t rest n (column :: is) (tokens ++ [.scalar (stringStyle v) v]) by
    obtain ⟨t, hreaches, ht⟩ := this
    exact ⟨t, hreaches, awaitsLine_of_awaits hrest ht⟩
  by_cases hlines : v.toList.any (· == '\n') = true
  · have hne : v.toList ≠ [] := by
      intro hnil
      rw [hnil] at hlines
      cases hlines
    by_cases hblock : (analyse v.toList).block = true
    · have htext : stringText (column + 2) v = Yaml.literal (column + 2) v.toList := by
        simp [stringText, hlines, hblock]
      have hstyle : stringStyle v = .literal := by simp [stringStyle, hlines, hblock]
      rw [htext, endLine_eq, closing_literal hne] at h
      rw [hstyle, ← hvalue]
      refine Behind.literal (lined_of_analyse hblock) hne hrest (by omega) ?_
      simpa using h
    · have htext : stringText (column + 2) v = doubleQuoted v.toList := by
        simp [stringText, hlines, hblock]
      have hstyle : stringStyle v = .double := by simp [stringStyle, hlines, hblock]
      rw [htext] at h
      rw [hstyle]
      exact Behind.quotedString (.inr rfl) (spells_doubleChars _) hrest h
  · have hline : '\n' ∉ v.toList := by simpa using hlines
    by_cases hplain : ((analyse v.toList).plain && !needsQuotes v) = true
    · have htext : stringText (column + 2) v = v.toList := by
        simp [stringText, hlines, hplain]
      have hstyle : stringStyle v = .plain := by simp [stringStyle, hlines, hplain]
      obtain ⟨hanalyse, -⟩ := Bool.and_eq_true_iff.1 hplain
      have hplainly := plainly_of_analyse hanalyse
      obtain ⟨hmark, hstart⟩ := startsToken_of_analyse hanalyse
      rw [htext, endLine_eq, closing_space hplainly.lines] at h
      rw [hstyle, ← hvalue]
      refine Behind.plain hplainly hmark hstart hrest (by omega) ?_
      simpa using h
    · by_cases hsingle : (analyse v.toList).single = true
      · have htext : stringText (column + 2) v = singleQuoted (column + 2) v.toList := by
          simp [stringText, hlines, hplain, hsingle]
        have hstyle : stringStyle v = .single := by simp [stringStyle, hlines, hplain, hsingle]
        rw [htext] at h
        rw [hstyle]
        exact Behind.quotedString (.inl rfl)
          (spells_singleBody (Nat.succ_pos _) (tidy_of_analyse hsingle hline)) hrest h
      · have htext : stringText (column + 2) v = doubleQuoted v.toList := by
          simp [stringText, hlines, hplain, hsingle]
        have hstyle : stringStyle v = .double := by simp [stringStyle, hlines, hplain, hsingle]
        rw [htext] at h
        rw [hstyle]
        exact Behind.quotedString (.inr rfl) (spells_doubleChars _) hrest h

/-- A word behind a colon. -/
theorem Scanner.Behind.word {w : List Char} (hne : w ≠ []) (hw : ∀ x ∈ w, x.isAlphanum = true)
    (htext : StartsLine column text)
    (h : Behind s (' ' :: w ++ ['\n'] ++ text) (column :: is) tokens) :
    ∃ t, Reaches s t ∧
      AwaitsLine t text (column :: is) (tokens ++ [.scalar .plain (String.ofList w)]) := by
  obtain ⟨n, rest, rfl, hn, hrest⟩ := htext
  obtain ⟨ch, more, rfl⟩ := List.exists_cons_of_ne_nil hne
  have hch := hw ch List.mem_cons_self
  have hstart : StartsToken (ch :: more) := startsToken_cons.2
    ⟨isGapOrBreak_of_isAlphanum hch, ne_of_isAlphanum hch rfl, ne_of_isAlphanum hch rfl⟩
  obtain ⟨t, hreaches, ht⟩ := Behind.plain (plainly_of_isAlphanum hne hw)
    (startsAsMark_of_isAlphanum hch more) hstart hrest (Int.ofNat_le.2 hn) (by simpa using h)
  exact ⟨t, hreaches, awaitsLine_of_awaits hrest ht⟩

/-! ## Keys -/

theorem keyText_of_isWord {k : String} (hk : isWord k = true) (indent : Nat) :
    keyText indent k = k.toList ++ [':'] := by
  obtain ⟨-, hletters, -, hshort, hplain, hquotes⟩ := isWord_iff.1 hk
  have hline : k.toList.any (· == '\n') = false := by
    rw [List.any_eq_false]
    intro x hx
    simpa using ne_of_isAlphanum (hletters x hx) rfl
  simp [keyText, stringText, hshort, hline, hplain, hquotes]

theorem startsToken_of_isWord {k : String} (hk : isWord k = true) (rest : List Char) :
    StartsToken (k.toList ++ rest) := by
  obtain ⟨hne, hletters, -⟩ := isWord_iff.1 hk
  obtain ⟨ch, more, hcons⟩ := List.exists_cons_of_ne_nil hne
  have hch := hletters ch (by rw [hcons]; exact List.mem_cons_self)
  rw [hcons]
  exact startsToken_cons.2
    ⟨isGapOrBreak_of_isAlphanum hch, ne_of_isAlphanum hch rfl, ne_of_isAlphanum hch rfl⟩

/-! ## Values, items and members -/

theorem startsLine_memberLines {kind : String → Prop} {ms : List (String × Json)}
    (hms : AreEntries kind ms) (htext : StartsLine column text) :
    StartsLine column (memberLines column ms ++ text) := by
  cases ms with
  | nil => exact htext
  | cons m ms =>
    obtain ⟨k, x⟩ := m
    refine ⟨column, k.toList ++ ':' :: (valueText column (isLongKey k) x ++
      (memberLines column ms ++ text)), ?_, le_rfl, startsToken_of_isWord hms.1 _⟩
    rw [memberLines, keyText_of_isWord hms.1]
    simp [padding]

theorem startsLine_itemLines (xs : List Json) (htext : StartsLine column text) :
    StartsLine column (itemLines column xs ++ text) := by
  cases xs with
  | nil => exact htext
  | cons x xs =>
    refine ⟨column, '-' :: (valueText column true x ++ (itemLines column xs ++ text)), ?_, le_rfl,
      startsToken_cons.2 ⟨rfl, by decide, by decide⟩⟩
    rw [itemLines]
    simp [padding]

/-- The value of a member stands behind a blank or begins a new line. -/
theorem atGapOrEnd_valueText {kind : String → Prop} {x : Json} (hx : IsEntry kind x)
    (rest : List Char) : atGapOrEnd (valueText column false x ++ rest) = true := by
  match x, hx with
  | .bool b, _ => rfl
  | .number (.whole n), _ => rfl
  | .text v, _ =>
    rw [valueText, endLine_eq]
    rfl
  | .array [], _ => rfl
  | .array (x :: xs), _ => rfl

variable {kind : String → Prop}

mutual

/-- A value behind a colon, in a mapping that stands in some column. -/
theorem reads_value (text : List Char) (column : Nat) (htext : StartsLine column text) :
    ∀ x, IsEntry kind x → ∀ s is tokens,
      Behind s (valueText column false x ++ text) (column :: is) tokens →
      ∃ t, Reaches s t ∧
        AwaitsLine t text (column :: is) (tokens ++ blockTokens stringStyle x)
  | .bool b, _, s, is, tokens, h => by
    cases b
    · exact Behind.word (List.cons_ne_nil _ _) (List.all_eq_true.1 rfl) htext h
    · exact Behind.word (List.cons_ne_nil _ _) (List.all_eq_true.1 rfl) htext h
  | .number (.whole n), hn, s, is, tokens, h => by
    have hn : ¬ n < 0 := Int.not_lt.2 hn
    have habs : n.natAbs = n.toNat := by omega
    rw [valueText, numberText, if_neg hn, habs] at h
    exact Behind.word Nat.toDigits_ne_nil Text.isAlphanum_of_mem_toDigits htext h
  | .text v, _, s, is, tokens, h => Behind.string v htext h
  | .array [], _, s, is, tokens, h => by
    obtain ⟨n, rest, rfl, hn, hrest⟩ := htext
    obtain ⟨t, hreaches, ht⟩ := Behind.emptyList hrest h
    exact ⟨t, hreaches, awaitsLine_of_awaits hrest ht⟩
  | .array (x :: xs), hxs, s, is, tokens, h => by
    have hlines : valueText column false (.array (x :: xs)) ++ text =
        '\n' :: (List.replicate column ' ' ++
          '-' :: (valueText column true x ++ (itemLines column xs ++ text))) := by
      simp [valueText, padding]
    have hdash : StartsToken ('-' :: (valueText column true x ++ (itemLines column xs ++ text))) :=
      startsToken_cons.2 ⟨rfl, by decide, by decide⟩
    have hitems : itemLines column (x :: xs) ++ text = List.replicate column ' ' ++
        '-' :: (valueText column true x ++ (itemLines column xs ++ text)) := by
      simp [itemLines, padding]
    rw [hlines] at h
    have hline := awaitsLine_of_awaits hdash (h.toOutside.awaits_newLine h.rest hdash)
    rw [← hitems] at hline
    exact reads_items text column htext (x :: xs) hxs s is tokens hline

/-- Items, each on a line of its own. -/
theorem reads_items (text : List Char) (column : Nat) (htext : StartsLine column text) :
    ∀ xs, AreRecords kind xs → ∀ s is tokens,
      AwaitsLine s (itemLines column xs ++ text) (column :: is) tokens →
      ∃ t, Reaches s t ∧
        AwaitsLine t text (column :: is) (tokens ++ itemTokens stringStyle xs)
  | [], _, s, is, tokens, h => ⟨s, .refl s, by simpa [itemTokens, itemLines] using h⟩
  | .object ((k, x) :: ms) :: xs, ⟨⟨hk, hx, hms⟩, hxs⟩, s, is, tokens, h => by
    obtain ⟨hne, hletters, hbytes, hshort, -, -⟩ := isWord_iff.1 hk
    have hnext := startsLine_itemLines xs htext
    have hinner : StartsLine (column + 2) (itemLines column xs ++ text) := hnext.mono (by omega)
    have hlines : itemLines column (.object ((k, x) :: ms) :: xs) ++ text =
        List.replicate column ' ' ++ '-' :: ' ' :: (k.toList ++ ':' ::
          (valueText (column + 2) false x ++ (memberLines (column + 2) ms ++
            (itemLines column xs ++ text)))) := by
      simp [itemLines, valueText, padding, keyText_of_isWord hk, hshort]
    have hdash := h column _ hlines (startsToken_cons.2 ⟨rfl, by decide, by decide⟩)
    obtain ⟨a, hsa, ha⟩ := hdash.dash (startsToken_of_isWord hk _)
    obtain ⟨b, hab, hb⟩ :=
      ha.firstKey hne hletters (by omega) (atGapOrEnd_valueText hx _) (by omega)
    obtain ⟨c, hbc, hc⟩ :=
      reads_value _ (column + 2) (startsLine_memberLines hms hinner) x hx b _ _ hb
    obtain ⟨d, hcd, hd⟩ := reads_members _ (column + 2) hinner ms hms c _ _ hc
    have hd' := hd.close hnext (by omega)
    obtain ⟨e, hde, he⟩ := reads_items text column htext xs hxs d _ _ hd'
    refine ⟨e, hsa.trans (hab.trans (hbc.trans (hcd.trans hde))), ?_⟩
    simpa [itemTokens, blockTokens, memberTokens] using he

/-- Members, each on a line of its own. -/
theorem reads_members (text : List Char) (column : Nat) (htext : StartsLine column text) :
    ∀ ms, AreEntries kind ms → ∀ s is tokens,
      AwaitsLine s (memberLines column ms ++ text) (column :: is) tokens →
      ∃ t, Reaches s t ∧
        AwaitsLine t text (column :: is) (tokens ++ memberTokens stringStyle ms)
  | [], _, s, is, tokens, h => ⟨s, .refl s, by simpa [memberTokens, memberLines] using h⟩
  | (k, x) :: ms, ⟨hk, hx, hms⟩, s, is, tokens, h => by
    obtain ⟨hne, hletters, hbytes, hshort, -, -⟩ := isWord_iff.1 hk
    have hlines : memberLines column ((k, x) :: ms) ++ text = List.replicate column ' ' ++
        (k.toList ++ ':' :: (valueText column false x ++ (memberLines column ms ++ text))) := by
      simp [memberLines, padding, keyText_of_isWord hk, hshort]
    have hkey := h column _ hlines (startsToken_of_isWord hk _)
    obtain ⟨a, hsa, ha⟩ := hkey.nextKey hne hletters (by omega) (atGapOrEnd_valueText hx _)
    obtain ⟨b, hab, hb⟩ := reads_value _ column (startsLine_memberLines hms htext) x hx a _ _ ha
    obtain ⟨c, hbc, hc⟩ := reads_members text column htext ms hms b _ _ hb
    refine ⟨c, hsa.trans (hab.trans hbc), ?_⟩
    simpa [memberTokens] using hc

end

/-! ## Records -/

theorem startsLine_nil : StartsLine column [] := ⟨0, [], rfl, Nat.zero_le _, startsToken_nil⟩

/-- The text of a record is read to its end as the tokens of the record. -/
theorem run_write {x : Json} (hx : IsRecord kind x) :
    ∃ lexemes,
      (Scanner.start (write x).toList).run ((write x).toList.length + 2) = (lexemes, none) ∧
      lexemes.map Lexeme.token = blockTokens stringStyle x ++ [.streamEnd] := by
  match x, hx with
  | .object ((k, x) :: ms), ⟨hk, hx, hms⟩ =>
    obtain ⟨hne, hletters, hbytes, hshort, -, -⟩ := isWord_iff.1 hk
    obtain ⟨cs, hcs⟩ : ∃ cs, (write (.object ((k, x) :: ms))).toList = cs := ⟨_, rfl⟩
    have hlines : cs = k.toList ++ ':' :: (valueText 0 false x ++ (memberLines 0 ms ++ [])) := by
      rw [← hcs]
      simp [write, memberLines, padding, keyText_of_isWord hk, hshort]
    have hout : Outside (Scanner.start cs) [-1] [] := ⟨rfl, rfl, rfl, rfl⟩
    have hstart : Awaits (Scanner.start cs) cs 0 [-1] [] :=
      hout.awaits_here rfl rfl rfl (hlines ▸ startsToken_of_isWord hk _)
    rw [hlines] at hstart
    obtain ⟨a, hsa, ha⟩ :=
      hstart.firstKey hne hletters (by omega) (atGapOrEnd_valueText hx _) (by omega)
    obtain ⟨b, hab, hb⟩ :=
      reads_value _ 0 (startsLine_memberLines hms startsLine_nil) x hx a _ _ ha
    obtain ⟨c, hbc, hc⟩ := reads_members [] 0 startsLine_nil ms hms b _ _ hb
    have hend := hc 0 [] rfl startsToken_nil
    obtain ⟨n, hn, hrun⟩ := hsa.trans (hab.trans hbc)
    have hsteps : cs.length + 2 = n + ((cs.length - n) + 2) := by
      have hle : n + c.cursor.rest.length ≤ cs.length := hlines ▸ hn
      omega
    have hinner : ∀ j ∈ [((0 : Nat) : Int)], (-1 : Int) < j := by decide
    obtain ⟨lexemes, hfinish, htokens⟩ := hend.finish hinner rfl (Int.le_refl _) (cs.length - n)
    rw [← hlines] at hrun
    refine ⟨lexemes, ?_, ?_⟩
    · rw [hcs, hsteps, hrun, hfinish]
    · rw [htokens]
      simp [blockTokens, memberTokens]

end Cadastre.Yaml
