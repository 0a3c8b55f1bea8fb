import Cadastre.Proofs.Yaml.BlockLayout
import Cadastre.Proofs.Yaml.FlowLayout

/-!
# Characters of written records

Every character of a record in block layout may stand in a text. So may those of a record that is
written as JSON, if its strings are steady.
-/

namespace Cadastre.Yaml

open Json (prettyAt prettyItems prettyMembers newLine)

variable {ch : Char} {cs : List Char} {kind : String → Prop}

/-! ## Characters -/

theorem isAllowed_of_isPrintable (h : isPrintable ch = true) : isAllowed ch = true := by
  simp only [isPrintable, isAllowed, Bool.or_eq_true, Bool.and_eq_true, beq_iff_eq,
    decide_eq_true_eq] at h ⊢
  omega

/-- The characters of ASCII that can be seen, and the newline. -/
theorem isAllowed_of_ascii (h : 0x20 ≤ ch.toNat ∧ ch.toNat ≤ 0x7e ∨ ch = '\n') :
    isAllowed ch = true := by
  obtain h | rfl := h
  · simp only [isAllowed, Bool.or_eq_true, Bool.and_eq_true, beq_iff_eq, decide_eq_true_eq]
    omega
  · rfl

theorem isAllowed_of_isAlphanum (h : ch.isAlphanum = true) : isAllowed ch = true := by
  have hbounds := toNat_of_isAlphanum h
  exact isAllowed_of_ascii (.inl (by omega))

theorem all_isAllowed_of_isAlphanum (h : ∀ x ∈ cs, x.isAlphanum = true) :
    cs.all isAllowed = true :=
  List.all_eq_true.2 fun x hx => isAllowed_of_isAlphanum (h x hx)

theorem all_isAllowed_of_special (h : cs.any (fun c => !isPrintable c) = false) :
    cs.all isAllowed = true := by
  refine List.all_eq_true.2 fun x hx => isAllowed_of_isPrintable ?_
  simpa using List.any_eq_false.1 h x hx

/-- Hexadecimal digits are letters and digits, in small letters or in capital ones. -/
theorem isAlphanum_of_mem_toDigits {f : Char → Char}
    (hf : ∀ d < 16, (f d.digitChar).isAlphanum = true) (n : Nat) :
    ∀ x ∈ (Nat.toDigits 16 n).map f, x.isAlphanum = true := by
  induction n using Nat.strong_induction_on with
  | _ n ih =>
    by_cases hlt : n < 16
    · rw [Nat.toDigits_of_lt_base hlt, List.map_singleton]
      simpa using hf n hlt
    · rw [Nat.toDigits_of_base_le (by omega) (by omega), List.map_append, List.map_singleton]
      refine List.forall_mem_append.2 ⟨ih (n / 16) (by omega), ?_⟩
      simpa using hf _ (Nat.mod_lt n (show 0 < 16 by omega))

/-! ## Strings in block layout -/

theorem all_literalBody (indent : Nat) (after : Bool) (h : cs.all isAllowed = true) :
    (literalBody indent after cs).all isAllowed = true := by
  induction cs generalizing after with
  | nil => rfl
  | cons ch cs ih =>
    obtain ⟨hch, hcs⟩ := Bool.and_eq_true_iff.1 h
    rw [literalBody]
    split
    · simp [hch, ih true hcs]
    · cases after <;> simp [hch, ih false hcs, isAllowed_of_ascii]

theorem all_literal (indent : Nat) (h : cs.all isAllowed = true) :
    (literal indent cs).all isAllowed = true := by
  have hbody := all_literalBody indent true h
  rw [literal_eq]
  cases isHinted cs <;> cases chompOf cs <;> simp [hbody, Chomp.mark] <;> decide

theorem all_singleBody (indent : Nat) (after : Bool) (h : cs.all isAllowed = true) :
    (singleBody indent after cs).all isAllowed = true := by
  induction cs generalizing after with
  | nil => cases after <;> simp [singleBody, isAllowed_of_ascii]
  | cons ch cs ih =>
    obtain ⟨hch, hcs⟩ := Bool.and_eq_true_iff.1 h
    rw [singleBody]
    split
    · split <;> simp [hch, ih true hcs, isAllowed_of_ascii]
    · have hquote : (if ch == '\'' then [ch, ch] else [ch]).all isAllowed = true := by
        split <;> simp [hch]
      cases after <;> simp only [List.all_append, hquote, ih false hcs] <;> simp [isAllowed_of_ascii]

theorem all_capitalHex (width n : Nat) : (capitalHex width n).all isAllowed = true := by
  have hdigits := all_isAllowed_of_isAlphanum
    (isAlphanum_of_mem_toDigits (f := Char.toUpper) (by decide) n)
  rw [capitalHex]
  simp only [List.all_append, hdigits, Bool.and_true]
  simp [isAllowed_of_ascii]

theorem all_doubleChar (ch : Char) : (doubleChar ch).all isAllowed = true := by
  rw [doubleChar]
  split
  · have hescape : (doubleEscape ch).all isAllowed = true := by
      unfold doubleEscape
      split
      all_goals first
        | rfl
        | skip
      split_ifs <;> simp [all_capitalHex] <;> rfl
    simp [hescape]
    rfl
  · next hplain =>
    simp only [Bool.or_eq_true, Bool.not_eq_true', not_or] at hplain
    simpa using isAllowed_of_isPrintable (by simpa using hplain.1.1.1)

theorem all_doubleQuoted (cs : List Char) : (doubleQuoted cs).all isAllowed = true := by
  have hbody : (cs.flatMap doubleChar).all isAllowed = true := by
    rw [List.all_flatMap]
    exact List.all_eq_true.2 fun x _ => all_doubleChar x
  simp [doubleQuoted, hbody]
  rfl

/-- A string that may stand in some way without escapes. -/
theorem all_of_analyse
    (h : (analyse cs).plain = true ∨ (analyse cs).single = true ∨ (analyse cs).block = true) :
    cs.all isAllowed = true := by
  refine all_isAllowed_of_special ?_
  simp only [analyse, Bool.not_eq_true', Bool.or_eq_false_iff] at h
  obtain ⟨⟨⟨⟨⟨⟨⟨-, -, h⟩, -⟩, -⟩, -⟩, -⟩, -⟩, -⟩ | ⟨⟨-, h⟩, -⟩ | ⟨⟨-, h⟩, -⟩ := h
  · exact h
  · exact h
  · exact h

/-- The characters of a string in block layout, whatever the string is. -/
theorem all_stringText (indent : Nat) (v : String) :
    (stringText indent v).all isAllowed = true := by
  simp only [stringText]
  split_ifs with hlines hblock hplain hsingle
  · exact all_literal indent (all_of_analyse (.inr (.inr hblock)))
  · exact all_doubleQuoted _
  · exact all_of_analyse (.inl (Bool.and_eq_true_iff.1 hplain).1)
  · have hbody := all_singleBody indent false (all_of_analyse (.inr (.inl hsingle)))
    simp [singleQuoted, hbody]
    rfl
  · exact all_doubleQuoted _

theorem all_endLine (h : cs.all isAllowed = true) : (endLine cs).all isAllowed = true := by
  rw [endLine_eq, closing]
  split <;> simp [h, isAllowed_of_ascii]

theorem all_digits (n : Nat) : (Nat.toDigits 10 n).all isAllowed = true :=
  all_isAllowed_of_isAlphanum Text.isAlphanum_of_mem_toDigits

/-! ## Records in block layout -/

theorem all_word {k : String} (hk : isWord k = true) : k.toList.all isAllowed = true :=
  all_isAllowed_of_isAlphanum (isWord_iff.1 hk).2.1

mutual

theorem all_valueText (column : Nat) :
    ∀ x, IsEntry kind x → (valueText column false x).all isAllowed = true
  | .bool b, _ => by cases b <;> rfl
  | .number (.whole n), hn => by
    have hn : ¬ n < 0 := Int.not_lt.2 hn
    rw [valueText, numberText, if_neg hn]
    simp [all_digits, isAllowed_of_ascii]
  | .text v, _ => by
    rw [valueText]
    exact all_endLine (by simp [all_stringText, isAllowed_of_ascii])
  | .array [], _ => rfl
  | .array (x :: xs), hxs => by
    have hitems := all_itemLines column (x :: xs) hxs
    rw [itemLines] at hitems
    rw [valueText]
    simpa [isAllowed_of_ascii] using hitems

theorem all_itemLines (column : Nat) :
    ∀ xs, AreRecords kind xs → (itemLines column xs).all isAllowed = true
  | [], _ => rfl
  | .object ((k, x) :: ms) :: xs, ⟨⟨hk, hx, hms⟩, hxs⟩ => by
    have hvalue := all_valueText (column + 2) x hx
    have hmembers := all_memberLines (column + 2) ms hms
    have hitems := all_itemLines column xs hxs
    obtain ⟨-, -, -, hshort, -⟩ := isWord_iff.1 hk
    rw [itemLines, valueText, keyText_of_isWord hk, hshort]
    simp [padding, all_word hk, hvalue, hmembers, hitems, isAllowed_of_ascii]

theorem all_memberLines (column : Nat) :
    ∀ ms, AreEntries kind ms → (memberLines column ms).all isAllowed = true
  | [], _ => rfl
  | (k, x) :: ms, ⟨hk, hx, hms⟩ => by
    have hvalue := all_valueText column x hx
    have hmembers := all_memberLines column ms hms
    obtain ⟨-, -, -, hshort, -⟩ := isWord_iff.1 hk
    rw [memberLines, keyText_of_isWord hk, hshort]
    simp [padding, all_word hk, hvalue, hmembers, isAllowed_of_ascii]

end

theorem all_write {x : Json} (hx : IsRecord kind x) : (write x).toList.all isAllowed = true := by
  match x, hx with
  | .object (m :: ms), hms =>
    rw [write, String.toList_ofList]
    exact all_memberLines 0 (m :: ms) hms

/-! ## Records as JSON -/

theorem all_escapedChar (h : (isAllowed ch || ch.toNat < 0x20) = true) :
    (Json.escapedChar ch).all isAllowed = true := by
  have hdigits := all_isAllowed_of_isAlphanum
    (isAlphanum_of_mem_toDigits (f := id) (by decide) ch.toNat)
  rw [List.map_id] at hdigits
  unfold Json.escapedChar
  split_ifs with h1 h2 h3 h4 h5 h6 h7 h8
  all_goals first
    | rfl
    | skip
  · simp [Text.hexPadded, Text.hexDigits, hdigits, isAllowed_of_ascii]
  · simp only [decide_eq_false h8, Bool.or_false] at h
    simp [h]

theorem all_steady {v : String} (h : isSteady v.toList = true) :
    (Json.stringText v).all isAllowed = true := by
  have hbody : ∀ cs, isSteady cs = true → (cs.flatMap Json.escapedChar).all isAllowed = true := by
    intro cs
    induction cs with
    | nil => exact fun _ => rfl
    | cons ch cs ih =>
      intro h
      obtain ⟨⟨hch, -⟩, -, hcs⟩ := isSteady_cons.1 h
      rw [List.flatMap_cons, List.all_append, all_escapedChar hch, ih hcs]
      rfl
  simp [Json.stringText, hbody _ h]
  rfl

theorem all_newLine (level : Nat) : (newLine level).all isAllowed = true := by
  simp [newLine, isAllowed_of_ascii]

theorem all_wordText {k : String} (hk : isWord k = true) :
    (Json.stringText k).all isAllowed = true := by
  simp [Json.stringText, flatMap_escapedChar (isWord_iff.1 hk).2.1, all_word hk]
  rfl

mutual

theorem all_prettyAt (level : Nat) :
    ∀ x, IsEntry (isSteady ·.toList) x → (prettyAt level x).all isAllowed = true
  | .bool b, _ => by cases b <;> rfl
  | .number (.whole n), hn => by
    have hn : ¬ n < 0 := Int.not_lt.2 hn
    rw [prettyAt, Json.numberText, Json.wholeText, if_neg hn]
    exact all_digits _
  | .text v, hv => all_steady hv
  | .array [], _ => rfl
  | .array (x :: xs), ⟨hx, hxs⟩ => by
    have hitems := all_prettyItems (level + 1) xs hxs
    rw [prettyAt]
    simp only [List.all_cons, List.all_append, all_newLine, all_prettyRecord (level + 1) x hx,
      hitems]
    rfl

theorem all_prettyRecord (level : Nat) :
    ∀ x, IsRecord (isSteady ·.toList) x → (prettyAt level x).all isAllowed = true
  | .object ((k, x) :: ms), ⟨hk, hx, hms⟩ => by
    have hvalue := all_prettyAt (level + 1) x hx
    have hmembers := all_prettyMembers (level + 1) ms hms
    rw [prettyAt]
    simp only [List.all_cons, List.all_append, all_newLine, all_wordText hk, hvalue, hmembers]
    rfl

theorem all_prettyItems (level : Nat) :
    ∀ xs, AreRecords (isSteady ·.toList) xs → (prettyItems level xs).all isAllowed = true
  | [], _ => rfl
  | x :: xs, ⟨hx, hxs⟩ => by
    rw [prettyItems]
    simp [all_prettyRecord level x hx, all_prettyItems level xs hxs, all_newLine, isAllowed_of_ascii]

theorem all_prettyMembers (level : Nat) :
    ∀ ms, AreEntries (isSteady ·.toList) ms → (prettyMembers level ms).all isAllowed = true
  | [], _ => rfl
  | (k, x) :: ms, ⟨hk, hx, hms⟩ => by
    rw [prettyMembers]
    simp [all_wordText hk, all_prettyAt level x hx, all_prettyMembers level ms hms, all_newLine,
      isAllowed_of_ascii]

end

end Cadastre.Yaml
