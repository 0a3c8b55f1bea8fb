import Cadastre.Proofs.Schema.Constraint

/-!
# Modifiers that a type keeps

The type of a column is its definition up to the first blank character with a modifier behind it. So
behind a blank character a type holds no modifier, and no `NOT` that is left of a `NOT NULL`. Nothing
stands before the start of a definition: a modifier there is kept, and its line gives a column with a
type like any other line.
-/

namespace Cadastre.Schema

open Text

variable {cs m w rest front line name definition type : List Char} {phrase : List (List Char)}
  {c : Char} {column : Column}

/-! ## Phrases -/

/-- A text spells a phrase: its words in any letter case, with blank characters between them. -/
inductive Spells : List (List Char) → List Char → Prop where
  | word (w : List Char) : Spells [w.map foldLetter] w
  | more {w gap rest : List Char} {phrase : List (List Char)} (hne : gap ≠ []) (hgap : Blank gap)
      (hrest : Spells phrase rest) : Spells (w.map foldLetter :: phrase) (w ++ (gap ++ rest))

/-- A phrase stands at the start of a text, in whole words. -/
def BeginsWith (phrase : List (List Char)) (cs : List Char) : Prop :=
  ∃ m rest, Spells phrase m ∧ Stops isWord rest ∧ cs = m ++ rest

/-- A modifier stands at the start of a text, in whole words. -/
def BeginsWithModifier (cs : List Char) : Prop := ∃ m ∈ modifiers, BeginsWith m cs

theorem words_of_modifiers :
    ∀ m ∈ modifiers, m ≠ [] ∧ ∀ w ∈ m, w ≠ [] ∧ ∀ c ∈ w, isBlank c = false := by
  have hall : (modifiers.all fun m =>
      !m.isEmpty && m.all fun w => !w.isEmpty && w.all fun c => !isBlank c) = true := by
    decide
  simpa [List.all_eq_true] using hall

theorem letters_of_modifiers {p : List (List Char)} {word : List Char} (hp : p ∈ modifiers)
    (hword : word ∈ p) : ∀ w ∈ [word], w ≠ [] ∧ ∀ c ∈ w, isBlank c = false := by
  intro w hw
  rw [List.mem_singleton.1 hw]
  exact (words_of_modifiers p hp).2 word hword

theorem spells_singleton_iff {word : List Char} : Spells [word] w ↔ w.map foldLetter = word := by
  constructor
  · intro h
    cases h with
    | word => rfl
    | more _ _ hrest => cases hrest
  · rintro rfl
    exact .word w

/-- No blank character stands for a letter of a word. -/
theorem isBlank_of_map_foldLetter (h : ∀ d ∈ w.map foldLetter, isBlank d = false) :
    ∀ c ∈ w, isBlank c = false := by
  intro c hc
  by_contra hblank
  have hfold : isBlank (foldLetter c) = false := h _ (List.mem_map_of_mem hc)
  rw [foldLetter_of_isBlank (Bool.eq_true_of_not_eq_false hblank)] at hfold
  exact hblank hfold

theorem Spells.exists_cons (h : Spells phrase m)
    (hwords : ∀ w ∈ phrase, w ≠ [] ∧ ∀ c ∈ w, isBlank c = false) :
    ∃ c cs, m = c :: cs ∧ isBlank c = false := by
  have hfirst : ∀ w after : List Char, w.map foldLetter ∈ phrase →
      ∃ c cs, w ++ after = c :: cs ∧ isBlank c = false := by
    intro w after hmem
    obtain ⟨hne, hblank⟩ := hwords _ hmem
    obtain ⟨c, w, rfl⟩ := List.exists_cons_of_ne_nil (l := w) (by simpa using hne)
    exact ⟨c, w ++ after, rfl, isBlank_of_map_foldLetter hblank c List.mem_cons_self⟩
  cases h with
  | word =>
    have hword := hfirst m [] List.mem_cons_self
    rwa [List.append_nil] at hword
  | more => exact hfirst _ _ List.mem_cons_self

theorem Spells.trimmed (h : Spells phrase m)
    (hwords : ∀ w ∈ phrase, w ≠ [] ∧ ∀ c ∈ w, isBlank c = false) : Trimmed m := by
  refine ⟨?_, ?_⟩
  · obtain ⟨c, cs, rfl, hc⟩ := h.exists_cons hwords
    exact stops_cons.2 hc
  · induction h with
    | word w =>
      have hw := isBlank_of_map_foldLetter (hwords _ List.mem_cons_self).2
      exact fun c hc => hw c (List.mem_reverse.1 (List.mem_of_mem_head? hc))
    | more _ _ hrest ih =>
      have hlater := fun w hw => hwords w (List.mem_cons_of_mem _ hw)
      obtain ⟨c, cs, rfl, -⟩ := hrest.exists_cons hlater
      rw [← List.append_assoc, List.reverse_append]
      exact (ih hlater).append (by simp) _

/-- Dropping a phrase leaves what follows a text that spells it. -/
theorem dropPhrase?_eq_some_iff (hne : phrase ≠ [])
    (hwords : ∀ w ∈ phrase, w ≠ [] ∧ ∀ c ∈ w, isBlank c = false) :
    dropPhrase? phrase cs = some rest ↔ ∃ m, Spells phrase m ∧ cs = m ++ rest := by
  induction phrase generalizing cs with
  | nil => exact absurd rfl hne
  | cons word phrase ih =>
    cases phrase with
    | nil =>
      simp only [spells_singleton_iff]
      exact dropWord?_eq_some_iff
    | cons next phrase =>
      have hlater : ∀ w ∈ next :: phrase, w ≠ [] ∧ ∀ c ∈ w, isBlank c = false :=
        fun w hw => hwords w (List.mem_cons_of_mem word hw)
      simp only [dropPhrase?_cons_cons, Option.bind_eq_some_iff, ih (List.cons_ne_nil _ _) hlater]
      constructor
      · rintro ⟨after, ⟨tail, hword, hblanks⟩, m, hm, rfl⟩
        obtain ⟨w, rfl, rfl⟩ := dropWord?_eq_some_iff.1 hword
        obtain ⟨gap, hgapne, hgap, rfl, -⟩ := dropBlanks?_eq_some_iff.1 hblanks
        exact ⟨w ++ (gap ++ m), .more hgapne hgap hm, by simp only [List.append_assoc]⟩
      · rintro ⟨m, hm, rfl⟩
        cases hm with
        | @more w gap m _ hgapne hgap hm =>
          obtain ⟨c, m, rfl, hc⟩ := hm.exists_cons hlater
          refine ⟨c :: m ++ rest, ⟨gap ++ (c :: m ++ rest), ?_, ?_⟩, c :: m, hm, rfl⟩
          · exact dropWord?_eq_some_iff.2 ⟨w, rfl, by simp only [List.append_assoc]⟩
          · exact dropBlanks?_eq_some_iff.2 ⟨gap, hgapne, hgap, rfl, stops_cons.2 hc⟩

theorem startsPhrase_iff (hne : phrase ≠ [])
    (hwords : ∀ w ∈ phrase, w ≠ [] ∧ ∀ c ∈ w, isBlank c = false) :
    startsPhrase phrase cs = true ↔ BeginsWith phrase cs := by
  unfold startsPhrase BeginsWith
  simp only [Option.any_eq_true, Bool.not_eq_true', startsWord_eq_false_iff,
    dropPhrase?_eq_some_iff hne hwords]
  constructor
  · rintro ⟨rest, ⟨m, hm, hcs⟩, hstop⟩
    exact ⟨m, rest, hm, hstop, hcs⟩
  · rintro ⟨m, rest, hm, hstop, hcs⟩
    exact ⟨rest, ⟨m, hm, hcs⟩, hstop⟩

theorem startsModifier_iff : startsModifier cs = true ↔ BeginsWithModifier cs := by
  unfold startsModifier BeginsWithModifier
  rw [List.any_eq_true]
  refine exists_congr fun m => and_congr_right fun hm => ?_
  obtain ⟨hne, hwords⟩ := words_of_modifiers m hm
  exact startsPhrase_iff hne hwords

theorem BeginsWithModifier.stops_isBlank (h : BeginsWithModifier cs) : Stops isBlank cs := by
  obtain ⟨m, hm, w, rest, hspells, -, rfl⟩ := h
  obtain ⟨c, w, rfl, hc⟩ := hspells.exists_cons (words_of_modifiers m hm).2
  exact stops_cons.2 hc

/-! ## What a type keeps -/

theorem beforeModifier_append_of_not_blank (hw : ∀ c ∈ w, isBlank c = false) (cs : List Char) :
    beforeModifier (w ++ cs) = w ++ beforeModifier cs := by
  induction w with
  | nil => rfl
  | cons c w ih =>
    obtain ⟨hc, hw⟩ := List.forall_mem_cons.1 hw
    rw [List.cons_append, beforeModifier_cons, hc, ih hw]
    rfl

/-- Nothing is kept from blank characters on that have a modifier behind them. -/
theorem beforeModifier_append_modifier {gap : List Char} (hne : gap ≠ []) (hgap : Blank gap)
    (h : BeginsWithModifier rest) : beforeModifier (gap ++ rest) = [] := by
  obtain ⟨c, gap, rfl⟩ := List.exists_cons_of_ne_nil hne
  obtain ⟨hc, hgap⟩ := List.forall_mem_cons.1 hgap
  rw [List.cons_append, beforeModifier_cons, trimStart_append hgap h.stops_isBlank, hc,
    startsModifier_iff.2 h]
  rfl

theorem length_beforeModifier_le (hc : isBlank c = true) (h : BeginsWithModifier rest)
    (front : List Char) : (beforeModifier (front ++ c :: rest)).length ≤ front.length := by
  induction front with
  | nil =>
    have hnone : beforeModifier ([c] ++ rest) = [] :=
      beforeModifier_append_modifier (by simp) (by simpa [Blank]) h
    rw [List.nil_append, ← List.singleton_append, hnone]
  | cons d front ih =>
    rw [List.cons_append, beforeModifier_cons]
    split
    · exact Nat.zero_le _
    · exact Nat.succ_le_succ ih

/-- Blank characters are kept unless a modifier stands behind them. -/
theorem beforeModifier_append_blank {gap : List Char} (hgap : Blank gap) (hcs : Stops isBlank cs)
    (h : startsModifier cs = false) : beforeModifier (gap ++ cs) = gap ++ beforeModifier cs := by
  induction gap with
  | nil => rfl
  | cons c gap ih =>
    obtain ⟨-, hgap⟩ := List.forall_mem_cons.1 hgap
    rw [List.cons_append, beforeModifier_cons, trimStart_append hgap hcs, h, Bool.and_false, ih hgap]
    rfl

/-- What stands at the start of a definition as it is kept stands there in its type too. -/
theorem exists_trim_beforeModifier (hw : Trimmed w) (hne : w ≠ [])
    (h : beforeModifier (w ++ rest) = w ++ beforeModifier rest) :
    ∃ q, q <+: rest ∧ trim (beforeModifier (w ++ rest)) = w ++ q := by
  obtain ⟨q, hq, htrim⟩ := exists_trim_append_of_trimmed hw hne (beforeModifier rest)
  obtain ⟨s, -, hrest⟩ := exists_beforeModifier_append rest
  exact ⟨q, hq.trans ⟨s, hrest.symm⟩, by rw [h, htrim]⟩

/-! ## Modifiers in a type -/

/-- The words `NOT` and `NULL`. -/
def notNullPhrase : List (List Char) := ["not".toList, "null".toList]

/-- Behind its first characters a type holds a modifier in whole words, or is the word `NOT` of a
`NOT NULL` in the definition that it is cut from. -/
def HoldsModifierAfter (front type definition : List Char) : Prop :=
  (∃ rest, type = front ++ rest ∧ BeginsWithModifier rest) ∨
    ∃ w rest, type = front ++ w ∧ Spells ["not".toList] w ∧ definition = front ++ (w ++ rest) ∧
      BeginsWith notNullPhrase (w ++ rest)

/-- A text is empty or ends with a blank character. -/
def EndsBlank (cs : List Char) : Prop := ∀ c ∈ cs.getLast?, isBlank c = true

/-- The second word of a modifier is cut off if it is `NULL`, and is no modifier otherwise. -/
theorem two_words_cases {word : List Char} (hm : word :: phrase ∈ modifiers) (hne : phrase ≠ []) :
    word :: phrase = notNullPhrase ∨ phrase = ["key".toList] := by
  have hall : ∀ m ∈ modifiers, m.tail = [] ∨ m = notNullPhrase ∨ m.tail = ["key".toList] := by
    decide
  exact (hall _ hm).resolve_left hne

theorem startsModifier_key (hw : w.map foldLetter = "key".toList) (cs : List Char) :
    startsModifier (w ++ cs) = false := by
  obtain ⟨c, w, rfl⟩ := List.exists_cons_of_ne_nil (l := w) (by rintro rfl; cases hw)
  have hc : foldLetter c = 'k' := (List.cons.inj hw).1
  simp [startsModifier, modifiers, startsPhrase, dropPhrase?, dropWord?, hc]

/-- A modifier that is kept in front of what follows it stands at the start of the type. -/
theorem holdsModifierAfter_of_kept {p : List (List Char)} (hp : p ∈ modifiers) (hm : Spells p m)
    (hstop : Stops isWord rest) (hkeeps : beforeModifier (m ++ rest) = m ++ beforeModifier rest) :
    HoldsModifierAfter [] (trim (beforeModifier (m ++ rest))) (m ++ rest) := by
  have hwords := (words_of_modifiers p hp).2
  obtain ⟨c, cs, hcons, -⟩ := hm.exists_cons hwords
  obtain ⟨q, hq, htype⟩ := exists_trim_beforeModifier (hm.trimmed hwords) (by simp [hcons]) hkeeps
  exact .inl ⟨m ++ q, htype, p, hp, m, q, hm, hstop.mono hq, rfl⟩

/-- The type of a definition that begins with `NOT NULL` is the word `NOT`: `NULL` is a modifier
itself. -/
theorem trim_beforeModifier_notNull {gap v : List Char} (hne : gap ≠ []) (hgap : Blank gap)
    (hw : Spells ["not".toList] w) (hv : Spells ["null".toList] v) (hstop : Stops isWord rest) :
    trim (beforeModifier (w ++ (gap ++ (v ++ rest)))) = w := by
  have hletters := letters_of_modifiers (p := notNullPhrase) (by decide) List.mem_cons_self
  have hblank : ∀ c ∈ w, isBlank c = false :=
    isBlank_of_map_foldLetter (spells_singleton_iff.1 hw ▸ (hletters _ List.mem_cons_self).2)
  have hcut : beforeModifier (gap ++ (v ++ rest)) = [] :=
    beforeModifier_append_modifier hne hgap ⟨_, by decide, v, rest, hv, hstop, rfl⟩
  rw [beforeModifier_append_of_not_blank hblank, hcut, List.append_nil,
    (hw.trimmed hletters).trim_eq]

/-- A modifier of two words with `KEY` as the second is kept: no modifier begins with `KEY`. -/
theorem beforeModifier_append_key {gap v : List Char} (hgap : Blank gap)
    (hw : ∀ c ∈ w, isBlank c = false) (hv : Spells ["key".toList] v) (rest : List Char) :
    beforeModifier (w ++ (gap ++ (v ++ rest))) = w ++ (gap ++ (v ++ beforeModifier rest)) := by
  have hletters := letters_of_modifiers (p := ["primary".toList, "key".toList]) (by decide)
    (List.mem_cons_of_mem _ List.mem_cons_self)
  have hword := spells_singleton_iff.1 hv
  have hblank : ∀ c ∈ v, isBlank c = false :=
    isBlank_of_map_foldLetter (hword ▸ (hletters _ List.mem_cons_self).2)
  have hstart : Stops isBlank (v ++ rest) := by
    obtain ⟨c, cs, rfl, hc⟩ := hv.exists_cons hletters
    exact stops_cons.2 hc
  rw [beforeModifier_append_of_not_blank hw,
    beforeModifier_append_blank hgap hstart (startsModifier_key hword rest),
    beforeModifier_append_of_not_blank hblank]

/-- A modifier at the start of a definition is kept in the type, all of it or its `NOT`. -/
theorem holdsModifierAfter_nil (h : BeginsWithModifier definition) :
    HoldsModifierAfter [] (trim (beforeModifier definition)) definition := by
  obtain ⟨p, hp, m, rest, hm, hstop, rfl⟩ := h
  have hwords := (words_of_modifiers p hp).2
  cases hm with
  | word =>
    have hblank := isBlank_of_map_foldLetter (hwords _ List.mem_cons_self).2
    exact holdsModifierAfter_of_kept hp (.word m) hstop
      (beforeModifier_append_of_not_blank hblank rest)
  | @more w gap v phrase hne hgap hv =>
    have hphrase : phrase ≠ [] := by
      rintro rfl
      cases hv
    have htext : w ++ (gap ++ v) ++ rest = w ++ (gap ++ (v ++ rest)) := by simp
    rcases two_words_cases hp hphrase with hnotNull | rfl
    · obtain ⟨hnot, rfl⟩ := List.cons.inj hnotNull
      have hspells : Spells notNullPhrase (w ++ (gap ++ v)) := hnotNull ▸ .more hne hgap hv
      have hw : Spells ["not".toList] w := spells_singleton_iff.2 hnot
      refine .inr ⟨w, gap ++ (v ++ rest), ?_, hw, htext, _, rest, hspells, hstop, htext.symm⟩
      rw [htext, trim_beforeModifier_notNull hne hgap hw hv hstop]
      rfl
    · have hblank := isBlank_of_map_foldLetter (hwords _ List.mem_cons_self).2
      refine holdsModifierAfter_of_kept hp (.more hne hgap hv) hstop ?_
      rw [htext, beforeModifier_append_key hgap hblank hv rest]
      simp

/-- At its start and behind its blank characters, a type holds a modifier just where its definition
begins with one. -/
theorem holdsModifierAfter_iff (hdefinition : Trimmed definition) (hfront : EndsBlank front) :
    HoldsModifierAfter front (trim (beforeModifier definition)) definition ↔
      front = [] ∧ BeginsWithModifier definition := by
  obtain ⟨s, hs, htext, hprefix⟩ := exists_type_append hdefinition.1
  have hends : Ends (trim (beforeModifier definition)) := (trimmed_trim _).2
  generalize htype : trim (beforeModifier definition) = type at htext hprefix hends
  -- a modifier in the type is one in the definition, in the same place
  have hplace : HoldsModifierAfter front type definition →
      ∃ rest, definition = front ++ rest ∧ BeginsWithModifier rest ∧ front.length < type.length := by
    rintro (⟨rest, rfl, hrest⟩ | ⟨w, rest, rfl, hw, hafter, hrest⟩)
    · have hne : rest ≠ [] := by
        rintro rfl
        exact absurd (startsModifier_iff.2 hrest) (by decide)
      refine ⟨rest ++ s, by rw [htext, List.append_assoc], startsModifier_iff.1 ?_, ?_⟩
      · exact startsModifier_append_of_eq_true hends.of_append hs (startsModifier_iff.2 hrest)
      · rw [List.length_append]
        exact Nat.lt_add_of_pos_right (List.length_pos_of_ne_nil hne)
    · have hne : w ≠ [] := by
        rintro rfl
        cases spells_singleton_iff.1 hw
      refine ⟨w ++ rest, hafter, ⟨notNullPhrase, by decide, hrest⟩, ?_⟩
      rw [List.length_append]
      exact Nat.lt_add_of_pos_right (List.length_pos_of_ne_nil hne)
  constructor
  · intro h
    obtain ⟨rest, hrest, hmodifier, hlength⟩ := hplace h
    obtain rfl | ⟨front, c, rfl⟩ := List.eq_nil_or_concat front
    · exact ⟨rfl, by rwa [hrest]⟩
    · have hc : isBlank c = true := hfront c (by simp)
      have hle := length_beforeModifier_le hc hmodifier front
      have hsplit : front ++ c :: rest = definition := by simp [hrest]
      rw [hsplit] at hle
      have hkept := hprefix.length_le
      simp only [List.concat_eq_append, List.length_append, List.length_singleton] at hlength
      omega
  · rintro ⟨rfl, h⟩
    rw [← htype]
    exact holdsModifierAfter_nil h

/-- A line gives a column just if it declares something, and then the column has a type. A type holds
a modifier, at its start or behind a blank character, just at its start and if the definition begins
with one. -/
theorem modifier_in_type_iff (line : List Char) :
    ((∃ column, column? line = some column) ↔ ∃ name definition, Declares line name definition) ∧
    ∀ name definition, Declares line name definition → ∀ column, column? line = some column →
      column.type ≠ "" ∧
      ∀ front, EndsBlank front →
        (HoldsModifierAfter front column.type.toList definition ↔
          front = [] ∧ BeginsWithModifier definition) := by
  refine ⟨exists_column?_iff, fun name definition hdeclares column hcolumn => ?_⟩
  obtain ⟨_, _, hread, rfl⟩ := column?_eq_some_iff.1 hcolumn
  obtain ⟨rfl, rfl⟩ := hread.2.unique hdeclares.2
  have htrimmed := hdeclares.2.trimmed (trimmed_declaration line)
  have htype := type_ne_nil htrimmed.1 hdeclares.2.ne_nil
  refine ⟨by simpa using htype, fun front hfront => ?_⟩
  rw [String.toList_ofList]
  exact holdsModifierAfter_iff htrimmed hfront

/-- A line with a definition that is `NOT NULL` and nothing else. -/
def bareLine : List Char := "flag NOT NULL".toList

theorem declares_bareLine : Declares bareLine "flag".toList "NOT NULL".toList :=
  ⟨by decide +kernel, nameAndDefinition?_eq_some_iff.1 (by decide +kernel)⟩

theorem beginsWithModifier_notNull : BeginsWithModifier "NOT NULL".toList :=
  startsModifier_iff.1 (by decide +kernel)

theorem modifier_in_type_iff_bare :
    Declares bareLine "flag".toList "NOT NULL".toList ∧ EndsBlank [] ∧
      ∃ column, column? bareLine = some column ∧ column.type ≠ "" ∧
        HoldsModifierAfter [] column.type.toList "NOT NULL".toList := by
  have hfront : EndsBlank [] := by simp [EndsBlank]
  obtain ⟨hgives, hholds⟩ := modifier_in_type_iff bareLine
  obtain ⟨column, hcolumn⟩ := hgives.2 ⟨_, _, declares_bareLine⟩
  obtain ⟨htype, hmodifier⟩ := hholds _ _ declares_bareLine column hcolumn
  exact ⟨declares_bareLine, hfront, column, hcolumn, htype,
    (hmodifier [] hfront).2 ⟨rfl, beginsWithModifier_notNull⟩⟩

/-- The line gives a column all the same, of the type `NOT`. -/
theorem modifier_in_type_bareLine :
    ¬ ∀ line : List Char,
      (∀ column, column? line = some column → column.type ≠ "" ∧
        ∀ name definition, Declares line name definition →
          ∀ front, EndsBlank front → ¬ HoldsModifierAfter front column.type.toList definition) ∧
      ∀ name definition, Declares line name definition → BeginsWithModifier definition →
        column? line = none := by
  intro hnone
  have hcolumn : column? bareLine = some ⟨"flag", "NOT", false⟩ := by decide +kernel
  rw [(hnone bareLine).2 _ _ declares_bareLine beginsWithModifier_notNull] at hcolumn
  cases hcolumn

end Cadastre.Schema
