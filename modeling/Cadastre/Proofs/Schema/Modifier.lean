import Cadastre.Proofs.Text.Word
import Cadastre.Schema.Column

/-!
# Where a type ends

A type is cut off before the first modifier, and a modifier is told from a longer word by what comes
after it. What is cut off is therefore a type on its own: no modifier begins in it, and none begins in
it either when it is followed by another modifier, because the words of a phrase never meet across
that border.
-/

namespace Cadastre.Schema

open Text

variable {cs t s rest word : List Char} {phrase : List (List Char)}

/-- A text is empty or begins with a blank character. -/
def Apart (cs : List Char) : Prop := Stops (fun c => !isBlank c) cs

/-- A text does not end with a blank character. -/
def Ends (cs : List Char) : Prop := Stops isBlank cs.reverse

theorem Apart.stops_isWord (h : Apart cs) : Stops isWord cs := by
  intro c hc
  have hblank : isBlank c = true := by simpa using h c hc
  exact isWord_of_isBlank hblank

theorem Ends.of_append (h : Ends (t ++ cs)) : Ends cs := by
  unfold Ends at h ⊢
  rw [List.reverse_append] at h
  exact h.mono (List.prefix_append _ _)

/-- Blank characters are dropped from a text in front of what follows it, unless there are no others
in it. -/
theorem trimStart_append_of_ends (h : Ends t) (hne : t ≠ []) (s : List Char) :
    trimStart (t ++ s) = trimStart t ++ s ∧ Ends (trimStart t) := by
  have hkept : trimStart t ≠ [] := by
    intro hnil
    obtain ⟨t, c, rfl⟩ := (List.eq_nil_or_concat t).resolve_left hne
    have hc : isBlank c = false := by
      rw [Ends, List.concat_eq_append, List.reverse_append] at h
      exact stops_cons.1 h
    have hall := List.dropWhile_eq_nil_iff.1 hnil c (by simp)
    rw [hc] at hall
    cases hall
  refine ⟨?_, ?_⟩
  · unfold trimStart at hkept ⊢
    rw [List.dropWhile_append, if_neg (by simpa using hkept)]
  · obtain ⟨w, -, hw, -⟩ := exists_blank_append_trimStart t
    exact Ends.of_append (hw ▸ h)

/-- After a blank character in it, a text goes on with others. -/
theorem trimStart_append_of_blank {c : Char} (h : Ends (c :: t)) (hc : isBlank c = true)
    (s : List Char) : trimStart (t ++ s) = trimStart t ++ s ∧ Ends (trimStart t) := by
  have hne : t ≠ [] := by
    rintro rfl
    have hlast : isBlank c = false := stops_cons.1 h
    rw [hlast] at hc
    cases hc
  exact trimStart_append_of_ends (Ends.of_append (t := [c]) h) hne s

/-! ## Phrases -/

/-- A word is read before a blank character as it is read at the end of a text. -/
theorem dropWord?_append (hword : ∀ c ∈ word, isBlank c = false) (hs : Apart s) (t : List Char) :
    dropWord? word (t ++ s) = (dropWord? word t).map (· ++ s) := by
  induction word generalizing t with
  | nil => rfl
  | cons d word ih =>
    cases t with
    | nil =>
      cases s with
      | nil => rfl
      | cons c s =>
        have hc : isBlank c = true := by simpa using stops_cons.1 hs
        have hne : foldLetter c ≠ d := by
          rintro rfl
          have hd := hword (foldLetter c) List.mem_cons_self
          rw [foldLetter_of_isBlank hc, hc] at hd
          cases hd
        simp [dropWord?, hne]
    | cons c t =>
      simp only [List.cons_append, dropWord?]
      split
      · exact ih (fun c hc => hword c (List.mem_cons_of_mem d hc)) t
      · rfl

theorem dropWord?_append_of_some (h : dropWord? word t = some rest) (s : List Char) :
    dropWord? word (t ++ s) = some (rest ++ s) := by
  obtain ⟨w, hw, rfl⟩ := dropWord?_eq_some_iff.1 h
  exact dropWord?_eq_some_iff.2 ⟨w, hw, List.append_assoc w rest s⟩

theorem Ends.of_dropWord? (ht : Ends t) (h : dropWord? word t = some rest) : Ends rest := by
  obtain ⟨w, -, rfl⟩ := dropWord?_eq_some_iff.1 h
  exact ht.of_append

theorem dropBlanks?_append (h : Ends t) (hne : t ≠ []) (s : List Char) :
    dropBlanks? (t ++ s) = (dropBlanks? t).map (· ++ s) := by
  cases t with
  | nil => exact absurd rfl hne
  | cons c t =>
    simp only [List.cons_append, dropBlanks?]
    split
    · next hc =>
      have htrim := (trimStart_append_of_ends h hne s).1
      have hdrop : ∀ cs, trimStart (c :: cs) = trimStart cs :=
        fun cs => List.dropWhile_cons_of_pos hc
      rw [List.cons_append, hdrop, hdrop] at htrim
      rw [htrim, Option.map_some]
    · rfl

theorem Ends.of_dropBlanks? (ht : Ends t) (h : dropBlanks? t = some rest) : Ends rest := by
  obtain ⟨w, -, -, rfl, -⟩ := dropBlanks?_eq_some_iff.1 h
  exact ht.of_append

theorem dropPhrase?_cons_cons (w v : List Char) (phrase : List (List Char)) (cs : List Char) :
    dropPhrase? (w :: v :: phrase) cs =
      ((dropWord? w cs).bind dropBlanks?).bind (dropPhrase? (v :: phrase)) :=
  rfl

theorem dropPhrase?_of_dropWord?_eq_none (h : dropWord? word cs = none) :
    dropPhrase? (word :: phrase) cs = none := by
  cases phrase with
  | nil => exact h
  | cons v phrase => rw [dropPhrase?_cons_cons, h]; rfl

/-- A phrase that stands at the start of a text stands there whatever follows the text. -/
theorem dropPhrase?_append_of_some (ht : Ends t) (h : dropPhrase? phrase t = some rest)
    (s : List Char) : dropPhrase? phrase (t ++ s) = some (rest ++ s) := by
  induction phrase generalizing t with
  | nil => simpa [dropPhrase?] using h
  | cons w phrase ih =>
    cases phrase with
    | nil => exact dropWord?_append_of_some h s
    | cons v phrase =>
      simp only [dropPhrase?_cons_cons, Option.bind_eq_some_iff] at h
      obtain ⟨b, ⟨a, ha, hb⟩, hrest⟩ := h
      have hne : a ≠ [] := by
        rintro rfl
        cases hb
      have hends := ht.of_dropWord? ha
      have hblanks := dropBlanks?_append hends hne s
      rw [dropPhrase?_cons_cons, dropWord?_append_of_some ha, Option.bind_some, hblanks, hb]
      exact ih (hends.of_dropBlanks? hb) hrest

/-- A phrase stands at the start of a text just if it stands at the start of what the text is
followed by, when none of its later words begins there. -/
theorem dropPhrase?_append (hphrase : ∀ w ∈ phrase, ∀ c ∈ w, isBlank c = false) (ht : Ends t)
    (hs : Apart s) (hnext : ∀ w ∈ phrase.tail, dropWord? w (trimStart s) = none) :
    dropPhrase? phrase (t ++ s) = (dropPhrase? phrase t).map (· ++ s) := by
  induction phrase generalizing t with
  | nil => rfl
  | cons w phrase ih =>
    have hword := hphrase w List.mem_cons_self
    have hlater : ∀ w ∈ phrase, ∀ c ∈ w, isBlank c = false :=
      fun v hv => hphrase v (List.mem_cons_of_mem w hv)
    cases phrase with
    | nil => exact dropWord?_append hword hs t
    | cons v phrase =>
      rw [dropPhrase?_cons_cons, dropPhrase?_cons_cons, dropWord?_append hword hs t]
      cases ha : dropWord? w t with
      | none => rfl
      | some a =>
        have hends := ht.of_dropWord? ha
        rw [Option.map_some, Option.bind_some, Option.bind_some]
        by_cases hne : a = []
        · -- the first word ends where the text does, so the second one would have to begin after it
          subst hne
          rw [List.nil_append]
          cases hb : dropBlanks? s with
          | none => rfl
          | some b =>
            obtain ⟨gap, -, hgap, rfl, hstop⟩ := dropBlanks?_eq_some_iff.1 hb
            have hv := hnext v List.mem_cons_self
            rw [trimStart_append hgap hstop] at hv
            exact dropPhrase?_of_dropWord?_eq_none hv
        · rw [dropBlanks?_append hends hne s]
          cases hb : dropBlanks? a with
          | none => rfl
          | some b =>
            exact ih hlater (hends.of_dropBlanks? hb) fun u hu =>
              hnext u (List.mem_cons_of_mem v hu)

/-! ## Modifiers -/

theorem startsWord_eq_false_iff : startsWord cs = false ↔ Stops isWord cs := by
  cases cs with
  | nil => simp [startsWord, Stops]
  | cons c cs => rw [stops_cons]; rfl

theorem startsWord_append (hs : Apart s) (t : List Char) :
    startsWord (t ++ s) = startsWord t := by
  cases t with
  | nil => exact startsWord_eq_false_iff.2 hs.stops_isWord
  | cons c t => rfl

theorem startsPhrase_append_of_eq_true (ht : Ends t) (hs : Apart s)
    (h : startsPhrase phrase t = true) : startsPhrase phrase (t ++ s) = true := by
  obtain ⟨rest, hrest, hstop⟩ := (Option.any_eq_true _ _).1 h
  rw [startsPhrase, dropPhrase?_append_of_some ht hrest, Option.any_some, startsWord_append hs]
  exact hstop

theorem startsPhrase_append (hphrase : ∀ w ∈ phrase, ∀ c ∈ w, isBlank c = false) (ht : Ends t)
    (hs : Apart s) (hnext : ∀ w ∈ phrase.tail, dropWord? w (trimStart s) = none) :
    startsPhrase phrase (t ++ s) = startsPhrase phrase t := by
  rw [startsPhrase, startsPhrase, dropPhrase?_append hphrase ht hs hnext]
  cases dropPhrase? phrase t with
  | none => rfl
  | some rest => simp only [Option.map_some, Option.any_some, startsWord_append hs]

theorem startsModifier_append_of_eq_true (ht : Ends t) (hs : Apart s)
    (h : startsModifier t = true) : startsModifier (t ++ s) = true := by
  obtain ⟨m, hm, hstarts⟩ := List.any_eq_true.1 h
  exact List.any_eq_true.2 ⟨m, hm, startsPhrase_append_of_eq_true ht hs hstarts⟩

/-- What a column that may not be null says after its type. -/
def notNull : List Char := [' ', 'N', 'O', 'T', ' ', 'N', 'U', 'L', 'L']

theorem apart_notNull : Apart notNull := stops_cons.2 (by decide)

/-- No modifier ends with the first words of `NOT NULL`. -/
theorem startsModifier_append_notNull (ht : Ends t) :
    startsModifier (t ++ notNull) = startsModifier t := by
  have hwords : ∀ m ∈ modifiers, ∀ w ∈ m, ∀ c ∈ w, isBlank c = false := by
    have hall : (modifiers.all fun m => m.all fun w => w.all fun c => !isBlank c) = true := by
      decide
    simpa only [List.all_eq_true, Bool.not_eq_true'] using hall
  have hnext : ∀ m ∈ modifiers, ∀ w ∈ m.tail, dropWord? w (trimStart notNull) = none := by
    decide
  rw [Bool.eq_iff_iff]
  simp only [startsModifier, List.any_eq_true]
  refine exists_congr fun m => and_congr_right fun hm => ?_
  rw [startsPhrase_append (hwords m hm) ht apart_notNull (hnext m hm)]

/-! ## Types -/

theorem beforeModifier_cons {c : Char} :
    beforeModifier (c :: cs) =
      if isBlank c && startsModifier (trimStart cs) then [] else c :: beforeModifier cs :=
  rfl

/-- A text that is kept as a type in front of another text is kept as a type on its own. -/
theorem beforeModifier_eq_self (ht : Ends t) (hs : Apart s) (h : t <+: beforeModifier (t ++ s)) :
    beforeModifier t = t := by
  induction t with
  | nil => rfl
  | cons c t ih =>
    rw [List.cons_append, beforeModifier_cons] at h
    split at h
    · simp at h
    · next hno =>
      have hends : Ends t := Ends.of_append (t := [c]) ht
      rw [beforeModifier_cons, if_neg, ih hends (List.cons_prefix_cons.1 h).2]
      intro hyes
      obtain ⟨hc, hstarts⟩ := (Bool.and_eq_true _ _).mp hyes
      obtain ⟨htrim, hkept⟩ := trimStart_append_of_blank ht hc s
      refine hno ((Bool.and_eq_true _ _).mpr ⟨hc, ?_⟩)
      rw [htrim]
      exact startsModifier_append_of_eq_true hkept hs hstarts

/-- A type is read in full before `NOT NULL`. -/
theorem beforeModifier_append_notNull (ht : Ends t) (h : beforeModifier t = t) :
    beforeModifier (t ++ notNull) = t := by
  induction t with
  | nil => decide
  | cons c t ih =>
    rw [beforeModifier_cons] at h
    split at h
    · cases h
    · next hno =>
      have hends : Ends t := Ends.of_append (t := [c]) ht
      rw [List.cons_append, beforeModifier_cons, if_neg, ih hends (List.cons.inj h).2]
      intro hyes
      obtain ⟨hc, hstarts⟩ := (Bool.and_eq_true _ _).mp hyes
      obtain ⟨htrim, hkept⟩ := trimStart_append_of_blank ht hc notNull
      rw [htrim, startsModifier_append_notNull hkept] at hstarts
      exact hno ((Bool.and_eq_true _ _).mpr ⟨hc, hstarts⟩)

/-! ## `NOT NULL` -/

theorem saysNotNull_append_notNull (t : List Char) (inWord : Bool) :
    saysNotNull inWord (t ++ notNull) = true := by
  induction t generalizing inWord with
  | nil => cases inWord <;> decide
  | cons c t ih => rw [List.cons_append, saysNotNull, ih, Bool.or_true]

/-- What a text says is said whatever follows it. -/
theorem saysNotNull_append_of_eq_true (ht : Ends t) (hs : Apart s) {inWord : Bool}
    (h : saysNotNull inWord t = true) : saysNotNull inWord (t ++ s) = true := by
  induction t generalizing inWord with
  | nil => cases h
  | cons c t ih =>
    rw [saysNotNull, Bool.or_eq_true, Bool.and_eq_true] at h
    rw [List.cons_append, saysNotNull, Bool.or_eq_true, Bool.and_eq_true]
    rcases h with ⟨hbound, hstarts⟩ | hlater
    · exact .inl ⟨hbound, startsPhrase_append_of_eq_true ht hs hstarts⟩
    · exact .inr (ih (Ends.of_append (t := [c]) ht) hlater)

end Cadastre.Schema
