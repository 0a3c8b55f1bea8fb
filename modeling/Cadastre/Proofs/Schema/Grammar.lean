import Cadastre.Proofs.Text.Word
import Cadastre.Schema.Tables

/-!
# The texts of table headers

Names and headers of tables as sets of texts. A header is read exactly where one of these texts
stands, and nothing after its parenthesis decides whether it is one.
-/

namespace Cadastre.Schema

open Text

variable {cs rest part name : List Char}

/-! ## Names -/

/-- A part of a name. -/
inductive IsPart : List Char → Prop where
  /-- A text without quotes, between quotes. -/
  | quoted {cs : List Char} (hne : cs ≠ []) (hcs : ∀ c ∈ cs, (c != '"') = true) :
      IsPart ('"' :: (cs ++ ['"']))
  /-- A word. -/
  | word {cs : List Char} (hne : cs ≠ []) (hcs : ∀ c ∈ cs, isWord c = true) : IsPart cs

/-- The name of a table as it is written. -/
inductive IsTableName : List Char → Prop where
  /-- One part. -/
  | one {part : List Char} (h : IsPart part) : IsTableName part
  /-- Two parts with a point between them. -/
  | two {first second : List Char} (hfirst : IsPart first) (hsecond : IsPart second) :
      IsTableName (first ++ '.' :: second)

theorem isPart_of_namePart? (h : namePart? cs = some (part, rest)) :
    IsPart part ∧ cs = part ++ rest := by
  cases cs with
  | nil => simp [namePart?] at h
  | cons c cs =>
    simp only [namePart?] at h
    split at h
    · next hc =>
      obtain rfl : c = '"' := by simpa using hc
      split at h
      · next d ds q r hw hd =>
        obtain ⟨rfl, rfl⟩ := Prod.mk.inj (Option.some.inj h)
        have hs := stops_dropWhile (· != '"') cs
        rw [hd] at hs
        obtain rfl : q = '"' := by simpa using stops_cons.1 hs
        refine ⟨.quoted (by simp) fun x hx => all_takeWhile (· != '"') cs x (hw ▸ hx), ?_⟩
        have hsplit : d :: ds ++ '"' :: r = cs := by
          rw [← hw, ← hd, List.takeWhile_append_dropWhile]
        simp [← hsplit]
      · simp at h
    · split at h
      · next hc =>
        obtain ⟨rfl, rfl⟩ := Prod.mk.inj (Option.some.inj h)
        refine ⟨.word (by simp) fun x hx => ?_, ?_⟩
        · rcases List.mem_cons.1 hx with rfl | hx
          · exact hc
          · exact all_takeWhile _ _ x hx
        · rw [List.cons_append, List.takeWhile_append_dropWhile]
      · simp at h

/-- A part is read in full before a character that belongs to no word. -/
theorem namePart?_append (h : IsPart part) (hs : Stops isWord rest) :
    namePart? (part ++ rest) = some (part, rest) := by
  rcases h with ⟨hne, hcs⟩ | ⟨hne, hcs⟩
  · rename_i cs
    have hq : Stops (· != '"') ('"' :: rest) := stops_cons.2 (by simp)
    have ht := takeWhile_append_stops hcs hq
    have hd := dropWhile_append_stops hcs hq
    obtain ⟨c, cs, rfl⟩ := List.exists_cons_of_ne_nil hne
    simp only [List.cons_append] at ht hd
    simp [namePart?, ht, hd]
  · obtain ⟨c, part, rfl⟩ := List.exists_cons_of_ne_nil hne
    have hc : isWord c = true := hcs c (by simp)
    have hquote : c ≠ '"' := by
      rintro rfl
      exact absurd hc (by decide +kernel)
    have hpart : ∀ d ∈ part, isWord d = true := fun d hd => hcs d (by simp [hd])
    simp [namePart?, hquote, hc, takeWhile_append_stops hpart hs, dropWhile_append_stops hpart hs]

theorem isTableName_of_tableName? (h : tableName? cs = some (name, rest)) :
    IsTableName name ∧ cs = name ++ rest := by
  obtain ⟨⟨first, more⟩, hfirst, he⟩ := Option.map_eq_some_iff.1 h
  obtain ⟨hpart, rfl⟩ := isPart_of_namePart? hfirst
  simp only at he
  split at he
  · next after =>
    split at he
    · next second r hsecond =>
      obtain ⟨rfl, rfl⟩ := Prod.mk.inj he
      obtain ⟨hpart', rfl⟩ := isPart_of_namePart? hsecond
      exact ⟨.two hpart hpart', by simp⟩
    · obtain ⟨rfl, rfl⟩ := Prod.mk.inj he
      exact ⟨.one hpart, rfl⟩
  · obtain ⟨rfl, rfl⟩ := Prod.mk.inj he
    exact ⟨.one hpart, rfl⟩

/-- A name is read in full before a character that neither belongs to a word nor is a point. -/
theorem tableName?_append (h : IsTableName name) (hs : Stops isWord rest)
    (hpoint : Stops (· == '.') rest) : tableName? (name ++ rest) = some (name, rest) := by
  cases h with
  | one h =>
    rw [tableName?, namePart?_append h hs]
    cases rest with
    | nil => rfl
    | cons c rest =>
      have hc : c ≠ '.' := by simpa using stops_cons.1 hpoint
      simp [hc]
  | two hfirst hsecond =>
    rename_i first second
    have hword : isWord '.' = false := by decide +kernel
    have hafter : namePart? (first ++ '.' :: (second ++ rest)) =
        some (first, '.' :: (second ++ rest)) := namePart?_append hfirst (stops_cons.2 hword)
    simp [tableName?, hafter, namePart?_append hsecond hs]

theorem IsPart.stops_isBlank (h : IsPart part) (after : List Char) :
    Stops isBlank (part ++ after) := by
  rcases h with ⟨-, -⟩ | ⟨hne, hcs⟩
  · exact stops_cons.2 (by decide)
  · obtain ⟨c, part, rfl⟩ := List.exists_cons_of_ne_nil hne
    exact stops_cons.2 (isBlank_of_isWord (hcs c (by simp)))

theorem IsTableName.stops_isBlank (h : IsTableName name) (after : List Char) :
    Stops isBlank (name ++ after) := by
  cases h with
  | one h => exact h.stops_isBlank after
  | two hfirst _ =>
    rw [List.append_assoc]
    exact hfirst.stops_isBlank _

/-! ## Headers -/

/-- The text of a header with the name of its table. -/
inductive IsHeader : List Char → List Char → Prop where
  /-- The words in any letter case, blank characters, the name, and a parenthesis. -/
  | mk {words gap name after : List Char} (hwords : words.map foldLetter = headerWords)
      (hne : gap ≠ []) (hgap : Blank gap) (hname : IsTableName name) (hafter : Blank after) :
      IsHeader name (words ++ (gap ++ (name ++ (after ++ ['(']))))

theorem IsHeader.ne_nil {w : List Char} (h : IsHeader name w) : w ≠ [] := by
  obtain ⟨-, -, -, -, -⟩ := h
  simp

/-- Neither a word nor a qualified name goes on after a name in a header. -/
theorem stops_after_name {after : List Char} (h : Blank after) (rest : List Char) :
    Stops isWord (after ++ '(' :: rest) ∧ Stops (· == '.') (after ++ '(' :: rest) := by
  cases after with
  | nil => exact ⟨stops_cons.2 (by decide +kernel), stops_cons.2 (by decide)⟩
  | cons c after =>
    have hc : isBlank c = true := h c (by simp)
    refine ⟨stops_cons.2 (isWord_of_isBlank hc), stops_cons.2 ?_⟩
    have hpoint : c ≠ '.' := by
      rintro rfl
      exact absurd hc (by decide)
    simpa using hpoint

/-- Whether a header stands at the start of a text is decided by its own characters. -/
theorem header?_eq_some_iff :
    header? cs = some (name, rest) ↔ ∃ w, IsHeader name w ∧ cs = w ++ rest := by
  constructor
  · intro h
    simp only [header?, Option.bind_eq_bind, Option.bind_eq_some_iff] at h
    obtain ⟨a, ha, b, hb, ⟨n, c⟩, hc, d, hd, he⟩ := h
    obtain ⟨rfl, rfl⟩ : n = name ∧ d = rest := by simpa using he
    obtain ⟨words, hwords, rfl⟩ := dropWord?_eq_some_iff.1 ha
    obtain ⟨gap, hne, hgap, rfl, -⟩ := dropBlanks?_eq_some_iff.1 hb
    obtain ⟨hname, rfl⟩ := isTableName_of_tableName? hc
    obtain ⟨after, hafter, hc', -⟩ := exists_blank_append_trimStart c
    have hd' : ['('] ++ d = trimStart c := List.isPrefixOf?_eq_some_iff_append_eq.1 hd
    refine ⟨_, .mk hwords hne hgap hname hafter, ?_⟩
    rw [hc', ← hd']
    simp
  · rintro ⟨_, ⟨hwords, hne, hgap, hname, hafter⟩, rfl⟩
    rename_i words gap after
    obtain ⟨hword, hpoint⟩ := stops_after_name hafter rest
    have hw : dropWord? headerWords (words ++ (gap ++ (name ++ (after ++ '(' :: rest)))) =
        some (gap ++ (name ++ (after ++ '(' :: rest))) :=
      dropWord?_eq_some_iff.2 ⟨words, hwords, rfl⟩
    have hg : dropBlanks? (gap ++ (name ++ (after ++ '(' :: rest))) =
        some (name ++ (after ++ '(' :: rest)) :=
      dropBlanks?_eq_some_iff.2 ⟨gap, hne, hgap, rfl, hname.stops_isBlank _⟩
    have ht : trimStart (after ++ '(' :: rest) = '(' :: rest :=
      trimStart_append hafter (stops_cons.2 (by decide))
    simp [header?, hw, hg, tableName?_append hname hword hpoint, ht, List.isPrefixOf?]

/-- No header begins with a blank character. -/
theorem header?_cons_of_isBlank {c : Char} (h : isBlank c = true) : header? (c :: cs) = none := by
  have hc : foldLetter c ≠ 'c' := by
    rw [foldLetter_of_isBlank h]
    rintro rfl
    exact absurd h (by decide)
  simp [header?, headerWords, dropWord?, hc]

end Cadastre.Schema
