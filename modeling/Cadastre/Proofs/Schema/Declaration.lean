import Cadastre.Proofs.Schema.Modifier

/-!
# What a line declares

A line that is no constraint of its table declares a column if a name begins it, perhaps between
quotes, and a definition follows behind blank characters. The column is then named and typed by these
two: the type is what stands in the definition before its first modifier, and never empty.
-/

namespace Cadastre.Schema

open Text

variable {cs w line name definition : List Char} {column : Column}

/-! ## Names and definitions -/

/-- A quote or none. -/
def QuoteOrNone (cs : List Char) : Prop := cs = [] ∨ cs = ['"']

/-- A text is a name, perhaps with a quote on either side, and a definition behind blank characters. -/
inductive NamesDefinition : List Char → List Char → List Char → Prop where
  | mk {opening name closing gap definition : List Char} (hopening : QuoteOrNone opening)
      (hname : name ≠ []) (hword : ∀ c ∈ name, isWord c = true) (hclosing : QuoteOrNone closing)
      (hgap : gap ≠ []) (hblank : Blank gap) (hdefinition : definition ≠ [])
      (hstart : Stops isBlank definition) :
      NamesDefinition (opening ++ (name ++ (closing ++ (gap ++ definition)))) name definition

theorem dropQuote_eq_self (h : Stops (· == '"') cs) : dropQuote cs = cs := by
  unfold dropQuote
  split
  · exact absurd (stops_cons.1 h) (by simp)
  · rfl

theorem exists_quote_append_dropQuote (cs : List Char) :
    ∃ quote, QuoteOrNone quote ∧ cs = quote ++ dropQuote cs := by
  unfold dropQuote
  split
  · exact ⟨['"'], .inr rfl, rfl⟩
  · exact ⟨[], .inl rfl, rfl⟩

theorem dropQuote_append {quote : List Char} (hquote : QuoteOrNone quote)
    (h : Stops (· == '"') cs) : dropQuote (quote ++ cs) = cs := by
  rcases hquote with rfl | rfl
  · exact dropQuote_eq_self h
  · rfl

/-- A name is read up to its end, and blank characters have to follow it. -/
theorem nameAndDefinition?_name {opening closing rest : List Char} (hopening : QuoteOrNone opening)
    (hname : name ≠ []) (hword : ∀ c ∈ name, isWord c = true) (hclosing : QuoteOrNone closing)
    (hstop : Stops isWord (closing ++ rest)) (hquote : Stops (· == '"') rest)
    (hrest : dropBlanks? rest ≠ some []) :
    nameAndDefinition? (opening ++ (name ++ (closing ++ rest))) =
      (dropBlanks? rest).map fun definition => (name, definition) := by
  obtain ⟨c, name, rfl⟩ := List.exists_cons_of_ne_nil hname
  have hc : (c == '"') = false := by
    rw [beq_eq_false_iff_ne]
    rintro rfl
    exact absurd (hword '"' List.mem_cons_self) (by decide +kernel)
  have hfirst : dropQuote (opening ++ (c :: name ++ (closing ++ rest))) =
      c :: name ++ (closing ++ rest) := dropQuote_append hopening (stops_cons.2 hc)
  simp only [nameAndDefinition?, hfirst, takeWhile_append_stops hword hstop,
    dropWhile_append_stops hword hstop, dropQuote_append hclosing hquote]
  rcases hdrop : dropBlanks? rest with - | - | ⟨d, definition⟩
  · rfl
  · exact absurd hdrop hrest
  · rfl

theorem NamesDefinition.read (h : NamesDefinition cs name definition) :
    nameAndDefinition? cs = some (name, definition) := by
  cases h with
  | @mk opening _ closing gap _ hopening hname hword hclosing hgap hblank hdefinition hstart =>
    have hdrop : dropBlanks? (gap ++ definition) = some definition :=
      dropBlanks?_eq_some_iff.2 ⟨gap, hgap, hblank, rfl, hstart⟩
    obtain ⟨b, gap, rfl⟩ := List.exists_cons_of_ne_nil hgap
    have hb : isBlank b = true := hblank b List.mem_cons_self
    have hquote : (b == '"') = false := by
      rw [beq_eq_false_iff_ne]
      rintro rfl
      exact absurd hb (by decide)
    have hstop : Stops isWord (closing ++ (b :: gap ++ definition)) := by
      rcases hclosing with rfl | rfl
      · exact stops_cons.2 (isWord_of_isBlank hb)
      · exact stops_cons.2 (by decide +kernel)
    rw [nameAndDefinition?_name hopening hname hword hclosing hstop (stops_cons.2 hquote)
      (by rw [hdrop]; simpa using hdefinition), hdrop]
    rfl

theorem namesDefinition_of_read (h : nameAndDefinition? cs = some (name, definition)) :
    NamesDefinition cs name definition := by
  simp only [nameAndDefinition?] at h
  split at h
  · next c cs' d definition hname hdefinition =>
    obtain ⟨rfl, rfl⟩ := Prod.mk.inj (Option.some.inj h)
    obtain ⟨opening, hopening, hcs⟩ := exists_quote_append_dropQuote cs
    obtain ⟨closing, hclosing, hrest⟩ :=
      exists_quote_append_dropQuote ((dropQuote cs).dropWhile isWord)
    obtain ⟨gap, hgap, hblank, hafter, hstart⟩ := dropBlanks?_eq_some_iff.1 hdefinition
    generalize htake : (dropQuote cs).takeWhile isWord = name at hname
    have hword : ∀ c ∈ name, isWord c = true := htake ▸ all_takeWhile _ _
    have htext : cs = opening ++ (name ++ (closing ++ (gap ++ d :: definition))) :=
      calc cs = opening ++ dropQuote cs := hcs
        _ = opening ++ (name ++ (dropQuote cs).dropWhile isWord) := by
          rw [← htake, List.takeWhile_append_dropWhile]
        _ = opening ++ (name ++ (closing ++ (gap ++ d :: definition))) := by rw [hrest, hafter]
    rw [htext]
    exact .mk hopening (by simp [hname]) hword hclosing hgap hblank (List.cons_ne_nil _ _) hstart
  · cases h

theorem nameAndDefinition?_eq_some_iff :
    nameAndDefinition? cs = some (name, definition) ↔ NamesDefinition cs name definition :=
  ⟨namesDefinition_of_read, NamesDefinition.read⟩

theorem NamesDefinition.unique {other otherDefinition : List Char}
    (h : NamesDefinition cs name definition) (h' : NamesDefinition cs other otherDefinition) :
    name = other ∧ definition = otherDefinition := by
  have hread := h.read
  rw [h'.read] at hread
  exact (Prod.mk.inj (Option.some.inj hread)).imp Eq.symm Eq.symm

theorem NamesDefinition.name_word (h : NamesDefinition cs name definition) :
    name ≠ [] ∧ ∀ c ∈ name, isWord c = true := by
  obtain ⟨-, hname, hword, -, -, -, -, -⟩ := h
  exact ⟨hname, hword⟩

theorem NamesDefinition.ne_nil (h : NamesDefinition cs name definition) : definition ≠ [] := by
  obtain ⟨-, -, -, -, -, -, hdefinition, -⟩ := h
  exact hdefinition

theorem NamesDefinition.isSuffix (h : NamesDefinition cs name definition) : definition <:+ cs := by
  cases h with
  | @mk opening _ closing gap _ =>
    exact ⟨opening ++ (name ++ (closing ++ gap)), by simp⟩

/-- Without blank characters at the ends of a declaration there are none at those of its
definition. -/
theorem NamesDefinition.trimmed (h : NamesDefinition cs name definition) (hcs : Trimmed cs) :
    Trimmed definition := by
  obtain ⟨-, -, -, -, -, -, -, hstart⟩ := h
  have hends : Ends definition := Ends.of_append (Ends.of_append (Ends.of_append
    (Ends.of_append hcs.2)))
  exact ⟨hstart, hends⟩

/-! ## Declarations -/

theorem trimmed_dropComma (h : Trimmed cs) : Trimmed (dropComma cs) := by
  unfold dropComma
  split
  · exact trimmed_trim _
  · exact h

theorem trimmed_declaration (line : List Char) : Trimmed (declaration line) :=
  trimmed_dropComma (trimmed_trim _)

/-- Without quotes there are none to be taken away. -/
theorem filter_quotes_eq_self (h : '"' ∉ cs) : cs.filter (· != '"') = cs := by
  refine List.filter_eq_self.2 fun d hd => ?_
  rw [bne_iff_ne]
  rintro rfl
  exact h hd

/-- Nothing is taken away from a word. -/
theorem normalize_of_word (h : ∀ d ∈ name, isWord d = true) : normalize name = name := by
  have hblank : ∀ d ∈ name, isBlank d = false := fun d hd => isBlank_of_isWord (h d hd)
  have htrim : trim name = name := by
    refine Trimmed.trim_eq ⟨fun d hd => ?_, fun d hd => ?_⟩
    · exact hblank d (List.mem_of_mem_head? hd)
    · exact hblank d (List.mem_reverse.1 (List.mem_of_mem_head? hd))
  have hquotes : name.filter (· != '"') = name :=
    filter_quotes_eq_self fun hmem => absurd (h '"' hmem) (by decide +kernel)
  have hschema : defaultSchema.isPrefixOf? name = none := by
    cases hp : defaultSchema.isPrefixOf? name with
    | none => rfl
    | some rest =>
      have hpoint : '.' ∈ name := by
        rw [← List.isPrefixOf?_eq_some_iff_append_eq.1 hp]
        exact List.mem_append_left rest (by decide)
      exact absurd (h '.' hpoint) (by decide +kernel)
  rw [normalize, htrim, hquotes, hschema, Option.getD_none]

/-! ## Types -/

theorem exists_beforeModifier_append (cs : List Char) :
    ∃ s, Apart s ∧ cs = beforeModifier cs ++ s := by
  induction cs with
  | nil => exact ⟨[], by simp [Apart, Stops], rfl⟩
  | cons c cs ih =>
    rw [beforeModifier_cons]
    split
    · next h =>
      have hc : isBlank c = true := ((Bool.and_eq_true _ _).mp h).1
      exact ⟨c :: cs, stops_cons.2 (by simp [hc]), rfl⟩
    · obtain ⟨s, hs, hcs⟩ := ih
      exact ⟨s, hs, by rw [List.cons_append, ← hcs]⟩

/-- The type at the start of a definition, and what is left of it. -/
theorem exists_type_append (h : Stops isBlank cs) :
    ∃ s, Apart s ∧ cs = trim (beforeModifier cs) ++ s ∧
      trim (beforeModifier cs) <+: beforeModifier cs := by
  obtain ⟨s, hs, hcs⟩ := exists_beforeModifier_append cs
  obtain ⟨gap, hgap, htype⟩ := exists_trim_append (h.mono ⟨s, hcs.symm⟩)
  refine ⟨gap ++ s, ?_, by rw [← List.append_assoc, ← htype, ← hcs], ⟨gap, htype.symm⟩⟩
  cases gap with
  | nil => exact hs
  | cons c gap => exact stops_cons.2 (by simp [hgap c List.mem_cons_self])

/-- Trimming a text takes nothing from the trimmed text that it begins with. -/
theorem exists_trim_append_of_trimmed (h : Trimmed w) (hne : w ≠ []) (r : List Char) :
    ∃ q, q <+: r ∧ trim (w ++ r) = w ++ q := by
  obtain ⟨gap, hgap, hcs⟩ := exists_trim_append (h.1.append hne r)
  rcases List.append_eq_append_iff.1 hcs with ⟨q, htrim, hr⟩ | ⟨u, hw, hgap'⟩
  · exact ⟨q, ⟨gap, hr.symm⟩, htrim⟩
  · -- otherwise the text would end with some of the blank characters that are taken away
    have hu : u = [] := by
      obtain rfl | ⟨u, d, rfl⟩ := List.eq_nil_or_concat u
      · rfl
      · rw [List.concat_eq_append] at hw hgap'
        have hlast : isBlank d = false := by
          have hends : Ends (trim (w ++ r) ++ u ++ [d]) := by
            rw [List.append_assoc, ← hw]
            exact h.2
          rw [Ends, List.reverse_append] at hends
          exact stops_cons.1 hends
        rw [hgap d (hgap' ▸ by simp)] at hlast
        cases hlast
    subst hu
    refine ⟨[], List.nil_prefix, ?_⟩
    rw [List.append_nil] at hw
    rw [List.append_nil, ← hw]

/-- Something is left of a text as its type if it begins with no blank character. -/
theorem type_ne_nil (h : Stops isBlank cs) (hne : cs ≠ []) : trim (beforeModifier cs) ≠ [] := by
  obtain ⟨c, cs, rfl⟩ := List.exists_cons_of_ne_nil hne
  have hc : isBlank c = false := stops_cons.1 h
  have htype : beforeModifier (c :: cs) = [c] ++ beforeModifier cs := by
    rw [beforeModifier_cons, hc]
    rfl
  have hfirst : Trimmed [c] := ⟨stops_cons.2 hc, stops_cons.2 hc⟩
  obtain ⟨q, -, htrim⟩ := exists_trim_append_of_trimmed hfirst (by simp) (beforeModifier cs)
  rw [htype, htrim]
  simp

/-! ## Columns -/

/-- A line declares something under a name with a definition: it is no constraint of its table. -/
def Declares (line name definition : List Char) : Prop :=
  isConstraint (declaration line) = false ∧ NamesDefinition (declaration line) name definition

/-- A line gives a column just if it declares something, and then the type is what stands in the
definition before the first blank character with a modifier behind it. -/
theorem column?_eq_some_iff :
    column? line = some column ↔ ∃ name definition, Declares line name definition ∧
      column = ⟨String.ofList name, String.ofList (trim (beforeModifier definition)),
        !saysNotNull false definition⟩ := by
  constructor
  · intro h
    simp only [column?] at h
    split at h
    · cases h
    · next hno =>
      obtain ⟨⟨name, definition⟩, hread, hcolumn⟩ := Option.bind_eq_some_iff.1 h
      have hnames := nameAndDefinition?_eq_some_iff.1 hread
      have hword := hnames.name_word.2
      have hconstraint : isConstraint (declaration line) = false := by simp_all
      rw [normalize_of_word hword, (hnames.trimmed (trimmed_declaration line)).trim_eq] at hcolumn
      split at hcolumn
      · cases hcolumn
      · exact ⟨name, definition, ⟨hconstraint, hnames⟩, (Option.some.inj hcolumn).symm⟩
  · rintro ⟨name, definition, ⟨hconstraint, hnames⟩, rfl⟩
    have hread := hnames.read
    obtain ⟨hname, hword⟩ := hnames.name_word
    have htrimmed := hnames.trimmed (trimmed_declaration line)
    have htype := type_ne_nil htrimmed.1 hnames.ne_nil
    have hempty : (declaration line).isEmpty = false := by
      rw [List.isEmpty_eq_false_iff]
      intro hnil
      rw [hnil] at hread
      cases hread
    simp [column?, hempty, hconstraint, hread, normalize_of_word hword, htrimmed.trim_eq, hname,
      htype]

theorem exists_column?_iff :
    (∃ column, column? line = some column) ↔ ∃ name definition, Declares line name definition := by
  simp only [column?_eq_some_iff]
  constructor
  · rintro ⟨column, name, definition, hdeclares, -⟩
    exact ⟨name, definition, hdeclares⟩
  · rintro ⟨name, definition, hdeclares⟩
    exact ⟨_, name, definition, hdeclares, rfl⟩

end Cadastre.Schema
