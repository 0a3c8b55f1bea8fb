import Cadastre.Proofs.Schema.Declaration
import Cadastre.Proofs.Schema.Exact
import Cadastre.Proofs.Text.Occurrence

/-!
# Columns written as lines

A column can be written as a line of a table's body: its name between quotes, its type, and
`NOT NULL` if it may not be null. Every column that is read from a line can be written, and its
written line is read as that column again.
-/

namespace Cadastre

/-! ## Writing -/

/-- What a column says after its type. -/
def Column.restriction (c : Column) : String := if c.nullable then "" else " NOT NULL"

/-- A column as it is written in the body of a table. -/
def Column.source (c : Column) : String := s!"\"{c.name}\" {c.type}{c.restriction},\n"

namespace Schema

/-- What begins a comment. -/
def commentMark : List Char := ['-', '-']

end Schema

/-- A column can be written: its name is a word, and its type is trimmed, is what stands before the
first modifier in it, stays on its line, neither begins a comment nor ends a statement, and says
nothing against null values that the column does not say. -/
structure Column.Writable (c : Column) : Prop where
  name_ne : c.name.toList ≠ []
  name_word : ∀ d ∈ c.name.toList, Text.isWord d = true
  type_ne : c.type.toList ≠ []
  trimmed : Text.Trimmed c.type.toList
  unmodified : Schema.beforeModifier c.type.toList = c.type.toList
  onLine : '\n' ∉ c.type.toList
  uncommented : ¬ Schema.commentMark <:+: c.type.toList
  unclosed : ¬ Schema.closing <:+: c.type.toList
  silent : c.nullable = true → Schema.saysNotNull false c.type.toList = false

namespace Schema

open Text

variable {cs w line name definition : List Char} {c : Column}

/-! ## The text of a column -/

/-- The definition of a written column. -/
def definitionText (c : Column) : List Char :=
  c.type.toList ++ if c.nullable then [] else notNull

/-- The line of a written column, without its comma. -/
def columnText (c : Column) : List Char :=
  '"' :: (c.name.toList ++ '"' :: ' ' :: definitionText c)

theorem toList_columnSource (c : Column) :
    c.source.toList = columnText c ++ [','] ++ ['\n'] := by
  have hrestriction : c.restriction.toList = if c.nullable then [] else notNull := by
    unfold Column.restriction
    split <;> rfl
  unfold Column.source
  simp [toString, columnText, definitionText, hrestriction]

theorem ends_definitionText (h : c.Writable) : Ends (definitionText c) := by
  unfold definitionText
  split
  · rw [List.append_nil]
    exact h.trimmed.2
  · rw [Ends, List.reverse_append]
    exact stops_cons.2 (by decide)

theorem trimmed_definitionText (h : c.Writable) : Trimmed (definitionText c) :=
  ⟨h.trimmed.1.append h.type_ne _, ends_definitionText h⟩

/-- A text that no word holds and that none of the characters around the parts of a line belongs to
occurs in the line of a column only if it occurs in the type. -/
theorem not_infix_columnText (h : c.Writable) (hout : ∃ d ∈ w, isWord d = false) (hquote : '"' ∉ w)
    (hblank : ' ' ∉ w) (hcomma : ',' ∉ w) (htype : ¬ w <:+: c.type.toList) :
    ¬ w <:+: columnText c ++ [','] := by
  have hword : ∀ x : List Char, (∀ d ∈ x, isWord d = true) → ¬ w <:+: x := by
    obtain ⟨d, hd, hout⟩ := hout
    intro x hx hin
    rw [hx d (hin.subset hd)] at hout
    cases hout
  have hnil : ¬ w <:+: [] := hword [] (by simp)
  have hrestriction : ¬ w <:+: definitionText c ++ [','] := by
    unfold definitionText
    rw [infix_append_cons_iff hcomma]
    rintro (hin | hin)
    · split at hin
      · exact htype (by simpa using hin)
      · have hwords : notNull = ' ' :: (['N', 'O', 'T'] ++ ' ' :: ['N', 'U', 'L', 'L']) := rfl
        rw [hwords, infix_append_cons_iff hblank, infix_append_cons_iff hblank] at hin
        rcases hin with hin | hin | hin
        · exact htype hin
        · exact hword _ (List.all_eq_true.1 (by decide +kernel)) hin
        · exact hword _ (List.all_eq_true.1 (by decide +kernel)) hin
    · exact hnil hin
  have htext : columnText c ++ [','] =
      [] ++ '"' :: (c.name.toList ++ '"' :: ([] ++ ' ' :: (definitionText c ++ [',']))) := by
    simp [columnText]
  rw [htext, infix_append_cons_iff hquote, infix_append_cons_iff hquote,
    infix_append_cons_iff hblank]
  rintro (hin | hin | hin | hin)
  · exact hnil hin
  · exact hword _ h.name_word hin
  · exact hnil hin
  · exact hrestriction hin

/-! ## Reading a written column -/

theorem declaration_columnText (h : c.Writable) :
    declaration (columnText c ++ [',']) = columnText c := by
  have hcomment : before ['-', '-'] (columnText c ++ [',']) = columnText c ++ [','] :=
    before_eq_self (not_infix_columnText h ⟨'-', by decide, by decide +kernel⟩ (by decide)
      (by decide) (by decide) h.uncommented)
  have hline : Trimmed (columnText c ++ [',']) := by
    refine ⟨stops_cons.2 (by decide), ?_⟩
    rw [List.reverse_append]
    exact stops_cons.2 (by decide)
  have hends : Trimmed (columnText c) := by
    refine ⟨stops_cons.2 (by decide), ?_⟩
    have hne : definitionText c ≠ [] := by simp [definitionText, h.type_ne]
    have htext : columnText c = ('"' :: (c.name.toList ++ ['"', ' '])) ++ definitionText c := by
      simp [columnText]
    rw [htext, List.reverse_append]
    exact Stops.append (ends_definitionText h) (by simpa using hne) _
  rw [declaration, hcomment, hline.trim_eq, dropComma, List.reverse_append]
  simp only [List.reverse_cons, List.reverse_nil, List.nil_append, List.cons_append,
    List.reverse_reverse, hends.trim_eq]

/-- No constraint opens with a quote. -/
theorem isConstraint_quote (cs : List Char) : isConstraint ('"' :: cs) = false := by
  have hquote : capital '"' = ['"'] := by decide
  simp [isConstraint, constraintOpenings, capitals, hquote, List.isPrefixOf]

/-- A written column is read as itself. -/
theorem column?_columnText (h : c.Writable) : column? (columnText c ++ [',']) = some c := by
  have hdefinition := trimmed_definitionText h
  have hne : definitionText c ≠ [] := by simp [definitionText, h.type_ne]
  have hnames : NamesDefinition (['"'] ++ (c.name.toList ++ (['"'] ++ ([' '] ++ definitionText c))))
      c.name.toList (definitionText c) :=
    .mk (.inr rfl) h.name_ne h.name_word (.inr rfl) (by simp) (by simp [Blank, isBlank]) hne
      hdefinition.1
  have htype : beforeModifier (definitionText c) = c.type.toList := by
    unfold definitionText
    split
    · rw [List.append_nil]
      exact h.unmodified
    · exact beforeModifier_append_notNull h.trimmed.2 h.unmodified
  have hnull : (!saysNotNull false (definitionText c)) = c.nullable := by
    unfold definitionText
    split
    · next hc => rw [List.append_nil, h.silent hc, hc]; rfl
    · next hc => rw [saysNotNull_append_notNull, Bool.eq_false_iff.2 hc]; rfl
  rw [column?_eq_some_iff]
  refine ⟨c.name.toList, definitionText c, ?_, ?_⟩
  · rw [Declares, declaration_columnText h]
    exact ⟨isConstraint_quote _, hnames⟩
  · rw [htype, h.trimmed.trim_eq, hnull, String.ofList_toList, String.ofList_toList]

/-! ## What can be read can be written -/

theorem dropComma_isInfix (cs : List Char) : dropComma cs <:+: cs := by
  unfold dropComma
  split
  · next rest hcs =>
    have hrest : rest.reverse <+: cs := by
      rw [← List.reverse_suffix, List.reverse_reverse, hcs]
      exact List.suffix_cons _ _
    exact (trim_isInfix _).trans hrest.isInfix
  · exact List.infix_rfl

theorem declaration_isInfix (line : List Char) : declaration line <:+: before commentMark line :=
  (dropComma_isInfix _).trans (trim_isInfix _)

/-- A column that is read from a line can be written. -/
theorem writable_of_column? (hline : '\n' ∉ line) (hclosing : ¬ closing <:+: line)
    (h : column? line = some c) : c.Writable := by
  obtain ⟨name, d, ⟨-, hnames⟩, rfl⟩ := column?_eq_some_iff.1 h
  obtain ⟨hne, hword⟩ := hnames.name_word
  have hstart := (hnames.trimmed (trimmed_declaration line)).1
  have htypeNe := type_ne_nil hstart hnames.ne_nil
  obtain ⟨s, hs, hdefinition, htype⟩ := exists_type_append hstart
  have htrimmed := trimmed_trim (beforeModifier d)
  generalize trim (beforeModifier d) = type at hs hdefinition htype htrimmed htypeNe
  -- the type is a part of the line, and of what stands before its comment
  have hpart : type <:+: before commentMark line := by
    have hin : type <:+: d := hdefinition ▸ (List.prefix_append type s).isInfix
    exact (hin.trans hnames.isSuffix.isInfix).trans (declaration_isInfix line)
  have hwhole : type <:+: line := hpart.trans (before_isPrefix commentMark line).isInfix
  constructor <;> simp only [String.toList_ofList]
  case name_ne => exact hne
  case name_word => exact hword
  case type_ne => exact htypeNe
  case trimmed => exact htrimmed
  case unmodified => exact beforeModifier_eq_self htrimmed.2 hs (hdefinition ▸ htype)
  case onLine => exact fun hmem => hline (hwhole.subset hmem)
  case uncommented => exact fun hin => not_infix_before (by decide) line (hin.trans hpart)
  case unclosed => exact fun hin => hclosing (hin.trans hwhole)
  case silent =>
    intro hnull
    by_contra hsays
    have := saysNotNull_append_of_eq_true htrimmed.2 hs (Bool.eq_true_of_not_eq_false hsays)
    rw [← hdefinition] at this
    simp [this] at hnull

end Schema

end Cadastre
