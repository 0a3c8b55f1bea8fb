import Cadastre.Proofs.Schema.Line

/-!
# Tables written as a schema

A table can be written as a statement with one line for each of its columns. Every table that is read
from a schema can be written, whatever its name and its types hold, and reading written tables gives
these tables. The main statement joins the two: the tables of a schema are what is read when they are
written one after another.
-/

namespace Cadastre

/-- A table as it is written in a schema. -/
def Table.source (t : Table) : String :=
  s!"CREATE TABLE public.\"{t.name}\" (\n{String.join (t.columns.map Column.source)});\n"

/-- A table can be written: its name is not empty and holds no quotes, and its columns can be
written. -/
structure Table.Writable (t : Table) : Prop where
  name_ne : t.name.toList ≠ []
  unquoted : '"' ∉ t.name.toList
  columns : ∀ c ∈ t.columns, c.Writable

namespace Schema

open Text

variable {cs rest name : List Char} {s : Statement} {t : Table} {c : Column}

/-! ## The text of a table -/

/-- The lines of written columns. -/
def linesText (columns : List Column) : List Char :=
  columns.flatMap fun c => columnText c ++ [','] ++ ['\n']

theorem linesText_cons (c : Column) (columns : List Column) :
    linesText (c :: columns) = (columnText c ++ [',']) ++ '\n' :: linesText columns := by
  simp [linesText]

/-- The statement that a written table is. -/
def statementOf (t : Table) : Statement :=
  ⟨['p', 'u', 'b', 'l', 'i', 'c'] ++ '.' :: '"' :: (t.name.toList ++ ['"']),
    '\n' :: linesText t.columns⟩

/-- The words of its header. -/
def headerCapitals : List Char :=
  ['C', 'R', 'E', 'A', 'T', 'E', ' ', 'T', 'A', 'B', 'L', 'E']

/-- The text of its header. -/
def headerText (t : Table) : List Char :=
  headerCapitals ++ ([' '] ++ ((statementOf t).name ++ ([' '] ++ ['('])))

theorem toList_tableSource (t : Table) :
    t.source.toList = headerText t ++ ((statementOf t).body ++ (closing ++ ['\n'])) := by
  have hlines : (String.join (t.columns.map Column.source)).toList = linesText t.columns := by
    simp [linesText, List.flatMap_map, toList_columnSource]
  unfold Table.source
  simp [toString, headerText, headerCapitals, statementOf, hlines, closing]

theorem isHeader_headerText (h : t.Writable) : IsHeader (statementOf t).name (headerText t) := by
  have hpublic : IsPart ['p', 'u', 'b', 'l', 'i', 'c'] :=
    .word (by simp) (List.all_eq_true.1 (by decide +kernel))
  have hname : IsPart ('"' :: (t.name.toList ++ ['"'])) := by
    refine .quoted h.name_ne fun d hd => ?_
    rw [bne_iff_ne]
    rintro rfl
    exact h.unquoted hd
  exact .mk (by decide) (by simp) (by simp [Blank, isBlank]) (.two hpublic hname)
    (by simp [Blank, isBlank])

/-- No written line ends a statement, not even in part. -/
theorem not_infix_linesText {columns : List Column} (h : ∀ c ∈ columns, c.Writable) :
    ¬ closing <:+: linesText columns := by
  have hnil : ¬ closing <:+: [] := by decide
  induction columns with
  | nil => exact hnil
  | cons c columns ih =>
    have hline : ¬ closing <:+: columnText c ++ [','] :=
      not_infix_columnText (h c List.mem_cons_self) ⟨')', by decide, by decide +kernel⟩ (by decide)
        (by decide) (by decide) (h c List.mem_cons_self).unclosed
    rw [linesText_cons, infix_append_cons_iff (by decide)]
    rintro (hin | hin)
    · exact hline hin
    · exact ih (fun d hd => h d (List.mem_cons_of_mem c hd)) hin

theorem block?_source (h : t.Writable) (cs : List Char) :
    block? (t.source.toList ++ cs) = some (statementOf t, '\n' :: cs) := by
  have hheader : header? (headerText t ++ ((statementOf t).body ++ (closing ++ '\n' :: cs))) =
      some ((statementOf t).name, (statementOf t).body ++ (closing ++ '\n' :: cs)) :=
    header?_eq_some_iff.2 ⟨_, isHeader_headerText h, rfl⟩
  -- the mark may not begin in the body either, so its first character is put after the body
  have hbody : ¬ closing <:+: (statementOf t).body ++ closing.dropLast := by
    have hlast : closing = [')'] ++ [';'] := rfl
    have hsplit : (statementOf t).body ++ closing.dropLast =
        [] ++ '\n' :: (linesText t.columns ++ [')']) := rfl
    rw [hsplit, infix_append_cons_iff (by decide), not_or, hlast,
      infix_append_iff_of_last (by decide)]
    exact ⟨by decide, not_infix_linesText h.columns⟩
  have htext : t.source.toList ++ cs =
      headerText t ++ ((statementOf t).body ++ (closing ++ '\n' :: cs)) := by
    rw [toList_tableSource]
    simp
  rw [htext, block?, hheader, Option.bind_some]
  simp only [cut?_append hbody, Option.map_some]

/-! ## Reading written tables -/

/-- The lines of written columns declare these columns. -/
theorem filterMap_column? {columns : List Column} (h : ∀ c ∈ columns, c.Writable) :
    (lines (linesText columns)).filterMap column? = columns := by
  induction columns with
  | nil => decide
  | cons c columns ih =>
    have hc : c.Writable := h c List.mem_cons_self
    have hline : '\n' ∉ columnText c ++ [','] := by
      rw [← List.singleton_infix_iff]
      refine not_infix_columnText hc ⟨'\n', by simp, by decide +kernel⟩ (by decide) (by decide)
        (by decide) ?_
      rw [List.singleton_infix_iff]
      exact hc.onLine
    rw [linesText_cons, lines_append_newLine hline,
      List.filterMap_cons_some (column?_columnText hc), ih fun d hd => h d (List.mem_cons_of_mem c hd)]

/-- A name that holds no quotes is left when the default schema and the quotes are taken away. -/
theorem normalize_statementOf (h : t.Writable) :
    normalize (statementOf t).name = t.name.toList := by
  have htrim : trim (statementOf t).name = (statementOf t).name := by
    refine Trimmed.trim_eq ⟨stops_cons.2 (by decide), ?_⟩
    simp only [statementOf, List.reverse_append, List.reverse_cons]
    exact stops_cons.2 (by decide)
  have hquotes : t.name.toList.filter (· != '"') = t.name.toList := filter_quotes_eq_self h.unquoted
  have hname : (statementOf t).name.filter (· != '"') = defaultSchema ++ t.name.toList := by
    simp [statementOf, defaultSchema, hquotes]
  have hschema : defaultSchema.isPrefixOf? (defaultSchema ++ t.name.toList) =
      some t.name.toList := List.isPrefixOf?_eq_some_iff_append_eq.2 rfl
  rw [normalize, htrim, hname, hschema, Option.getD_some]

/-- A written table is read as itself. -/
theorem table?_statementOf (h : t.Writable) : (statementOf t).table? = some t := by
  obtain ⟨d, name, hname⟩ := List.exists_cons_of_ne_nil h.name_ne
  have hnormal : normalize (statementOf t).name = d :: name := by
    rw [normalize_statementOf h, hname]
  have hlines : (lines (statementOf t).body).filterMap column? = t.columns := by
    have hbreak : '\n' ∉ ([] : List Char) := List.not_mem_nil
    have hfirst : lines (statementOf t).body = [] :: lines (linesText t.columns) :=
      lines_append_newLine hbreak (linesText t.columns)
    have hempty : column? [] = none := by decide
    rw [hfirst, List.filterMap_cons_none hempty, filterMap_column? h.columns]
  simp only [Statement.table?, hnormal, hlines]
  rw [← hname, String.ofList_toList]

theorem statements_source_append (h : t.Writable) (cs : List Char) :
    statements (t.source.toList ++ cs) = statementOf t :: statements cs := by
  have hread : firstRead? block? (t.source.toList ++ cs) = some (0, statementOf t, '\n' :: cs) :=
    firstRead?_eq_some_iff.2 ⟨block?_source h cs, fun i hi => absurd hi (Nat.not_lt_zero i)⟩
  have hfirst : firstStatement? (t.source.toList ++ cs) = some (statementOf t, trimStart cs) := by
    have hblank : trimStart ('\n' :: cs) = trimStart cs := List.dropWhile_cons_of_pos (by decide)
    simp only [firstStatement?_eq, hread, Option.map_some, hblank]
  rw [statements_of_some hfirst, statements_trimStart]

/-- Written tables are read in their documented order, and as what they are. -/
theorem tables_source {ts : List Table} (h : ∀ t ∈ ts, t.Writable) :
    tables (String.join (ts.map Table.source)) = Table.sort ts := by
  have htext : (String.join (ts.map Table.source)).toList =
      ts.flatMap fun t => t.source.toList := by
    simp [List.flatMap_map]
  have hread : (statements (ts.flatMap fun t => t.source.toList)).filterMap Statement.table? =
      ts := by
    clear htext
    induction ts with
    | nil => rw [List.flatMap_nil, statements_of_none rfl]; rfl
    | cons t ts ih =>
      have ht := h t List.mem_cons_self
      rw [List.flatMap_cons, statements_source_append ht,
        List.filterMap_cons_some (table?_statementOf ht),
        ih fun u hu => h u (List.mem_cons_of_mem t hu)]
  rw [tables, tablesOf, htext, hread]

/-! ## What can be read can be written -/

theorem not_infix_body_of_block? (h : block? cs = some (s, rest)) : ¬ closing <:+: s.body := by
  simp only [block?, Option.bind_eq_some_iff, Option.map_eq_some_iff] at h
  obtain ⟨⟨name, a⟩, -, ⟨body, b⟩, hcut, he⟩ := h
  obtain ⟨rfl, -⟩ := Prod.mk.inj he
  exact not_infix_of_cut? (by decide) hcut

/-- No statement ends before its closing mark. -/
theorem not_infix_body (hs : s ∈ statements cs) : ¬ closing <:+: s.body := by
  fun_induction statements cs with
  | case1 => simp at hs
  | case2 cs first rest hfirst hlt ih =>
    rcases List.mem_cons.1 hs with rfl | hs
    · rw [firstStatement?_eq] at hfirst
      obtain ⟨⟨p, s, after⟩, hread, he⟩ := Option.map_eq_some_iff.1 hfirst
      obtain ⟨rfl, -⟩ := Prod.mk.inj he
      exact not_infix_body_of_block? (firstRead?_eq_some_iff.1 hread).1
    · exact ih hs

theorem quote_notMem_normalize (cs : List Char) : '"' ∉ normalize cs := by
  have hquotes : '"' ∉ (trim cs).filter (· != '"') := by simp
  simp only [normalize]
  cases hp : defaultSchema.isPrefixOf? ((trim cs).filter (· != '"')) with
  | none => exact hquotes
  | some rest =>
    rw [Option.getD_some]
    intro hmem
    rw [← List.isPrefixOf?_eq_some_iff_append_eq.1 hp] at hquotes
    exact hquotes (List.mem_append_right defaultSchema hmem)

/-- A table that is read from a statement can be written. -/
theorem writable_of_table? (hbody : ¬ closing <:+: s.body) (h : s.table? = some t) :
    t.Writable := by
  unfold Statement.table? at h
  split at h
  · cases h
  · next hname =>
    obtain rfl := Option.some.inj h
    constructor
    case name_ne => simpa using hname
    case unquoted =>
      rw [String.toList_ofList]
      exact quote_notMem_normalize s.name
    case columns =>
      intro c hc
      obtain ⟨line, hline, hread⟩ := List.mem_filterMap.1 hc
      obtain ⟨hpart, hnewLine⟩ := infix_of_mem_lines hline
      exact writable_of_column? hnewLine (fun hin => hbody (hin.trans hpart)) hread

/-- The tables of a schema are what is read when they are written one after another. -/
theorem tables_source_tables (content : String) :
    tables (String.join ((tables content).map Table.source)) = tables content := by
  have hwritable : ∀ t ∈ tables content, t.Writable := by
    intro t ht
    have hmem : t ∈ (statements content.toList).filterMap Statement.table? :=
      (stablySorted_sortByKey Table.name _).perm.mem_iff.1 ht
    obtain ⟨s, hs, hread⟩ := List.mem_filterMap.1 hmem
    exact writable_of_table? (not_infix_body hs) hread
  rw [tables_source hwritable]
  exact sortByKey_sortByKey Table.name _

end Schema

end Cadastre
