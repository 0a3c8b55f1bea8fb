import Cadastre.Proofs.Router.LineEnd
import Cadastre.Proofs.Schema.Exact

/-!
# Line ends of schemas

A schema has the same tables with carriage returns before its newlines, as long as no name of a
table goes over a line end: its statements are the same with the returns put in, and a return at the
end of a line is trimmed away before the line is read. Routers are as indifferent to their line
ends, so a scan finds the same in files of either kind.
-/

namespace Cadastre.Schema

open Text

variable {cs line : List Char} {s : Statement}

/-! ## Headers -/

theorem namePart?_withReturns (cs : List Char) :
    namePart? (withReturns cs) =
      (namePart? cs).map fun (part, rest) => (withReturns part, withReturns rest) := by
  cases cs with
  | nil => rfl
  | cons c cs =>
    by_cases hc : c = '\n'
    · subst hc
      rfl
    · have hkind : (fun d => d != '"') '\r' = (fun d => d != '"') '\n' := by decide
      have hword : isWord '\r' = isWord '\n' := by decide +kernel
      rw [withReturns_cons_of_ne hc, namePart?, namePart?, takeWhile_withReturns hkind,
        dropWhile_withReturns hkind, takeWhile_withReturns hword, dropWhile_withReturns hword]
      split
      · have hstop := stops_dropWhile (fun d => d != '"') cs
        generalize cs.takeWhile (fun d => d != '"') = part
        generalize cs.dropWhile (fun d => d != '"') = rest at hstop ⊢
        cases part with
        | nil => rfl
        | cons d part =>
          obtain ⟨e, es, hpart⟩ := exists_withReturns_cons d part
          cases rest with
          | nil => rw [hpart]; rfl
          | cons q rest =>
            obtain rfl : q = '"' := by simpa using stops_cons.1 hstop
            have hrest : withReturns ('"' :: rest) = '"' :: withReturns rest :=
              withReturns_cons_of_ne (by decide) rest
            have hquoted : withReturns (c :: d :: part ++ ['"']) = c :: e :: es ++ ['"'] := by
              rw [withReturns_append, withReturns_cons_of_ne hc, hpart]
              rfl
            rw [hrest, hpart]
            show some (c :: e :: es ++ ['"'], withReturns rest) =
              some (withReturns (c :: d :: part ++ ['"']), withReturns rest)
            rw [hquoted]
      · split
        · rw [Option.map_some]
          dsimp only
          rw [withReturns_cons_of_ne hc]
        · rfl

theorem tableName?_withReturns (cs : List Char) :
    tableName? (withReturns cs) =
      (tableName? cs).map fun (name, rest) => (withReturns name, withReturns rest) := by
  have hpoint : ∀ cs, withReturns ('.' :: cs) = '.' :: withReturns cs :=
    withReturns_cons_of_ne (by decide)
  rw [tableName?, namePart?_withReturns, tableName?, Option.map_map, Option.map_map]
  refine congrArg (fun f => Option.map f _) (funext fun found => ?_)
  obtain ⟨first, rest⟩ := found
  -- a second part is read behind a point, and the returns put no point anywhere
  cases rest with
  | nil => rfl
  | cons c rest =>
    by_cases hc : c = '.'
    · subst hc
      simp only [Function.comp_apply, hpoint, namePart?_withReturns]
      cases namePart? rest with
      | none => simp [hpoint]
      | some found => simp [withReturns_append, hpoint]
    · obtain ⟨d, ds, hd⟩ := exists_withReturns_cons c rest
      have hne : d ≠ '.' := by
        intro h
        have hhead := (Text.head?_withReturns (c := '.') (by decide) (by decide) (c :: rest)).1
          (by rw [hd, h]; rfl)
        exact hc (by simpa using hhead)
      simp only [Function.comp_apply, hd]
      split
      · next h => exact absurd (List.cons.inj h).1 hne
      · split
        · next h => exact absurd (List.cons.inj h).1 hc
        · rw [hd]

theorem header?_withReturns (cs : List Char) :
    header? (withReturns cs) =
      (header? cs).map fun (name, rest) => (withReturns name, withReturns rest) := by
  have hwords : WithoutEnds headerWords := by decide
  have hopen : WithoutEnds ['('] := by decide
  simp only [header?, Option.bind_eq_bind, dropWord?_withReturns hwords, dropBlanks?_withReturns,
    tableName?_withReturns, trimStart_withReturns, isPrefixOf?_withReturns hopen, Option.bind_map,
    Option.map_bind, Function.comp_def, Option.map_some]

/-! ## Statements -/

/-- A statement with the returns put in. -/
def Statement.withReturns (s : Statement) : Statement :=
  ⟨Text.withReturns s.name, Text.withReturns s.body⟩

theorem block?_withReturns (cs : List Char) :
    block? (withReturns cs) =
      (block? cs).map fun (s, rest) => (s.withReturns, withReturns rest) := by
  have hclosing : WithoutEnds closing := by decide
  simp only [block?, header?_withReturns, cut?_withReturns hclosing (List.cons_ne_nil _ _),
    Option.bind_map, Option.map_bind, Option.map_map, Function.comp_def, Statement.withReturns]

theorem firstStatement?_withReturns (cs : List Char) :
    firstStatement? (withReturns cs) =
      (firstStatement? cs).map fun (s, rest) => (s.withReturns, withReturns rest) := by
  rw [firstStatement?_eq, firstStatement?_eq,
    firstRead?_withReturns block?_withReturns fun _ => ⟨rfl, rfl⟩, Option.map_map, Option.map_map]
  refine congrArg (fun f => Option.map f _) (funext fun found => ?_)
  simp only [Function.comp_apply, trimStart_withReturns]

/-- The statements are the same, with the returns put in. -/
theorem statements_withReturns (cs : List Char) :
    statements (withReturns cs) = (statements cs).map Statement.withReturns := by
  -- every statement takes something away, so the induction is on what is left of the text
  induction hn : cs.length using Nat.strong_induction_on generalizing cs with
  | _ n ih =>
    have hfirst := firstStatement?_withReturns cs
    cases hf : firstStatement? cs with
    | none =>
      rw [hf] at hfirst
      rw [statements_of_none hfirst, statements_of_none hf, List.map_nil]
    | some found =>
      rw [hf] at hfirst
      have hlt : found.2.length < n := hn ▸ length_lt_of_firstStatement? hf
      rw [statements_of_some hfirst, statements_of_some hf, ih _ hlt found.2 rfl, List.map_cons]

/-! ## Lines -/

theorem declaration_append_return (line : List Char) :
    declaration (line ++ ['\r']) = declaration line := by
  have hblank : Blank ['\r'] := fun c hc => by rw [List.mem_singleton.1 hc]; decide
  rw [declaration, declaration]
  have hmark : '\r' ∉ ['-', '-'] := by decide
  rcases before_append_return hmark line with h | h
  · rw [h]
  · rw [h, trim_append_of_blank hblank]

theorem column?_append_return (line : List Char) : column? (line ++ ['\r']) = column? line := by
  rw [column?, declaration_append_return, column?]

theorem columns_withReturns (body : List Char) :
    (lines (withReturns body)).filterMap column? = (lines body).filterMap column? := by
  have hlines := forall₂_lines_withReturns body
  generalize lines body = xs at hlines ⊢
  generalize lines (withReturns body) = ys at hlines ⊢
  induction hlines with
  | nil => rfl
  | cons hline _ ih =>
    have hcolumn : column? _ = column? _ := hline.elim (congrArg column?) fun h =>
      (congrArg column? h).trans (column?_append_return _)
    rw [List.filterMap_cons, List.filterMap_cons, hcolumn, ih]

/-! ## Tables -/

theorem normalize_withReturns (name : List Char) :
    normalize (withReturns name) = withReturns (normalize name) := by
  have hschema : WithoutEnds defaultSchema := by decide
  rw [normalize, normalize, trim_withReturns, filter_withReturns (by decide),
    isPrefixOf?_withReturns hschema]
  cases defaultSchema.isPrefixOf? ((trim name).filter (· != '"')) <;> rfl

/-- A statement creates the same table if its name goes over no line end. -/
theorem Statement.table?_withReturns (h : ∀ t, s.table? = some t → '\n' ∉ t.name.toList) :
    s.withReturns.table? = s.table? := by
  have hname : normalize s.withReturns.name = normalize s.name := by
    rw [Statement.withReturns, normalize_withReturns]
    refine withReturns_eq_self fun hmem => ?_
    obtain ⟨c, name, hc⟩ := List.exists_cons_of_ne_nil (List.ne_nil_of_mem hmem)
    refine h ⟨String.ofList (normalize s.name), (lines s.body).filterMap column?⟩ ?_ ?_
    · rw [Statement.table?, hc]
    · rw [String.toList_ofList]
      exact hmem
  rw [Statement.table?, Statement.table?, hname, Statement.withReturns, columns_withReturns]

/-- A schema has the same tables if no name goes over a line end. -/
theorem tablesOf_withReturns (h : ∀ t ∈ tablesOf cs, '\n' ∉ t.name.toList) :
    tablesOf (withReturns cs) = tablesOf cs := by
  rw [tablesOf, tablesOf, statements_withReturns, List.filterMap_map]
  refine congrArg Table.sort (List.filterMap_congr fun s hs => ?_)
  refine Statement.table?_withReturns fun t ht => h t ?_
  exact (stablySorted_sortByKey Table.name _).perm.mem_iff.2 (List.mem_filterMap.2 ⟨s, hs, ht⟩)

/-! ## Line ends -/

/-- Carriage returns before the newlines of a text change no route of it if no path goes over a line
end, and no table of it if no name does. -/
theorem routes_and_tables_withReturns (sourceFile content : String) :
    ((∀ r ∈ Router.routes sourceFile content, '\n' ∉ r.path.toList) →
      Router.routes sourceFile (withReturnsString content) = Router.routes sourceFile content) ∧
    ((∀ t ∈ tables content, '\n' ∉ t.name.toList) →
      tables (withReturnsString content) = tables content) := by
  rw [Router.routes, Router.routes, tables, tables, withReturnsString, String.toList_ofList]
  exact ⟨Router.routesOf_withReturns, tablesOf_withReturns⟩

/-- An endpoint and a table over several lines, with a comment at the end of one of them. -/
def endpointAndTable : String :=
  "@router.get(\n  \"/a\",\n)\ndef a(\n  id):\n  pass\n" ++
    "CREATE TABLE a\n(\n  id int, -- key\n  b text NOT NULL\n);\n"

theorem routes_and_tables_withReturns_lines :
    (∀ r ∈ Router.routes "r.py" endpointAndTable, '\n' ∉ r.path.toList) ∧
      (∀ t ∈ tables endpointAndTable, '\n' ∉ t.name.toList) ∧
      Router.routes "r.py" (withReturnsString endpointAndTable) =
        [⟨.get, "/a", 200, .anyone, "r.py", "a"⟩] ∧
      tables (withReturnsString endpointAndTable) =
        [⟨"a", [⟨"id", "int", true⟩, ⟨"b", "text", false⟩]⟩] := by
  have hroutes : Router.routes "r.py" endpointAndTable =
      [⟨.get, "/a", 200, .anyone, "r.py", "a"⟩] := by
    decide +kernel
  have htables : tables endpointAndTable =
      [⟨"a", [⟨"id", "int", true⟩, ⟨"b", "text", false⟩]⟩] := by
    decide +kernel
  have h := routes_and_tables_withReturns "r.py" endpointAndTable
  rw [hroutes, htables] at h ⊢
  exact ⟨by decide, by decide, h.1 (by decide), h.2 (by decide)⟩

end Cadastre.Schema
