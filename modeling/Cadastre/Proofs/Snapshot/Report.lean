import Cadastre.Snapshot.Report
import Mathlib.Data.List.Infix
import Mathlib.Data.String.Basic

/-!
# Reading a report back

A report on what changed is made of blocks: a heading, and below it items that are told from
headings by the blanks in front of them. Headings say which list of the comparison a block belongs
to, and the marks of the items say what became of them. So the lines of a report tell the whole
comparison, whatever its strings are, and the text of a report does as long as no string breaks a
line.
-/

namespace Cadastre

namespace Report

/-! ## Blocks -/

/-- A heading, and the lines below it. -/
structure Block where
  /-- The heading. -/
  heading : String
  /-- The lines below the heading. -/
  items : List String

/-- The lines of a block. -/
def Block.lines (b : Block) : List String := b.heading :: b.items

/-- A line below a heading begins with a blank. -/
def isItem (line : String) : Bool := line.toList.head? == some ' '

/-- A block with a heading that is no item, and with nothing but items below it. -/
structure Block.Headed (b : Block) : Prop where
  heading : isItem b.heading = false
  items : ∀ line ∈ b.items, isItem line = true

/-- The lines below a heading reach to the next heading, or to the end. -/
theorem Block.Headed.takeWhile_items {b : Block} {rest : List Block} (hb : b.Headed)
    (hrest : ∀ c ∈ rest, c.Headed) :
    (b.items ++ rest.flatMap Block.lines).takeWhile isItem = b.items := by
  rw [List.takeWhile_append_of_pos hb.items]
  cases rest with
  | nil => simp
  | cons c rest =>
    have hc := (hrest c List.mem_cons_self).heading
    simp [Block.lines, hc]

/-- Where one block ends and the next one begins is seen from the lines. -/
theorem eq_of_flatMap_lines {bs cs : List Block} (hbs : ∀ b ∈ bs, b.Headed)
    (hcs : ∀ c ∈ cs, c.Headed) (h : bs.flatMap Block.lines = cs.flatMap Block.lines) : bs = cs := by
  induction bs generalizing cs with
  | nil =>
    cases cs with
    | nil => rfl
    | cons c cs => simp [Block.lines] at h
  | cons b bs ih =>
    cases cs with
    | nil => simp [Block.lines] at h
    | cons c cs =>
      obtain ⟨hb, hbs'⟩ := List.forall_mem_cons.1 hbs
      obtain ⟨hc, hcs'⟩ := List.forall_mem_cons.1 hcs
      rw [List.flatMap_cons, List.flatMap_cons] at h
      obtain ⟨hheading, htail⟩ := List.cons.inj h
      have hfirst : b.items = c.items := by
        rw [← hb.takeWhile_items hbs', ← hc.takeWhile_items hcs']
        exact congrArg (List.takeWhile isItem) htail
      have hlater : bs.flatMap Block.lines = cs.flatMap Block.lines := by
        rw [hfirst] at htail
        exact List.append_cancel_left htail
      obtain ⟨heading, items⟩ := b
      obtain rfl : heading = c.heading := hheading
      obtain rfl : items = c.items := hfirst
      rw [ih hbs' hcs' hlater]

/-! ## Sections -/

/-- The lists of a comparison. -/
inductive Section where
  | addedRoutes
  | removedRoutes
  | changedRoutes
  | addedTables
  | removedTables
  | changedTables
  | addedModules
  | removedModules
deriving DecidableEq

namespace Section

/-- The sections in the order of a report. -/
def all : List Section :=
  [addedRoutes, removedRoutes, changedRoutes, addedTables, removedTables, changedTables,
    addedModules, removedModules]

/-- What every heading of a section begins with. -/
def opening : Section → List Char
  | addedRoutes => "Added routes:".toList
  | removedRoutes => "Removed routes:".toList
  | changedRoutes => "Changed route: ".toList
  | addedTables => "Added tables:".toList
  | removedTables => "Removed tables:".toList
  | changedTables => "Changed table: ".toList
  | addedModules => "Added modules:".toList
  | removedModules => "Removed modules:".toList

/-- Whether a block belongs to a section. -/
def holds (s : Section) (b : Block) : Bool := s.opening.isPrefixOf b.heading.toList

/-- A heading belongs to one section only. -/
theorem eq_of_holds {s t : Section} {b : Block} (hs : s.holds b = true)
    (ht : t.holds b = true) : s = t := by
  have hapart : ∀ s ∈ all, ∀ t ∈ all, s.opening <+: t.opening → s = t := by decide +kernel
  have hall : ∀ s : Section, s ∈ all := fun s => by cases s <;> decide
  rw [holds, List.isPrefixOf_iff_prefix] at hs ht
  rcases List.prefix_or_prefix_of_prefix hs ht with h | h
  · exact hapart s (hall s) t (hall t) h
  · exact (hapart t (hall t) s (hall s) h).symm

end Section

end Report

open Report

/-- The block of a titled list, if it has items. -/
def titledBlocks (title marker : String) (items : List String) : List Block :=
  if items.isEmpty then [] else [⟨s!"{title}:", marked marker items⟩]

/-- The block about a changed route. -/
def RouteChange.block (c : RouteChange) : Block :=
  ⟨s!"Changed route: {c.route}", marked "~" c.changes⟩

/-- The block about a changed table. -/
def TableChange.block (c : TableChange) : Block :=
  ⟨s!"Changed table: {c.name}", marked "+" c.added ++ marked "-" c.removed ++ marked "~" c.altered⟩

/-- The blocks of a section. -/
def Diff.blocks (d : Diff) : Section → List Block
  | .addedRoutes => titledBlocks "Added routes" "+" d.addedRoutes
  | .removedRoutes => titledBlocks "Removed routes" "-" d.removedRoutes
  | .changedRoutes => d.changedRoutes.map RouteChange.block
  | .addedTables => titledBlocks "Added tables" "+" d.addedTables
  | .removedTables => titledBlocks "Removed tables" "-" d.removedTables
  | .changedTables => d.changedTables.map TableChange.block
  | .addedModules => titledBlocks "Added modules" "+" d.addedModules
  | .removedModules => titledBlocks "Removed modules" "-" d.removedModules

section Blocks

variable {d e : Diff} {b : Block} {s : Section} {title marker : String} {xs ys : List String}

/-- A mark stands in front of an item, behind two blanks. -/
theorem toList_marked (marker item : String) :
    s!"  {marker} {item}".toList = ' ' :: ' ' :: (marker.toList ++ ' ' :: item.toList) := by
  simp [toString]

theorem isItem_of_mem_marked {line : String} (h : line ∈ marked marker xs) :
    isItem line = true := by
  obtain ⟨item, -, rfl⟩ := List.mem_map.1 h
  rw [isItem, toList_marked]
  rfl

theorem flatMap_titledBlocks (title marker : String) (items : List String) :
    (titledBlocks title marker items).flatMap Block.lines = titled title marker items := by
  rw [titledBlocks, titled]
  split
  · rfl
  · simp [Block.lines]

/-- The lines of a report are those of the blocks of its sections. -/
theorem Diff.lines_eq (d : Diff) :
    d.lines = (Section.all.flatMap d.blocks).flatMap Block.lines := by
  have hroutes : d.changedRoutes.flatMap RouteChange.lines =
      (d.changedRoutes.map RouteChange.block).flatMap Block.lines := by
    rw [List.flatMap_map]
    rfl
  have htables : d.changedTables.flatMap TableChange.lines =
      (d.changedTables.map TableChange.block).flatMap Block.lines := by
    rw [List.flatMap_map]
    rfl
  simp only [Diff.lines, Section.all, List.flatMap_cons, List.flatMap_nil, List.flatMap_append,
    blocks, flatMap_titledBlocks, hroutes, htables, List.append_assoc, List.append_nil]

theorem of_mem_titledBlocks (h : b ∈ titledBlocks title marker xs) :
    b.heading = s!"{title}:" ∧ ∀ line ∈ b.items, isItem line = true := by
  rw [titledBlocks] at h
  split at h
  · cases h
  · obtain rfl := List.mem_singleton.1 h
    exact ⟨rfl, fun _ => isItem_of_mem_marked⟩

/-- A block of a section has a heading of that section, and items below it. -/
theorem Diff.of_mem_blocks (h : b ∈ d.blocks s) :
    s.opening <+: b.heading.toList ∧ ∀ line ∈ b.items, isItem line = true := by
  cases s
  case changedRoutes =>
    obtain ⟨c, -, rfl⟩ := List.mem_map.1 h
    have hheading : s!"Changed route: {c.route}".toList =
        "Changed route: ".toList ++ c.route.toList := by
      simp [toString]
    exact ⟨⟨c.route.toList, hheading.symm⟩, fun _ => isItem_of_mem_marked⟩
  case changedTables =>
    obtain ⟨c, -, rfl⟩ := List.mem_map.1 h
    have hheading : s!"Changed table: {c.name}".toList =
        "Changed table: ".toList ++ c.name.toList := by
      simp [toString]
    refine ⟨⟨c.name.toList, hheading.symm⟩, ?_⟩
    intro line hline
    rcases List.mem_append.1 hline with hline | hline
    · rcases List.mem_append.1 hline with hline | hline
      · exact isItem_of_mem_marked hline
      · exact isItem_of_mem_marked hline
    · exact isItem_of_mem_marked hline
  all_goals
    obtain ⟨hheading, hitems⟩ := of_mem_titledBlocks h
    rw [hheading]
    exact ⟨by decide +kernel, hitems⟩

theorem Diff.headed_of_mem_blocks (h : b ∈ d.blocks s) : b.Headed ∧ s.holds b = true := by
  obtain ⟨hopening, hitems⟩ := of_mem_blocks h
  have hletter : ∀ s : Section, s.opening ≠ [] ∧ s.opening.head? ≠ some ' ' := by
    intro s
    cases s <;> decide +kernel
  refine ⟨⟨?_, hitems⟩, List.isPrefixOf_iff_prefix.2 hopening⟩
  obtain ⟨rest, hrest⟩ := hopening
  rw [isItem, ← hrest, List.head?_append_of_ne_nil _ (hletter s).1]
  simpa using (hletter s).2

/-- The blocks of a section are those of the report whose headings say so. -/
theorem Diff.filter_blocks (d : Diff) (s : Section) :
    (Section.all.flatMap d.blocks).filter s.holds = d.blocks s := by
  have hself : ∀ t, (d.blocks t).filter s.holds = if t = s then d.blocks t else [] := by
    intro t
    split
    · next h =>
      subst h
      exact List.filter_eq_self.2 fun b hb => (headed_of_mem_blocks hb).2
    · next h =>
      refine List.filter_eq_nil_iff.2 fun b hb hs => h ?_
      exact Section.eq_of_holds (headed_of_mem_blocks hb).2 hs
  rw [List.filter_flatMap]
  simp only [hself]
  cases s <;> simp [Section.all]

/-! ## The comparison of a report -/

theorem marked_inj (h : marked marker xs = marked marker ys) : xs = ys := by
  refine List.map_injective_iff.2 (fun x y hxy => ?_) h
  have hlist := congrArg String.toList hxy
  rw [toList_marked, toList_marked] at hlist
  exact String.toList_injective (by simpa using hlist)

theorem titledBlocks_inj (h : titledBlocks title marker xs = titledBlocks title marker ys) :
    xs = ys := by
  rw [titledBlocks, titledBlocks] at h
  cases xs with
  | nil =>
    cases ys with
    | nil => rfl
    | cons y ys => simp at h
  | cons x xs =>
    cases ys with
    | nil => simp at h
    | cons y ys =>
      have hitems : marked marker (x :: xs) = marked marker (y :: ys) := by simpa using h
      exact marked_inj hitems

theorem RouteChange.block_inj {a c : RouteChange} (h : a.block = c.block) : a = c := by
  obtain ⟨hheading, hitems⟩ := Block.mk.inj h
  have hroute : a.route = c.route := by
    have hlist := congrArg String.toList hheading
    exact String.toList_injective (by simpa [toString] using hlist)
  obtain ⟨route, changes⟩ := a
  obtain rfl : route = c.route := hroute
  obtain rfl : changes = c.changes := marked_inj hitems
  rfl

/-- Items are told apart by their marks. -/
theorem filter_marked {m : Char} (hm : marker.toList = [m]) (n : Char) (items : List String) :
    (marked marker items).filter (fun line => line.toList[2]? == some n) =
      if m = n then marked marker items else [] := by
  have hmark : ∀ line ∈ marked marker items, line.toList[2]? = some m := by
    intro line hline
    obtain ⟨item, -, rfl⟩ := List.mem_map.1 hline
    rw [toList_marked, hm]
    rfl
  split
  · next h =>
    subst h
    exact List.filter_eq_self.2 fun line hline => by rw [hmark line hline, beq_self_eq_true]
  · next h =>
    refine List.filter_eq_nil_iff.2 fun line hline hn => h ?_
    rw [hmark line hline] at hn
    simpa using hn

theorem TableChange.block_inj {a c : TableChange} (h : a.block = c.block) : a = c := by
  obtain ⟨hheading, hitems⟩ := Block.mk.inj h
  have hname : a.name = c.name := by
    have hlist := congrArg String.toList hheading
    exact String.toList_injective (by simpa [toString] using hlist)
  have hplus : "+".toList = ['+'] := rfl
  have hminus : "-".toList = ['-'] := rfl
  have htilde : "~".toList = ['~'] := rfl
  -- the items of one mark are one of the three lists
  have hlists : ∀ n : Char,
      (if '+' = n then marked "+" a.added else []) ++
          (if '-' = n then marked "-" a.removed else []) ++
          (if '~' = n then marked "~" a.altered else []) =
        (if '+' = n then marked "+" c.added else []) ++
          (if '-' = n then marked "-" c.removed else []) ++
          if '~' = n then marked "~" c.altered else [] := by
    intro n
    have hfilter := congrArg (List.filter fun line => line.toList[2]? == some n) hitems
    simpa only [List.filter_append, filter_marked hplus, filter_marked hminus, filter_marked htilde]
      using hfilter
  have hadded : marked "+" a.added = marked "+" c.added := by simpa using hlists '+'
  have hremoved : marked "-" a.removed = marked "-" c.removed := by simpa using hlists '-'
  have haltered : marked "~" a.altered = marked "~" c.altered := by simpa using hlists '~'
  obtain ⟨name, added, removed, altered⟩ := a
  obtain rfl : name = c.name := hname
  obtain rfl : added = c.added := marked_inj hadded
  obtain rfl : removed = c.removed := marked_inj hremoved
  obtain rfl : altered = c.altered := marked_inj haltered
  rfl

/-- A comparison is known from the blocks of its sections. -/
theorem Diff.eq_of_blocks (h : ∀ s, d.blocks s = e.blocks s) : d = e := by
  have hroutes : d.changedRoutes = e.changedRoutes :=
    List.map_injective_iff.2 (fun _ _ => RouteChange.block_inj) (h .changedRoutes)
  have htables : d.changedTables = e.changedTables :=
    List.map_injective_iff.2 (fun _ _ => TableChange.block_inj) (h .changedTables)
  have haddedRoutes : d.addedRoutes = e.addedRoutes := titledBlocks_inj (h .addedRoutes)
  have hremovedRoutes : d.removedRoutes = e.removedRoutes := titledBlocks_inj (h .removedRoutes)
  have haddedTables : d.addedTables = e.addedTables := titledBlocks_inj (h .addedTables)
  have hremovedTables : d.removedTables = e.removedTables := titledBlocks_inj (h .removedTables)
  have haddedModules : d.addedModules = e.addedModules := titledBlocks_inj (h .addedModules)
  have hremovedModules : d.removedModules = e.removedModules := titledBlocks_inj (h .removedModules)
  obtain ⟨⟩ := d
  simp_all

/-- The lines of a report tell the comparison, whatever its strings are. -/
theorem Diff.eq_of_lines (h : d.lines = e.lines) : d = e := by
  have hheaded : ∀ d : Diff, ∀ b ∈ Section.all.flatMap d.blocks, b.Headed := by
    intro d b hb
    obtain ⟨s, -, hs⟩ := List.mem_flatMap.1 hb
    exact (headed_of_mem_blocks hs).1
  rw [lines_eq, lines_eq] at h
  have hblocks := eq_of_flatMap_lines (hheaded d) (hheaded e) h
  refine eq_of_blocks fun s => ?_
  rw [← filter_blocks, ← filter_blocks, hblocks]

end Blocks

/-! ## The text of a report -/

/-- The strings of a comparison. -/
def Diff.texts (d : Diff) : List String :=
  d.addedRoutes ++ d.removedRoutes ++ d.changedRoutes.flatMap (fun c => c.route :: c.changes) ++
    d.addedTables ++ d.removedTables ++
    d.changedTables.flatMap (fun c => c.name :: (c.added ++ c.removed ++ c.altered)) ++
    d.addedModules ++ d.removedModules

/-- No string of a comparison breaks a line. -/
def Diff.Unbroken (d : Diff) : Prop := ∀ text ∈ d.texts, '\n' ∉ text.toList

instance (d : Diff) : Decidable d.Unbroken :=
  inferInstanceAs (Decidable (∀ text ∈ d.texts, '\n' ∉ text.toList))

section Text

variable {d e : Diff} {title marker : String} {items : List String}

theorem notMem_of_mem_marked (hmarker : '\n' ∉ marker.toList)
    (hitems : ∀ item ∈ items, '\n' ∉ item.toList) :
    ∀ line ∈ marked marker items, '\n' ∉ line.toList := by
  intro line hline
  obtain ⟨item, hitem, rfl⟩ := List.mem_map.1 hline
  rw [toList_marked]
  simp [hmarker, hitems item hitem]

theorem notMem_of_mem_titled (htitle : '\n' ∉ title.toList) (hmarker : '\n' ∉ marker.toList)
    (hitems : ∀ item ∈ items, '\n' ∉ item.toList) :
    ∀ line ∈ titled title marker items, '\n' ∉ line.toList := by
  intro line hline
  rw [titled] at hline
  split at hline
  · cases hline
  · rcases List.mem_cons.1 hline with rfl | hline
    · simpa [toString] using htitle
    · exact notMem_of_mem_marked hmarker hitems line hline

theorem RouteChange.notMem_of_mem_lines {c : RouteChange}
    (h : ∀ text ∈ c.route :: c.changes, '\n' ∉ text.toList) :
    ∀ line ∈ c.lines, '\n' ∉ line.toList := by
  obtain ⟨hroute, hchanges⟩ := List.forall_mem_cons.1 h
  refine List.forall_mem_cons.2 ⟨?_, notMem_of_mem_marked (by decide) hchanges⟩
  simpa [toString] using hroute

theorem TableChange.notMem_of_mem_lines {c : TableChange}
    (h : ∀ text ∈ c.name :: (c.added ++ c.removed ++ c.altered), '\n' ∉ text.toList) :
    ∀ line ∈ c.lines, '\n' ∉ line.toList := by
  obtain ⟨hname, hcolumns⟩ := List.forall_mem_cons.1 h
  obtain ⟨hkeys, haltered⟩ := List.forall_mem_append.1 hcolumns
  obtain ⟨hadded, hremoved⟩ := List.forall_mem_append.1 hkeys
  refine List.forall_mem_cons.2 ⟨by simpa [toString] using hname, ?_⟩
  refine List.forall_mem_append.2 ⟨List.forall_mem_append.2 ⟨?_, ?_⟩, ?_⟩
  · exact notMem_of_mem_marked (by decide) hadded
  · exact notMem_of_mem_marked (by decide) hremoved
  · exact notMem_of_mem_marked (by decide) haltered

theorem Diff.Unbroken.notMem_of_mem_lines (h : d.Unbroken) :
    ∀ line ∈ d.lines, '\n' ∉ line.toList := by
  simp only [Unbroken, texts, List.forall_mem_append, List.forall_mem_flatMap] at h
  obtain ⟨⟨⟨⟨⟨⟨⟨haddedRoutes, hremovedRoutes⟩, hroutes⟩, haddedTables⟩, hremovedTables⟩, htables⟩,
    haddedModules⟩, hremovedModules⟩ := h
  simp only [lines, List.forall_mem_append, List.forall_mem_flatMap]
  refine ⟨⟨⟨⟨⟨⟨⟨?_, ?_⟩, ?_⟩, ?_⟩, ?_⟩, ?_⟩, ?_⟩, ?_⟩
  · exact notMem_of_mem_titled (by decide) (by decide) haddedRoutes
  · exact notMem_of_mem_titled (by decide) (by decide) hremovedRoutes
  · exact fun c hc => RouteChange.notMem_of_mem_lines (hroutes c hc)
  · exact notMem_of_mem_titled (by decide) (by decide) haddedTables
  · exact notMem_of_mem_titled (by decide) (by decide) hremovedTables
  · exact fun c hc => TableChange.notMem_of_mem_lines (htables c hc)
  · exact notMem_of_mem_titled (by decide) (by decide) haddedModules
  · exact notMem_of_mem_titled (by decide) (by decide) hremovedModules

theorem Diff.isEmpty_iff : d.isEmpty = true ↔ d = Diff.empty := beq_iff_eq

/-- A report on changes begins with a heading. -/
theorem Diff.exists_opening (h : d.isEmpty = false) :
    ∃ (s : Section) (line : String) (rest : List String),
      d.lines = line :: rest ∧ s.opening <+: line.toList := by
  cases hblocks : Section.all.flatMap d.blocks with
  | nil =>
    have hlines : d.lines = Diff.empty.lines := by rw [lines_eq, hblocks]; rfl
    rw [isEmpty_iff.2 (eq_of_lines hlines)] at h
    cases h
  | cons b bs =>
    have hmem : b ∈ Section.all.flatMap d.blocks := by rw [hblocks]; exact List.mem_cons_self
    obtain ⟨s, -, hs⟩ := List.mem_flatMap.1 hmem
    refine ⟨s, b.heading, b.items ++ bs.flatMap Block.lines, ?_, (of_mem_blocks hs).1⟩
    rw [lines_eq, hblocks]
    rfl

theorem Diff.toList_report (h : d.isEmpty = false) :
    d.report.toList = ['\n'].intercalate (d.lines.map String.toList) := by
  rw [report, if_neg (by simp [h]), String.toList_intercalate]
  rfl

/-- Only a report that nothing changed says so. -/
theorem Diff.report_eq_unchanged_iff :
    d.report = "No changes since last snapshot." ↔ d.isEmpty = true := by
  constructor
  · intro hreport
    by_contra hne
    rw [Bool.not_eq_true] at hne
    obtain ⟨s, line, rest, hlines, hopening⟩ := exists_opening hne
    have htext := toList_report hne
    rw [hreport, hlines, List.map_cons] at htext
    have hfirst : line.toList <+: ['\n'].intercalate (line.toList :: rest.map String.toList) := by
      cases rest with
      | nil => simp
      | cons second rest => simp
    have hsection : s.opening <+: "No changes since last snapshot.".toList :=
      htext ▸ hopening.trans hfirst
    revert hsection
    cases s <;> decide +kernel
  · intro h
    rw [report, if_pos h]

/-- The lines of a report without broken strings are the pieces between its newlines. -/
theorem Diff.Unbroken.splitOn_report (hd : d.Unbroken) (h : d.isEmpty = false) :
    d.report.toList.splitOn '\n' = d.lines.map String.toList := by
  obtain ⟨s, line, rest, hlines, -⟩ := exists_opening h
  rw [toList_report h]
  refine List.splitOn_intercalate '\n' ?_ (by simp [hlines])
  intro text htext
  obtain ⟨line, hline, rfl⟩ := List.mem_map.1 htext
  exact hd.notMem_of_mem_lines line hline

/-- A report loses nothing of a comparison whose strings break no lines: comparisons with the same
report are equal. Whatever its strings are, a comparison is reported to have found nothing just if
it did. -/
theorem Diff.report_injective (d e : Diff) :
    (d.Unbroken → e.Unbroken → d.report = e.report → d = e) ∧
      (d.report = "No changes since last snapshot." ↔ d.isEmpty = true) := by
  refine ⟨fun hd he hreport => ?_, report_eq_unchanged_iff⟩
  by_cases hempty : d.isEmpty = true
  · have hother : e.isEmpty = true :=
      report_eq_unchanged_iff.1 (hreport ▸ report_eq_unchanged_iff.2 hempty)
    rw [isEmpty_iff.1 hempty, isEmpty_iff.1 hother]
  · have hother : ¬ e.isEmpty = true := fun he' =>
      hempty (report_eq_unchanged_iff.1 (hreport.trans (report_eq_unchanged_iff.2 he')))
    rw [Bool.not_eq_true] at hempty hother
    refine eq_of_lines (List.map_injective_iff.2 (fun _ _ => String.toList_injective) ?_)
    rw [← hd.splitOn_report hempty, ← he.splitOn_report hother, hreport]

/-- A snapshot with a table whose name reads as a heading. -/
def headingTable (columns : List Column) : Snapshot :=
  ⟨.epoch, [], [⟨"Added tables:", columns⟩], [], []⟩

/-- The changes of the table whose name reads as a heading are known from their report. -/
theorem Diff.report_injective_heading :
    let d := (headingTable [⟨"id", "int", true⟩]).diff
      (headingTable [⟨"id", "int", false⟩, ⟨"- b", "text", true⟩])
    let e := { Diff.empty with
      changedTables := [⟨"Added tables:", ["- b"], [], ["id int NULL -> id int NOT NULL"]⟩] }
    d.Unbroken ∧ e.Unbroken ∧ d.report = e.report ∧ d = e := by
  intro d e
  have hd : d.Unbroken := by decide +kernel
  have he : e.Unbroken := by decide +kernel
  have hreport : d.report = e.report := by decide +kernel
  exact ⟨hd, he, hreport, (Diff.report_injective d e).1 hd he hreport⟩

end Text

end Cadastre
