import Cadastre.Proofs.Yaml.Record
import Cadastre.Yaml.Node

/-!
# Composing the tokens of a record

The tokens of a record, in block layout or between brackets, compose a node that shows the record:
scalars with its texts, sequences with its items and mappings with its members, none of them with an
anchor or a tag. Each collection takes as many steps as twice its tokens.
-/

namespace Cadastre.Yaml

open Text (Mark)

/-! ## Nodes that show values -/

/-- A node shows the key of a member. -/
def ShowsKey (n : Node) (k : String) : Prop := ∃ mark style, n = .scalar mark none style k

mutual

/-- A node shows a JSON value. A text without quotes is a text that stands for something. -/
def Shows (n : Node) : Json → Prop
  | .bool b => ∃ mark, n = .scalar mark none .plain (if b then "true" else "false")
  | .number (.whole k) =>
    ∃ mark, n = .scalar mark none .plain (String.ofList (Nat.toDigits 10 k.toNat))
  | .text s =>
    ∃ mark style, n = .scalar mark none style s ∧
      (style = .plain → s.isEmpty = false ∧ Plain.isNull s = false)
  | .array xs => ∃ mark items, n = .sequence mark none items true ∧ ShowItems items xs
  | .object ms => ∃ mark entries, n = .mapping mark none entries true ∧ ShowEntries entries ms
  | _ => False

/-- Nodes show the values of a list, one for one. -/
def ShowItems (ns : List Node) : List Json → Prop
  | [] => ns = []
  | x :: xs => ∃ n rest, ns = n :: rest ∧ Shows n x ∧ ShowItems rest xs

/-- Entries show the members of a list, one for one. -/
def ShowEntries (es : List (Node × Node)) : List (String × Json) → Prop
  | [] => es = []
  | (k, x) :: ms =>
    ∃ key n rest, es = (key, n) :: rest ∧ ShowsKey key k ∧ Shows n x ∧ ShowEntries rest ms

end

namespace Composer

variable {c : Composer} {t : Token} {ts : List Token} {style : Style} {text : String}
  {mark mark' start : Mark} {d e : Composer} {key value n : Node}
  {fuel : Nat} {block indentless : Bool}

/-! ## States -/

/-- A state in which nothing is wrong and such tokens are left. -/
structure At (c : Composer) (ts : List Token) : Prop where
  stopped : c.stopped = none
  tokens : c.tokens.map Lexeme.token = ts

theorem At.hasStopped (h : At c ts) : c.hasStopped = false := by
  rw [Composer.hasStopped, h.stopped]
  rfl

theorem At.exists_peek (h : At c (t :: ts)) : ∃ mark, c.peek? = some ⟨t, mark⟩ := by
  obtain ⟨⟨token, mark⟩, rest, hcons, htoken, -⟩ := List.map_eq_cons_iff.1 h.tokens
  refine ⟨mark, ?_⟩
  rw [peek?, h.hasStopped, hcons, ← htoken]
  rfl

theorem At.skip (h : At c (t :: ts)) : At c.skip ts := by
  obtain ⟨l, rest, hcons, -, hrest⟩ := List.map_eq_cons_iff.1 h.tokens
  refine ⟨h.stopped, ?_⟩
  rw [Composer.skip, hcons]
  exact hrest

/-! ## Nodes without anchor and tag -/

theorem node_scalar (h : c.peek? = some ⟨.scalar style text, mark⟩) :
    node block indentless (fuel + 1) c = (.scalar mark none style text, c.skip) := by
  simp [node, h, properties, resolveTag, keep]

theorem node_indentless (h : c.peek? = some ⟨.blockEntry, mark⟩) :
    node block true (fuel + 1) c =
      (.sequence mark none (indentlessItems fuel c).1 !(indentlessItems fuel c).2.hasStopped,
        (indentlessItems fuel c).2) := by
  simp [node, h, properties, resolveTag, keep]

theorem node_blockMapping (h : c.peek? = some ⟨.blockMappingStart, mark⟩) :
    node true indentless (fuel + 1) c =
      (.mapping mark none (blockEntries mark fuel c.skip).1
        !(blockEntries mark fuel c.skip).2.hasStopped, (blockEntries mark fuel c.skip).2) := by
  simp [node, h, properties, resolveTag, keep]

theorem node_flowSequence (h : c.peek? = some ⟨.flowSequenceStart, mark⟩) :
    node block indentless (fuel + 1) c =
      (.sequence mark none (flowItems mark fuel true c.skip).1
        !(flowItems mark fuel true c.skip).2.hasStopped, (flowItems mark fuel true c.skip).2) := by
  simp [node, h, properties, resolveTag, keep]

theorem node_flowMapping (h : c.peek? = some ⟨.flowMappingStart, mark⟩) :
    node block indentless (fuel + 1) c =
      (.mapping mark none (flowEntries mark fuel true c.skip).1
        !(flowEntries mark fuel true c.skip).2.hasStopped,
        (flowEntries mark fuel true c.skip).2) := by
  simp [node, h, properties, resolveTag, keep]

/-! ## Items and entries in block layout -/

theorem indentlessItems_end (h : c.peek? = some ⟨t, mark⟩) (ht : (t == .blockEntry) = false) :
    indentlessItems (fuel + 1) c = ([], c) := by
  simp [indentlessItems, h, ht]

theorem indentlessItems_entry {next : Token} (h : c.peek? = some ⟨.blockEntry, mark⟩)
    (hnext : c.skip.peek? = some ⟨next, mark'⟩)
    (hitem : (next == .blockEntry || endsValue next) = false)
    (hnode : node true false fuel c.skip = (n, d)) (hstop : d.hasStopped = false) :
    indentlessItems (fuel + 1) c =
      (n :: (indentlessItems fuel d).1, (indentlessItems fuel d).2) := by
  simp [indentlessItems, h, hnext, hitem, hnode, hstop]

theorem blockEntries_end (h : c.peek? = some ⟨.blockEnd, mark⟩) :
    blockEntries start (fuel + 1) c = ([], c.skip) := by
  simp [blockEntries, h]

theorem blockEntries_entry (h : c.peek? = some ⟨.key, mark⟩)
    (hnext : c.skip.peek? = some ⟨.scalar style text, mark'⟩)
    (hkey : node true true fuel c.skip = (key, d)) (hkeystop : d.hasStopped = false)
    (hvalue : blockValue fuel d = (value, e)) (hstop : e.hasStopped = false) :
    blockEntries start (fuel + 1) c =
      ((key, value) :: (blockEntries start fuel e).1, (blockEntries start fuel e).2) := by
  simp [blockEntries, h, hnext, endsValue, hkey, hkeystop, hvalue, hstop]

theorem blockValue_eq (h : c.peek? = some ⟨.value, mark⟩)
    (hnext : c.skip.peek? = some ⟨t, mark'⟩) (ht : endsValue t = false) :
    blockValue (fuel + 1) c = node true true fuel c.skip := by
  simp [blockValue, h, hnext, ht]

/-! ## Records in block layout -/

section Block

variable {kind : String → Prop} {style : String → Style}

/-- The tokens of a value behind a colon begin with one that no value may be left out before. -/
theorem exists_blockTokens (style : String → Style) {x : Json} (hx : IsEntry kind x) :
    ∃ t rest, blockTokens style x = t :: rest ∧ endsValue t = false := by
  match x, hx with
  | .bool b, _ => exact ⟨_, _, rfl, rfl⟩
  | .number (.whole n), _ => exact ⟨_, _, rfl, rfl⟩
  | .text v, _ => exact ⟨_, _, rfl, rfl⟩
  | .array [], _ => exact ⟨_, _, rfl, rfl⟩
  | .array (x :: xs), _ => exact ⟨_, _, rfl, rfl⟩

/-- The tokens of a record begin a mapping. -/
theorem exists_recordTokens (style : String → Style) {x : Json} (hx : IsRecord kind x) :
    ∃ rest, blockTokens style x = .blockMappingStart :: rest := by
  match x, hx with
  | .object (m :: ms), _ => exact ⟨_, rfl⟩

theorem At.composes_scalar {style : Style} (block indentless : Bool) (fuel : Nat)
    (h : At c (.scalar style text :: ts)) :
    ∃ mark d, node block indentless (fuel + 1) c = (.scalar mark none style text, d) ∧ At d ts := by
  obtain ⟨mark, hpeek⟩ := h.exists_peek
  exact ⟨mark, c.skip, node_scalar hpeek, h.skip⟩

/-- A text that is written without quotes stands for something. -/
def StandsPlain (kind : String → Prop) (style : String → Style) : Prop :=
  ∀ v, kind v → style v = .plain → v.isEmpty = false ∧ Plain.isNull v = false

mutual

/-- The tokens of a value behind a colon. -/
theorem composes_value (hstyle : StandsPlain kind style) (ts : List Token)
    (hts : ∃ t rest, ts = t :: rest ∧ t ≠ .blockEntry) :
    ∀ x, IsEntry kind x → ∀ fuel c, At c (blockTokens style x ++ ts) →
      2 * (blockTokens style x).length + 2 ≤ fuel →
      ∃ n d, node true true fuel c = (n, d) ∧ At d ts ∧ Shows n x
  | .bool b, _, fuel, c, h, hfuel => by
    obtain ⟨f, rfl⟩ : ∃ f, fuel = f + 1 := ⟨fuel - 1, by omega⟩
    obtain ⟨mark, d, hnode, hd⟩ := At.composes_scalar true true f h
    exact ⟨_, d, hnode, hd, mark, rfl⟩
  | .number (.whole n), hn, fuel, c, h, hfuel => by
    obtain ⟨f, rfl⟩ : ∃ f, fuel = f + 1 := ⟨fuel - 1, by omega⟩
    obtain ⟨mark, d, hnode, hd⟩ := At.composes_scalar true true f h
    exact ⟨_, d, hnode, hd, mark, rfl⟩
  | .text v, hv, fuel, c, h, hfuel => by
    obtain ⟨f, rfl⟩ : ∃ f, fuel = f + 1 := ⟨fuel - 1, by omega⟩
    obtain ⟨mark, d, hnode, hd⟩ := At.composes_scalar true true f h
    exact ⟨_, d, hnode, hd, mark, style v, rfl, hstyle v hv⟩
  | .array [], _, fuel, c, h, hfuel => by
    obtain ⟨f, rfl⟩ : ∃ f, fuel = f + 2 := ⟨fuel - 2, by omega⟩
    have hopen : At c (.flowSequenceStart :: .flowSequenceEnd :: ts) := h
    obtain ⟨mark, hpeek⟩ := hopen.exists_peek
    obtain ⟨close, hclose⟩ := hopen.skip.exists_peek
    have hitems : flowItems mark (f + 1) true c.skip = ([], c.skip.skip) := by
      simp [flowItems, hclose]
    refine ⟨_, c.skip.skip, by rw [node_flowSequence hpeek, hitems], hopen.skip.skip, ?_⟩
    rw [hopen.skip.skip.hasStopped]
    exact ⟨mark, [], rfl, rfl⟩
  | .array (x :: xs), hxs, fuel, c, h, hfuel => by
    obtain ⟨f, rfl⟩ : ∃ f, fuel = f + 1 := ⟨fuel - 1, by omega⟩
    have hlength : (itemTokens style (x :: xs)).length =
        (blockTokens style (.array (x :: xs))).length := rfl
    obtain ⟨mark, hpeek⟩ := h.exists_peek
    obtain ⟨ns, d, hitems, hd, hshows⟩ :=
      composes_items hstyle ts hts (x :: xs) hxs f c h (by omega)
    refine ⟨_, d, by rw [node_indentless hpeek, hitems], hd, ?_⟩
    rw [hd.hasStopped]
    exact ⟨mark, ns, rfl, hshows⟩

/-- The tokens of a record. -/
theorem composes_record (hstyle : StandsPlain kind style) (ts : List Token) (indentless : Bool) :
    ∀ x, IsRecord kind x → ∀ fuel c, At c (blockTokens style x ++ ts) →
      2 * (blockTokens style x).length + 2 ≤ fuel →
      ∃ n d, node true indentless fuel c = (n, d) ∧ At d ts ∧ Shows n x
  | .object (m :: ms), hms, fuel, c, h, hfuel => by
    obtain ⟨f, rfl⟩ : ∃ f, fuel = f + 1 := ⟨fuel - 1, by omega⟩
    have hopen :
        At c (.blockMappingStart :: (memberTokens style (m :: ms) ++ .blockEnd :: ts)) := by
      simpa [blockTokens] using h
    have hlength : (blockTokens style (.object (m :: ms))).length =
        (memberTokens style (m :: ms)).length + 2 := by
      simp [blockTokens]
    obtain ⟨mark, hpeek⟩ := hopen.exists_peek
    obtain ⟨es, d, hentries, hd, hshows⟩ :=
      composes_members hstyle ts mark (m :: ms) hms f c.skip hopen.skip (by omega)
    refine ⟨_, d, by rw [node_blockMapping hpeek, hentries], hd, ?_⟩
    rw [hd.hasStopped]
    exact ⟨mark, es, rfl, hshows⟩

/-- The tokens of items. -/
theorem composes_items (hstyle : StandsPlain kind style) (ts : List Token)
    (hts : ∃ t rest, ts = t :: rest ∧ t ≠ .blockEntry) :
    ∀ xs, AreRecords kind xs → ∀ fuel c, At c (itemTokens style xs ++ ts) →
      2 * (itemTokens style xs).length + 1 ≤ fuel →
      ∃ ns d, indentlessItems fuel c = (ns, d) ∧ At d ts ∧ ShowItems ns xs
  | [], _, fuel, c, h, hfuel => by
    obtain ⟨f, rfl⟩ : ∃ f, fuel = f + 1 := ⟨fuel - 1, by omega⟩
    obtain ⟨t, rest, rfl, ht⟩ := hts
    obtain ⟨mark, hpeek⟩ := h.exists_peek
    exact ⟨[], c, indentlessItems_end hpeek (beq_eq_false_iff_ne.2 ht), h, rfl⟩
  | x :: xs, ⟨hx, hxs⟩, fuel, c, h, hfuel => by
    obtain ⟨f, rfl⟩ : ∃ f, fuel = f + 1 := ⟨fuel - 1, by omega⟩
    have hentry : At c (.blockEntry :: (blockTokens style x ++ (itemTokens style xs ++ ts))) := by
      simpa [itemTokens] using h
    have hlength : (itemTokens style (x :: xs)).length =
        (blockTokens style x).length + (itemTokens style xs).length + 1 := by
      simp [itemTokens]
    obtain ⟨mark, hpeek⟩ := hentry.exists_peek
    obtain ⟨more, hmore⟩ := exists_recordTokens style hx
    have hitem := hentry.skip
    rw [hmore] at hitem
    obtain ⟨mark', hnext⟩ := hitem.exists_peek
    obtain ⟨n, d, hnode, hd, hn⟩ :=
      composes_record hstyle _ false x hx f c.skip hentry.skip (by omega)
    obtain ⟨ns, e, hitems, he, hns⟩ := composes_items hstyle ts hts xs hxs f d hd (by omega)
    refine ⟨n :: ns, e, ?_, he, n, ns, rfl, hn, hns⟩
    rw [indentlessItems_entry hpeek hnext rfl hnode hd.hasStopped, hitems]

/-- The tokens of members, and the end of their mapping. -/
theorem composes_members (hstyle : StandsPlain kind style) (ts : List Token) (start : Mark) :
    ∀ ms, AreEntries kind ms → ∀ fuel c, At c (memberTokens style ms ++ .blockEnd :: ts) →
      2 * (memberTokens style ms).length + 1 ≤ fuel →
      ∃ es d, blockEntries start fuel c = (es, d) ∧ At d ts ∧ ShowEntries es ms
  | [], _, fuel, c, h, hfuel => by
    obtain ⟨f, rfl⟩ : ∃ f, fuel = f + 1 := ⟨fuel - 1, by omega⟩
    obtain ⟨mark, hpeek⟩ := At.exists_peek h
    exact ⟨[], c.skip, blockEntries_end hpeek, At.skip h, rfl⟩
  | (k, x) :: ms, ⟨hk, hx, hms⟩, fuel, c, h, hfuel => by
    obtain ⟨f, rfl⟩ : ∃ f, fuel = f + 3 := ⟨fuel - 3, by simp [memberTokens] at hfuel; omega⟩
    have hentry : At c (.key :: .scalar .plain k :: .value :: (blockTokens style x ++
        (memberTokens style ms ++ .blockEnd :: ts))) := by
      simpa [memberTokens] using h
    have hlength : (memberTokens style ((k, x) :: ms)).length =
        (blockTokens style x).length + (memberTokens style ms).length + 3 := by
      simp [memberTokens]
    obtain ⟨mark, hpeek⟩ := hentry.exists_peek
    obtain ⟨mark', hnext⟩ := hentry.skip.exists_peek
    obtain ⟨place, d, hkey, hd⟩ :=
      At.composes_scalar true true (f + 1) hentry.skip
    obtain ⟨colon, hcolon⟩ := hd.exists_peek
    obtain ⟨t, more, hmore, ht⟩ := exists_blockTokens style hx
    have hafter := hd.skip
    rw [hmore] at hafter
    obtain ⟨first, hfirst⟩ := hafter.exists_peek
    have hnext' : ∃ t rest, memberTokens style ms ++ .blockEnd :: ts = t :: rest ∧
        t ≠ .blockEntry := by
      cases ms with
      | nil => exact ⟨_, _, rfl, by decide⟩
      | cons m ms => exact ⟨_, _, rfl, by decide⟩
    obtain ⟨n, e, hvalue, he, hn⟩ :=
      composes_value hstyle _ hnext' x hx (f + 1) d.skip hd.skip (by omega)
    obtain ⟨es, e', hentries, he', hes⟩ :=
      composes_members hstyle ts start ms hms (f + 2) e he (by omega)
    rw [← blockValue_eq hcolon hfirst ht] at hvalue
    refine ⟨(_, n) :: es, e', ?_, he', _, n, es, rfl, ⟨place, .plain, rfl⟩, hn, hes⟩
    rw [blockEntries_entry hpeek hnext hkey hd.hasStopped hvalue he.hasStopped, hentries]

end

end Block

/-! ## Items and entries between brackets -/

theorem flowItems_end {first : Bool} (h : c.peek? = some ⟨.flowSequenceEnd, mark⟩) :
    flowItems start (fuel + 1) first c = ([], c.skip) := by
  simp [flowItems, h]

theorem flowItems_first (h : c.peek? = some ⟨.flowMappingStart, mark⟩)
    (hnode : node false false fuel c = (n, d)) (hstop : d.hasStopped = false) :
    flowItems start (fuel + 1) true c =
      (n :: (flowItems start fuel false d).1, (flowItems start fuel false d).2) := by
  simp [flowItems, h, hnode, hstop]

theorem flowItems_next (h : c.peek? = some ⟨.flowEntry, mark⟩)
    (hnext : c.skip.peek? = some ⟨.flowMappingStart, mark'⟩)
    (hnode : node false false fuel c.skip = (n, d)) (hstop : d.hasStopped = false) :
    flowItems start (fuel + 1) false c =
      (n :: (flowItems start fuel false d).1, (flowItems start fuel false d).2) := by
  simp [flowItems, h, hnext, hnode, hstop]

theorem flowEntries_end {first : Bool} (h : c.peek? = some ⟨.flowMappingEnd, mark⟩) :
    flowEntries start (fuel + 1) first c = ([], c.skip) := by
  simp [flowEntries, h]

theorem flowEntries_first (h : c.peek? = some ⟨.key, mark⟩)
    (hentry : flowEntry fuel c.skip = (key, value, d)) (hstop : d.hasStopped = false) :
    flowEntries start (fuel + 1) true c =
      ((key, value) :: (flowEntries start fuel false d).1, (flowEntries start fuel false d).2) := by
  simp [flowEntries, h, hentry, hstop]

theorem flowEntries_next (h : c.peek? = some ⟨.flowEntry, mark⟩)
    (hnext : c.skip.peek? = some ⟨.key, mark'⟩)
    (hentry : flowEntry fuel c.skip.skip = (key, value, d)) (hstop : d.hasStopped = false) :
    flowEntries start (fuel + 1) false c =
      ((key, value) :: (flowEntries start fuel false d).1, (flowEntries start fuel false d).2) := by
  simp [flowEntries, h, hnext, hentry, hstop]

theorem flowEntry_eq (h : c.peek? = some ⟨.scalar style text, mark⟩)
    (hkey : node false false fuel c = (key, d)) (hstop : d.hasStopped = false)
    (hvalue : flowValue fuel d = (value, e)) : flowEntry (fuel + 1) c = (key, value, e) := by
  simp [flowEntry, h, endsFlowEntry, hkey, hstop, hvalue]

theorem flowValue_eq (h : c.peek? = some ⟨.value, mark⟩)
    (hnext : c.skip.peek? = some ⟨t, mark'⟩) (ht : endsFlowEntry t = false) :
    flowValue (fuel + 1) c = node false false fuel c.skip := by
  simp [flowValue, h, hnext, ht]

/-! ## Records between brackets -/

section Flow

variable {kind : String → Prop}

/-- The tokens of a value behind a colon begin with one that no value may be left out before. -/
theorem exists_flowTokens {x : Json} (hx : IsEntry kind x) :
    ∃ t rest, flowTokens x = t :: rest ∧ endsFlowEntry t = false := by
  match x, hx with
  | .bool b, _ => exact ⟨_, _, rfl, rfl⟩
  | .number (.whole n), _ => exact ⟨_, _, rfl, rfl⟩
  | .text v, _ => exact ⟨_, _, rfl, rfl⟩
  | .array [], _ => exact ⟨_, _, rfl, rfl⟩
  | .array (x :: xs), _ => exact ⟨_, _, rfl, rfl⟩

/-- The tokens of a record begin a mapping. -/
theorem exists_flowRecordTokens {x : Json} (hx : IsRecord kind x) :
    ∃ rest, flowTokens x = .flowMappingStart :: rest := by
  match x, hx with
  | .object (m :: ms), _ => exact ⟨_, rfl⟩

/-- A key and its value, if the value is composed. -/
theorem At.composes_flowEntry {k : String} {x : Json} (hx : IsEntry kind x)
    (h : At c (.scalar .double k :: .value :: (flowTokens x ++ ts)))
    (hvalue : ∀ d, At d (flowTokens x ++ ts) →
      ∃ n e, node false false fuel d = (n, e) ∧ At e ts ∧ Shows n x) :
    ∃ key n e, flowEntry (fuel + 2) c = (key, n, e) ∧ At e ts ∧ ShowsKey key k ∧ Shows n x := by
  obtain ⟨mark, hpeek⟩ := h.exists_peek
  obtain ⟨place, d, hkey, hd⟩ := h.composes_scalar false false fuel
  obtain ⟨colon, hcolon⟩ := hd.exists_peek
  obtain ⟨t, more, hmore, ht⟩ := exists_flowTokens hx
  have hafter := hd.skip
  rw [hmore] at hafter
  obtain ⟨first, hfirst⟩ := hafter.exists_peek
  obtain ⟨n, e, hnode, he, hn⟩ := hvalue d.skip hd.skip
  rw [← flowValue_eq hcolon hfirst ht] at hnode
  exact ⟨_, n, e, flowEntry_eq hpeek hkey hd.hasStopped hnode, he, ⟨place, .double, rfl⟩, hn⟩

mutual

/-- The tokens of a value behind a colon. -/
theorem composes_flowValue (ts : List Token) :
    ∀ x, IsEntry kind x → ∀ fuel c, At c (flowTokens x ++ ts) →
      2 * (flowTokens x).length + 2 ≤ fuel →
      ∃ n d, node false false fuel c = (n, d) ∧ At d ts ∧ Shows n x
  | .bool b, _, fuel, c, h, hfuel => by
    obtain ⟨f, rfl⟩ : ∃ f, fuel = f + 1 := ⟨fuel - 1, by omega⟩
    obtain ⟨mark, d, hnode, hd⟩ := At.composes_scalar false false f h
    exact ⟨_, d, hnode, hd, mark, rfl⟩
  | .number (.whole n), hn, fuel, c, h, hfuel => by
    obtain ⟨f, rfl⟩ : ∃ f, fuel = f + 1 := ⟨fuel - 1, by omega⟩
    obtain ⟨mark, d, hnode, hd⟩ := At.composes_scalar false false f h
    exact ⟨_, d, hnode, hd, mark, rfl⟩
  | .text v, hv, fuel, c, h, hfuel => by
    obtain ⟨f, rfl⟩ : ∃ f, fuel = f + 1 := ⟨fuel - 1, by omega⟩
    obtain ⟨mark, d, hnode, hd⟩ := At.composes_scalar false false f h
    exact ⟨_, d, hnode, hd, mark, .double, rfl, fun hplain => by cases hplain⟩
  | .array [], _, fuel, c, h, hfuel => by
    obtain ⟨f, rfl⟩ : ∃ f, fuel = f + 2 := ⟨fuel - 2, by omega⟩
    have hopen : At c (.flowSequenceStart :: .flowSequenceEnd :: ts) := h
    obtain ⟨mark, hpeek⟩ := hopen.exists_peek
    obtain ⟨close, hclose⟩ := hopen.skip.exists_peek
    refine ⟨_, c.skip.skip, by rw [node_flowSequence hpeek, flowItems_end hclose],
      hopen.skip.skip, ?_⟩
    rw [hopen.skip.skip.hasStopped]
    exact ⟨mark, [], rfl, rfl⟩
  | .array (x :: xs), ⟨hx, hxs⟩, fuel, c, h, hfuel => by
    obtain ⟨f, rfl⟩ : ∃ f, fuel = f + 2 := ⟨fuel - 2, by omega⟩
    have hopen : At c (.flowSequenceStart :: (flowTokens x ++
        (flowItemTokens xs ++ .flowSequenceEnd :: ts))) := by
      simpa [flowTokens] using h
    have hlength : (flowTokens (.array (x :: xs))).length =
        (flowTokens x).length + (flowItemTokens xs).length + 2 := by
      simp [flowTokens]
      omega
    obtain ⟨mark, hpeek⟩ := hopen.exists_peek
    obtain ⟨more, hmore⟩ := exists_flowRecordTokens hx
    have hfirst := hopen.skip
    rw [hmore] at hfirst
    obtain ⟨mark', hnext⟩ := hfirst.exists_peek
    obtain ⟨n, d, hnode, hd, hn⟩ :=
      composes_flowRecord _ false false x hx f c.skip hopen.skip (by omega)
    obtain ⟨ns, e, hitems, he, hns⟩ := composes_flowItems ts mark xs hxs f d hd (by omega)
    refine ⟨_, e,
      by rw [node_flowSequence hpeek, flowItems_first hnext hnode hd.hasStopped, hitems], he, ?_⟩
    rw [he.hasStopped]
    exact ⟨mark, n :: ns, rfl, n, ns, rfl, hn, hns⟩

/-- The tokens of a record. -/
theorem composes_flowRecord (ts : List Token) (block indentless : Bool) :
    ∀ x, IsRecord kind x → ∀ fuel c, At c (flowTokens x ++ ts) →
      2 * (flowTokens x).length + 2 ≤ fuel →
      ∃ n d, node block indentless fuel c = (n, d) ∧ At d ts ∧ Shows n x
  | .object ((k, x) :: ms), ⟨hk, hx, hms⟩, fuel, c, h, hfuel => by
    obtain ⟨f, rfl⟩ : ∃ f, fuel = f + 4 := ⟨fuel - 4, by simp [flowTokens] at hfuel; omega⟩
    have hopen : At c (.flowMappingStart :: .key :: .scalar .double k :: .value :: (flowTokens x ++
        (flowMemberTokens ms ++ .flowMappingEnd :: ts))) := by
      simpa [flowTokens] using h
    have hlength : (flowTokens (.object ((k, x) :: ms))).length =
        (flowTokens x).length + (flowMemberTokens ms).length + 5 := by
      simp [flowTokens]
      omega
    obtain ⟨mark, hpeek⟩ := hopen.exists_peek
    obtain ⟨mark', hnext⟩ := hopen.skip.exists_peek
    obtain ⟨key, n, d, hentry, hd, hkey, hn⟩ := hopen.skip.skip.composes_flowEntry hx
      fun d hd => composes_flowValue _ x hx f d hd (by omega)
    obtain ⟨es, e, hentries, he, hes⟩ := composes_flowMembers ts mark ms hms (f + 2) d hd (by omega)
    refine ⟨_, e, ?_, he, mark, (key, n) :: es, rfl, key, n, es, rfl, hkey, hn, hes⟩
    rw [node_flowMapping hpeek, flowEntries_first hnext hentry hd.hasStopped, hentries,
      he.hasStopped]
    rfl

/-- The tokens of the items after the first one, and the end of their list. -/
theorem composes_flowItems (ts : List Token) (start : Mark) :
    ∀ xs, AreRecords kind xs → ∀ fuel c, At c (flowItemTokens xs ++ .flowSequenceEnd :: ts) →
      2 * (flowItemTokens xs).length + 1 ≤ fuel →
      ∃ ns d, flowItems start fuel false c = (ns, d) ∧ At d ts ∧ ShowItems ns xs
  | [], _, fuel, c, h, hfuel => by
    obtain ⟨f, rfl⟩ : ∃ f, fuel = f + 1 := ⟨fuel - 1, by omega⟩
    obtain ⟨mark, hpeek⟩ := At.exists_peek h
    exact ⟨[], c.skip, flowItems_end hpeek, At.skip h, rfl⟩
  | x :: xs, ⟨hx, hxs⟩, fuel, c, h, hfuel => by
    obtain ⟨f, rfl⟩ : ∃ f, fuel = f + 1 := ⟨fuel - 1, by omega⟩
    have hentry : At c (.flowEntry :: (flowTokens x ++
        (flowItemTokens xs ++ .flowSequenceEnd :: ts))) := by
      simpa [flowItemTokens] using h
    have hlength : (flowItemTokens (x :: xs)).length =
        (flowTokens x).length + (flowItemTokens xs).length + 1 := by
      simp [flowItemTokens]
    obtain ⟨mark, hpeek⟩ := hentry.exists_peek
    obtain ⟨more, hmore⟩ := exists_flowRecordTokens hx
    have hitem := hentry.skip
    rw [hmore] at hitem
    obtain ⟨mark', hnext⟩ := hitem.exists_peek
    obtain ⟨n, d, hnode, hd, hn⟩ :=
      composes_flowRecord _ false false x hx f c.skip hentry.skip (by omega)
    obtain ⟨ns, e, hitems, he, hns⟩ := composes_flowItems ts start xs hxs f d hd (by omega)
    refine ⟨n :: ns, e, ?_, he, n, ns, rfl, hn, hns⟩
    rw [flowItems_next hpeek hnext hnode hd.hasStopped, hitems]

/-- The tokens of the members after the first one, and the end of their record. -/
theorem composes_flowMembers (ts : List Token) (start : Mark) :
    ∀ ms, AreEntries kind ms → ∀ fuel c, At c (flowMemberTokens ms ++ .flowMappingEnd :: ts) →
      2 * (flowMemberTokens ms).length + 1 ≤ fuel →
      ∃ es d, flowEntries start fuel false c = (es, d) ∧ At d ts ∧ ShowEntries es ms
  | [], _, fuel, c, h, hfuel => by
    obtain ⟨f, rfl⟩ : ∃ f, fuel = f + 1 := ⟨fuel - 1, by omega⟩
    obtain ⟨mark, hpeek⟩ := At.exists_peek h
    exact ⟨[], c.skip, flowEntries_end hpeek, At.skip h, rfl⟩
  | (k, x) :: ms, ⟨hk, hx, hms⟩, fuel, c, h, hfuel => by
    obtain ⟨f, rfl⟩ : ∃ f, fuel = f + 3 := ⟨fuel - 3, by simp [flowMemberTokens] at hfuel; omega⟩
    have hopen : At c (.flowEntry :: .key :: .scalar .double k :: .value :: (flowTokens x ++
        (flowMemberTokens ms ++ .flowMappingEnd :: ts))) := by
      simpa [flowMemberTokens] using h
    have hlength : (flowMemberTokens ((k, x) :: ms)).length =
        (flowTokens x).length + (flowMemberTokens ms).length + 4 := by
      simp [flowMemberTokens]
    obtain ⟨mark, hpeek⟩ := hopen.exists_peek
    obtain ⟨mark', hnext⟩ := hopen.skip.exists_peek
    obtain ⟨key, n, d, hentry, hd, hkey, hn⟩ := hopen.skip.skip.composes_flowEntry hx
      fun d hd => composes_flowValue _ x hx f d hd (by omega)
    obtain ⟨es, e, hentries, he, hes⟩ :=
      composes_flowMembers ts start ms hms (f + 2) d hd (by omega)
    refine ⟨_, e, ?_, he, key, n, es, rfl, hkey, hn, hes⟩
    rw [flowEntries_next hpeek hnext hentry hd.hasStopped, hentries]

end

end Flow

/-! ## Documents -/

/-- Where the end of the text comes next, nothing is wrong with it. -/
theorem At.ending_eq (h : At c [.streamEnd]) : c.ending = none := by
  obtain ⟨mark, hpeek⟩ := h.exists_peek
  obtain ⟨⟨token, mark'⟩, rest, hcons, htoken, -⟩ := List.map_eq_cons_iff.1 h.tokens
  obtain rfl : token = .streamEnd := htoken
  rw [ending, hpeek, hcons]
  rfl

end Composer

open Composer

/-- A text whose tokens are those of a record, and compose it, is a document that shows the record
and with which nothing is wrong. -/
theorem Document.shows_of_tokens {cs : String} {x : Json} {lexemes : List Lexeme} {t : Token}
    {ts : List Token} (hrun : tokensOf cs.toList = (lexemes, none))
    (hlexemes : lexemes.map Lexeme.token = t :: ts)
    (ht : t = .blockMappingStart ∨ t = .flowMappingStart)
    (hnode : ∀ c, At c (t :: ts) → ∃ n d, node true false (4 * (t :: ts).length + 16) c = (n, d) ∧
      At d [.streamEnd] ∧ Shows n x) :
    Shows (Document.ofString cs).root x ∧ (Document.ofString cs).ending = none := by
  obtain ⟨fault, hfault⟩ : ∃ fault : Fault,
      { problem := "did not find expected <stream-end>" } = fault := ⟨_, rfl⟩
  have hat : At { tokens := lexemes, fault } (t :: ts) := ⟨rfl, hlexemes⟩
  have hat' : At { tokens := lexemes, fault, handles := usualHandles } (t :: ts) := ⟨rfl, hlexemes⟩
  obtain ⟨mark, hpeek⟩ := hat.exists_peek
  obtain ⟨n, d, hn, hd, hshows⟩ := hnode _ hat'
  have hlength : lexemes.length = (t :: ts).length := by rw [← hlexemes, List.length_map]
  have hroot : Composer.root { tokens := lexemes, fault } = (n, d) := by
    rcases ht with rfl | rfl
    · simp only [Composer.root, hpeek, hlength]
      exact hn
    · simp only [Composer.root, hpeek, hlength]
      exact hn
  simp only [Document.ofString, hrun, Option.getD_none, hfault, hroot]
  exact ⟨hshows, hd.ending_eq⟩

end Cadastre.Yaml
