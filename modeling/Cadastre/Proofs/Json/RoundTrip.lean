import Cadastre.Proofs.Json.Scalar

/-!
# Reading a written value back

A value with one item or member a line is read back from its text as its own draft, well formed to
its end, if its numbers are natural numbers that fit a machine word. The length of the text bounds
the steps of the reader.
-/

namespace Cadastre.Json

open Text

variable {level outer fuel : Nat} {cs rest : List Char}

/-! ## Values and drafts -/

mutual

/-- The draft of a value that is well formed. -/
def toDraft : Json → Draft
  | .null => .null
  | .bool b => .bool b
  | .number n => .number n
  | .text s => .text s
  | .array items => .array (itemsToDraft items) true
  | .object members => .object (membersToDraft members) true

/-- The drafts of a list of values. -/
def itemsToDraft : List Json → List Draft
  | [] => []
  | x :: xs => toDraft x :: itemsToDraft xs

/-- The drafts of a list of members. -/
def membersToDraft : List (String × Json) → List (Draft × Draft)
  | [] => []
  | (k, x) :: ms => (.text k, toDraft x) :: membersToDraft ms

end

mutual

/-- Every number in a value is a natural number that fits a machine word. -/
def HasWords : Json → Prop
  | .number (.whole n) => 0 ≤ n ∧ n ≤ maxSignificand
  | .number (.real _) => False
  | .array items => ItemsHaveWords items
  | .object members => MembersHaveWords members
  | _ => True

/-- The values of a list have such numbers. -/
def ItemsHaveWords : List Json → Prop
  | [] => True
  | x :: xs => HasWords x ∧ ItemsHaveWords xs

/-- The values of a list of members have such numbers. -/
def MembersHaveWords : List (String × Json) → Prop
  | [] => True
  | (_, x) :: ms => HasWords x ∧ MembersHaveWords ms

end

theorem itemsHaveWords_map {α : Type} {f : α → Json} {as : List α} (h : ∀ a ∈ as, HasWords (f a)) :
    ItemsHaveWords (as.map f) := by
  induction as with
  | nil => trivial
  | cons a as ih =>
    obtain ⟨ha, has⟩ := List.forall_mem_cons.1 h
    exact ⟨ha, ih has⟩

/-! ## Spaces -/

theorem isSpace_newLine (level : Nat) : ∀ c ∈ newLine level, isSpace c = true := by
  intro c hc
  rcases List.mem_cons.1 hc with rfl | hc
  · rfl
  · rw [(List.mem_replicate.1 hc).2]
    rfl

theorem isSpace_of_isDigit {c : Char} (hc : c.isDigit = true) : isSpace c = false := by
  by_contra h
  simp only [isSpace, Bool.not_eq_false, Bool.or_eq_true, beq_iff_eq] at h
  rcases h with ((rfl | rfl) | rfl) | rfl <;> simp at hc

theorem skipSpaces_newLine (level : Nat) (cs : List Char) :
    skipSpaces (newLine level ++ cs) = skipSpaces cs :=
  List.dropWhile_append_of_pos (isSpace_newLine level)

theorem skipSpaces_of_stops (h : Stops isSpace cs) : skipSpaces cs = cs :=
  dropWhile_append_stops (w := []) (by simp) h

theorem skipSpaces_cons {c : Char} (hc : isSpace c = false) (cs : List Char) :
    skipSpaces (c :: cs) = c :: cs :=
  skipSpaces_of_stops (stops_cons.2 hc)

theorem skipSpaces_skipSpaces (cs : List Char) : skipSpaces (skipSpaces cs) = skipSpaces cs :=
  skipSpaces_of_stops (stops_dropWhile isSpace cs)

/-- The reader of values does not mind spaces in front. -/
theorem draft_skipSpaces (fuel : Nat) (cs : List Char) :
    draft fuel (skipSpaces cs) = draft fuel cs := by
  cases fuel with
  | zero => rfl
  | succ fuel => rw [draft, draft, skipSpaces_skipSpaces]

/-- The reader of members does not mind spaces in front. -/
theorem draftMembers_skipSpaces (fuel : Nat) (cs : List Char) :
    draftMembers fuel (skipSpaces cs) = draftMembers fuel cs := by
  cases fuel with
  | zero => rfl
  | succ fuel => rw [draftMembers, draftMembers, skipSpaces_skipSpaces]

theorem draft_space (fuel : Nat) (cs : List Char) : draft fuel (' ' :: cs) = draft fuel cs :=
  (draft_skipSpaces fuel (' ' :: cs)).symm.trans (draft_skipSpaces fuel cs)

theorem draft_newLine (level fuel : Nat) (cs : List Char) :
    draft fuel (newLine level ++ cs) = draft fuel cs := by
  rw [← draft_skipSpaces, skipSpaces_newLine, draft_skipSpaces]

theorem draftMembers_newLine (level fuel : Nat) (cs : List Char) :
    draftMembers fuel (newLine level ++ cs) = draftMembers fuel cs := by
  rw [← draftMembers_skipSpaces, skipSpaces_newLine, draftMembers_skipSpaces]

/-- The text of a value starts with neither a space nor a closing bracket or brace. -/
theorem exists_prettyAt_eq_cons (level : Nat) (v : Json) (hv : HasWords v) :
    ∃ c cs, prettyAt level v = c :: cs ∧ isSpace c = false ∧ c ≠ ']' ∧ c ≠ '\x7d' := by
  cases v with
  | null => exact ⟨_, _, rfl, by decide⟩
  | bool b => cases b <;> exact ⟨_, _, rfl, by decide⟩
  | number n =>
    cases n with
    | whole n =>
      obtain ⟨c, cs, h, hc⟩ := exists_toDigits_eq_cons n.natAbs
      refine ⟨c, cs, ?_, isSpace_of_isDigit hc, ?_, ?_⟩
      · have hn : ¬ n < 0 := by have := hv.1; omega
        rw [prettyAt, numberText, wholeText, if_neg hn, h]
      · rintro rfl
        simp at hc
      · rintro rfl
        simp at hc
    | real x => exact hv.elim
  | text s => exact ⟨_, _, rfl, by decide⟩
  | array xs => cases xs <;> exact ⟨_, _, rfl, by decide⟩
  | object ms => cases ms <;> exact ⟨_, _, rfl, by decide⟩

/-- As many steps as there are characters in the text of a value are at least one. -/
theorem exists_steps {v : Json} (hv : HasWords v) (hf : (prettyAt level v).length ≤ fuel) :
    ∃ f, fuel = f + 1 := by
  obtain ⟨c, cs, h, -⟩ := exists_prettyAt_eq_cons level v hv
  rw [h, List.length_cons] at hf
  exact ⟨fuel - 1, by omega⟩

theorem skipSpaces_prettyAt (level : Nat) {v : Json} (hv : HasWords v) (rest : List Char) :
    skipSpaces (prettyAt level v ++ rest) = prettyAt level v ++ rest := by
  obtain ⟨c, cs, h, hc, -⟩ := exists_prettyAt_eq_cons level v hv
  rw [h, List.cons_append, skipSpaces_cons hc]

/-! ## One value, one item, one member -/

theorem stringDraft_flatMap (s : String) (rest : List Char) :
    stringDraft (s.toList.flatMap escapedChar ++ '"' :: rest) = (.text s, some rest) := by
  rw [stringDraft, string?_flatMap]

/-- A value that starts with a digit is a number. -/
theorem draft_digit {c : Char} (hc : c.isDigit = true) (cs : List Char) :
    draft (fuel + 1) (c :: cs) = numberDraft (c :: cs) := by
  rw [draft, skipSpaces_cons (isSpace_of_isDigit hc)]
  split
  · next h => simp at h
  · next h => obtain ⟨rfl, -⟩ := List.cons.inj h; simp at hc
  · next h => obtain ⟨rfl, -⟩ := List.cons.inj h; simp at hc
  · next h => obtain ⟨rfl, -⟩ := List.cons.inj h; simp at hc
  · next h =>
    obtain ⟨rfl, rfl⟩ := List.cons.inj h
    have hn : (c == 'n') = false := by rw [beq_eq_false_iff_ne]; rintro rfl; simp at hc
    have ht : (c == 't') = false := by rw [beq_eq_false_iff_ne]; rintro rfl; simp at hc
    have hf : (c == 'f') = false := by rw [beq_eq_false_iff_ne]; rintro rfl; simp at hc
    rw [hn, ht, hf]
    rfl

/-- An array with an item has the items that are read after its bracket. -/
theorem draft_bracket {c : Char} (h : skipSpaces rest = c :: cs) (hc : c ≠ ']') :
    draft (fuel + 1) ('[' :: rest) =
      (.array (draftItems fuel (c :: cs)).1 (draftItems fuel (c :: cs)).2.isSome,
        (draftItems fuel (c :: cs)).2) := by
  rw [draft, skipSpaces_cons rfl]
  simp only [h]
  split
  · next heq => exact absurd (List.cons.inj heq).1 hc
  · rfl

/-- An object with a member has the members that are read after its brace. -/
theorem draft_brace {c : Char} (h : skipSpaces rest = c :: cs) (hc : c ≠ '\x7d') :
    draft (fuel + 1) ('\x7b' :: rest) =
      (.object (draftMembers fuel (c :: cs)).1 (draftMembers fuel (c :: cs)).2.isSome,
        (draftMembers fuel (c :: cs)).2) := by
  rw [draft, skipSpaces_cons rfl]
  simp only [h]
  split
  · next heq => exact absurd (List.cons.inj heq).1 hc
  · rfl

/-! ## The round trip -/

mutual

/-- A value is read back from its text, and what follows it is left. -/
theorem draft_prettyAt (level fuel : Nat) (rest : List Char) : ∀ v, HasWords v →
    (prettyAt level v).length ≤ fuel → Stops continuesNumeral rest →
      draft fuel (prettyAt level v ++ rest) = (v.toDraft, some rest)
  | .null, hv, hf, _ => by
    obtain ⟨f, rfl⟩ := exists_steps hv hf
    rfl
  | .bool b, hv, hf, _ => by
    obtain ⟨f, rfl⟩ := exists_steps hv hf
    cases b <;> rfl
  | .number (.whole n), hv, hf, hr => by
    obtain ⟨f, rfl⟩ := exists_steps hv hf
    obtain ⟨h0, hmax⟩ := hv
    have hn : ¬ n < 0 := by omega
    obtain ⟨c, ds, hds, hc⟩ := exists_toDigits_eq_cons n.natAbs
    have hread := numberDraft_toDigits (n := n.natAbs) (by omega) hr
    rw [prettyAt, numberText, wholeText, if_neg hn]
    rw [hds, List.cons_append] at hread ⊢
    rw [draft_digit hc, hread, Int.natAbs_of_nonneg h0]
    rfl
  | .number (.real _), hv, _, _ => hv.elim
  | .text s, hv, hf, _ => by
    obtain ⟨f, rfl⟩ := exists_steps hv hf
    simp only [prettyAt, stringText, List.cons_append, List.append_assoc, List.nil_append]
    exact stringDraft_flatMap s rest
  | .array [], hv, hf, _ => by
    obtain ⟨f, rfl⟩ := exists_steps hv hf
    rfl
  | .array (x :: xs), hv, hf, _ => by
    obtain ⟨hx, hxs⟩ := hv
    obtain ⟨f, rfl⟩ : ∃ f, fuel = f + 2 :=
      ⟨fuel - 2, by simp [prettyAt, newLine] at hf; omega⟩
    simp only [prettyAt, List.length_cons, List.length_append, List.cons_append] at hf
    -- the items stand after the line break, and are followed by another one and the bracket
    have hfirst := draft_prettyAt (level + 1) f
      (prettyItems (level + 1) xs ++ newLine level ++ ']' :: rest) x hx (by omega)
      (by cases xs <;> exact stops_cons.2 rfl)
    have hitems := draftItems_prettyItems (level + 1) level f x.toDraft _ rest xs hxs (by omega)
      hfirst
    obtain ⟨c, cs, hcons, -, hc, -⟩ := exists_prettyAt_eq_cons (level + 1) x hx
    have hskip := skipSpaces_prettyAt (level + 1) hx
      (prettyItems (level + 1) xs ++ newLine level ++ ']' :: rest)
    rw [← skipSpaces_newLine (level + 1)] at hskip
    simp only [prettyAt, hcons, List.cons_append, List.append_assoc, List.nil_append]
      at hskip hitems ⊢
    rw [draft_bracket hskip hc, hitems]
    rfl
  | .object [], hv, hf, _ => by
    obtain ⟨f, rfl⟩ := exists_steps hv hf
    rfl
  | .object ((k, x) :: ms), hv, hf, _ => by
    obtain ⟨hx, hms⟩ := hv
    obtain ⟨f, rfl⟩ : ∃ f, fuel = f + 2 :=
      ⟨fuel - 2, by simp [prettyAt, newLine] at hf; omega⟩
    simp only [prettyAt, List.length_cons, List.length_append, List.cons_append] at hf
    have hfirst := draft_prettyAt (level + 1) f
      (prettyMembers (level + 1) ms ++ newLine level ++ '\x7d' :: rest) x hx (by omega)
      (by cases ms <;> exact stops_cons.2 rfl)
    have hmembers := draftMembers_prettyMembers (level + 1) level f k x.toDraft _ rest ms hms
      (by omega) hfirst
    have hskip := skipSpaces_cons (c := '"') rfl (k.toList.flatMap escapedChar ++
      '"' :: ':' :: ' ' :: (prettyAt (level + 1) x ++
        (prettyMembers (level + 1) ms ++ newLine level ++ '\x7d' :: rest)))
    rw [← skipSpaces_newLine (level + 1)] at hskip
    simp only [prettyAt, stringText, List.cons_append, List.append_assoc, List.nil_append]
      at hskip hmembers ⊢
    rw [draft_brace hskip (by decide), hmembers]
    rfl

/-- The items after one that has been read are read back up to the bracket. -/
theorem draftItems_prettyItems (level outer fuel : Nat) (d : Draft) (cs rest : List Char) : ∀ xs,
    ItemsHaveWords xs → (prettyItems level xs).length ≤ fuel →
      draft fuel cs = (d, some (prettyItems level xs ++ newLine outer ++ ']' :: rest)) →
        draftItems (fuel + 1) cs = (d :: itemsToDraft xs, some rest)
  | [], _, _, hd => by
    simp only [draftItems, hd, prettyItems, List.nil_append, Option.map_some,
      skipSpaces_newLine,
      skipSpaces_cons (c := ']') rfl]
    rfl
  | x :: xs, hv, hf, hd => by
    obtain ⟨hx, hxs⟩ := hv
    obtain ⟨f, rfl⟩ : ∃ f, fuel = f + 1 := ⟨fuel - 1, by simp [prettyItems] at hf; omega⟩
    simp only [prettyItems, newLine, List.length_cons, List.length_append, List.cons_append] at hf
    have hnext := draft_prettyAt level f (prettyItems level xs ++ newLine outer ++ ']' :: rest) x hx
      (by omega) (by cases xs <;> exact stops_cons.2 rfl)
    rw [← draft_newLine level] at hnext
    have hitems := draftItems_prettyItems level outer f x.toDraft _ rest xs hxs (by omega) hnext
    have hcomma : skipSpaces (prettyItems level (x :: xs) ++ newLine outer ++ ']' :: rest) =
        ',' :: (newLine level ++ (prettyAt level x ++
          (prettyItems level xs ++ newLine outer ++ ']' :: rest))) := by
      simp only [prettyItems, List.cons_append, List.append_assoc]
      exact skipSpaces_cons rfl _
    simp only [draftItems, hd, Option.map_some, hcomma] at hitems ⊢
    rw [hitems]
    rfl

/-- The members after one that has been read are read back up to the brace. -/
theorem draftMembers_prettyMembers (level outer fuel : Nat) (k : String) (d : Draft)
    (cs rest : List Char) : ∀ ms, MembersHaveWords ms → (prettyMembers level ms).length ≤ fuel →
      draft fuel cs = (d, some (prettyMembers level ms ++ newLine outer ++ '\x7d' :: rest)) →
        draftMembers (fuel + 1)
            ('"' :: (k.toList.flatMap escapedChar ++ '"' :: ':' :: ' ' :: cs)) =
          ((.text k, d) :: membersToDraft ms, some rest)
  | [], _, _, hd => by
    rw [← draft_space] at hd
    simp only [draftMembers, skipSpaces_cons (c := '"') rfl, skipSpaces_cons (c := ':') rfl,
      stringDraft_flatMap, Option.map_some, hd, prettyMembers, List.nil_append,
      skipSpaces_newLine, skipSpaces_cons (c := '\x7d') rfl]
    rfl
  | (l, x) :: ms, hv, hf, hd => by
    obtain ⟨hx, hms⟩ := hv
    obtain ⟨f, rfl⟩ : ∃ f, fuel = f + 1 := ⟨fuel - 1, by simp [prettyMembers] at hf; omega⟩
    simp only [prettyMembers, newLine, List.length_cons, List.length_append, List.cons_append] at hf
    have hnext := draft_prettyAt level f
      (prettyMembers level ms ++ newLine outer ++ '\x7d' :: rest) x hx (by omega)
      (by cases ms <;> exact stops_cons.2 rfl)
    have hmembers := draftMembers_prettyMembers level outer f l x.toDraft _ rest ms hms (by omega)
      hnext
    rw [← draftMembers_newLine level] at hmembers
    have hcomma : skipSpaces (prettyMembers level ((l, x) :: ms) ++ newLine outer ++
        '\x7d' :: rest) = ',' :: (newLine level ++ ('"' :: (l.toList.flatMap escapedChar ++
          '"' :: ':' :: ' ' :: (prettyAt level x ++
            (prettyMembers level ms ++ newLine outer ++ '\x7d' :: rest))))) := by
      simp only [prettyMembers, stringText, List.cons_append, List.append_assoc, List.nil_append]
      exact skipSpaces_cons rfl _
    rw [← draft_space] at hd
    simp only [draftMembers, skipSpaces_cons (c := '"') rfl, skipSpaces_cons (c := ':') rfl,
      stringDraft_flatMap, Option.map_some, hd, hcomma] at hmembers ⊢
    rw [hmembers]
    rfl

end

/-- The text of a value that ends with a newline is a document that holds it. -/
theorem document_ofString_pretty {v : Json} (hv : HasWords v) :
    Document.ofString (v.pretty ++ "\n") = ⟨v.toDraft, true⟩ := by
  have hread := draft_prettyAt 0 ((prettyAt 0 v).length + 2) ['\n'] v hv (by omega)
    (stops_cons.2 rfl)
  have htext : (v.pretty ++ "\n").toList = prettyAt 0 v ++ ['\n'] := by
    simp [pretty]
  simp only [Document.ofString, htext, List.length_append, List.length_singleton, hread]
  rfl

end Cadastre.Json
