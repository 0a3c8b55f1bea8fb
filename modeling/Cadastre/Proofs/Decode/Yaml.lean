import Cadastre.Decode.YamlSource
import Cadastre.Proofs.Decode.Presented
import Cadastre.Proofs.Yaml.Document

/-!
# YAML presents its values

A node that shows a value presents it, wherever in its document it stands. So a record is read from
its text in block layout as whatever the record is read as, and from its text as JSON if its strings
are steady.
-/

namespace Cadastre.Yaml

open Decode

/-! ## Numbers -/

theorem digits?_append_singleton {ds : List Char} (hds : ds ≠ []) (d : Char) :
    Plain.digits? 10 (ds ++ [d]) = (Plain.digits? 10 ds).bind fun n =>
      (Text.hexDigit? d).bind fun v => if v < 10 then some (10 * n + v) else none := by
  obtain ⟨c, cs, rfl⟩ := List.exists_cons_of_ne_nil hds
  simp [Plain.digits?]

/-- The digits of a number have its value. -/
theorem digits?_toDigits (n : Nat) : Plain.digits? 10 (Nat.toDigits 10 n) = some n := by
  have hdigit : ∀ d < 10, Text.hexDigit? d.digitChar = some d := by decide
  induction n using Nat.strong_induction_on with
  | _ n ih =>
    by_cases hlt : n < 10
    · rw [Nat.toDigits_of_lt_base hlt]
      simp [Plain.digits?, hdigit n hlt, hlt]
    · have hlast : n % 10 < 10 := Nat.mod_lt _ (by omega)
      rw [Nat.toDigits_of_base_le (by omega) (by omega),
        digits?_append_singleton Nat.toDigits_ne_nil, ih (n / 10) (by omega), hdigit _ hlast]
      simp only [Option.bind_some, if_pos hlast, Option.some.injEq]
      omega

/-- Digits without a needless zero at the front have neither sign nor mark of a base. -/
theorem natural?_cons {c : Char} (hdigit : c.isDigit = true) (hzero : c ≠ '0') (cs : List Char) :
    Plain.natural? (c :: cs) = Plain.digits? 10 (c :: cs) := by
  have hplus : c ≠ '+' := by
    rintro rfl
    cases hdigit
  have hminus : c ≠ '-' := by
    rintro rfl
    cases hdigit
  have hsign : Plain.dropSign (c :: cs) = c :: cs := by
    simp [Plain.dropSign, hplus, hminus]
  have hpadded : Plain.isZeroPadded (c :: cs) = false := by
    simp [Plain.isZeroPadded, hsign, hzero]
  simp [Plain.natural?, hpadded, Plain.dropPlus, hplus, Plain.unsigned?, hzero]

/-- The digits of a number are read as the number. -/
theorem natural?_toDigits (n : Nat) : Plain.natural? (Nat.toDigits 10 n) = some n := by
  by_cases hn : n = 0
  · subst hn
    rfl
  · obtain ⟨c, cs, hcons, hdigit⟩ := Text.exists_toDigits_eq_cons n
    have hzero : c ≠ '0' := by
      rintro rfl
      exact Text.head?_toDigits (Nat.pos_of_ne_zero hn) (by rw [hcons]; rfl)
    have hdigits := digits?_toDigits n
    rw [hcons] at hdigits ⊢
    rw [natural?_cons hdigit hzero, hdigits]

/-! ## Nodes -/

theorem keepsRead_place (p : Place) : KeepsRead p := fun _ => rfl

variable {p : Place} {mark : Text.Mark} {style : Style} {text : String}

theorem follow_eq (h : p.isAlias = false) : p.follow = pure p := by
  obtain ⟨anchored, unformed, depth, path, node⟩ := p
  cases node <;> first | rfl | cases h

theorem isAlias_scalar (h : p.node = .scalar mark none style text) : p.isAlias = false := by
  rw [Place.isAlias, h]

theorem key_eq {k : String} (h : ShowsKey p.node k) : Source.key p = pure k := by
  obtain ⟨mark, style, hnode⟩ := h
  have hsource : Source.key p =
      p.follow >>= fun q => q.located (readText "field identifier" q).plain := rfl
  rw [hsource, follow_eq (isAlias_scalar hnode), pure_bind, readText, hnode]
  rfl

/-- A text that stands for something, or has quotes, is not nothing. -/
theorem isNothing_eq (h : style = .plain → text.isEmpty = false ∧ Plain.isNull text = false) :
    isNothing (.scalar mark none style text) = .ok false := by
  rw [isNothing]
  split
  · rfl
  · next hplain =>
    obtain ⟨hempty, hnull⟩ := h (by simpa using hplain)
    simp [hempty, hnull]

theorem readChoice_eq {names : List String} (hnode : p.node = .scalar mark none style text)
    (hmem : text ∈ names) : readChoice names p = .ok text := by
  rw [readChoice, hnode]
  simp [checkChoice, hmem, locatedAt]

mutual

/-- A node that shows a value presents it. -/
theorem presents_of_shows (p : Place) : ∀ x, Shows p.node x → Presents p x
  | .bool b, h => by
    obtain ⟨mark, hnode⟩ := h
    have hsource : Source.bool p = p.follow >>= fun q => q.located (readBool q).plain := rfl
    have hread : readBool p = .ok b := by
      rw [readBool, hnode]
      cases b <;> rfl
    show Source.bool p = pure b
    rw [hsource, follow_eq (isAlias_scalar hnode), pure_bind, hread]
    rfl
  | .number (.whole n), h => by
    obtain ⟨mark, hnode⟩ := h
    intro expected bound h0 hlt
    have hsource : Source.natural expected bound p =
        p.follow >>= fun q => q.located (readNatural expected bound q).plain := rfl
    have hread : readNatural expected bound p = .ok n.toNat := by
      have hbound : n.toNat < bound := by omega
      simp [readNatural, hnode, isBare, natural?_toDigits, hbound]
    rw [hsource, follow_eq (isAlias_scalar hnode), pure_bind, hread]
    rfl
  | .text v, h => by
    obtain ⟨mark, style, hnode, hplain⟩ := h
    have hfollow := follow_eq (isAlias_scalar hnode)
    refine ⟨fun expected => ?_, ?_, fun names hmem => ?_⟩
    · have hsource : Source.text expected p =
          p.follow >>= fun q => q.located (readText expected q).plain := rfl
      rw [hsource, hfollow, pure_bind, readText, hnode]
      rfl
    · have hsource : Source.optional p = p.follow >>= fun q => (isNothing q.node).plain >>=
          fun nothing => if nothing then pure none else pure (some q) := rfl
      rw [hsource, hfollow, pure_bind, hnode, isNothing_eq hplain]
      rfl
    · have hsource : Source.choice names p = p.follow >>= fun q =>
          if p.isAlias then fun budget => locatedAt p.location ((readChoice names q).plain budget)
          else (readChoice names q).plain := rfl
      rw [hsource, hfollow, pure_bind, isAlias_scalar hnode, readChoice_eq hnode hmem]
      rfl
  | .array xs, h => by
    obtain ⟨mark, items, hnode, hitems⟩ := h
    have hlist := presentItems_of_show p xs 0 items hitems
    obtain ⟨anchored, unformed, depth, path, node⟩ := p
    obtain rfl : node = _ := hnode
    exact ⟨_, rfl, keepsRead_place _, hlist⟩
  | .object ms, h => by
    obtain ⟨mark, entries, hnode, hentries⟩ := h
    have hmembers := presentMembers_of_show p ms entries hentries
    obtain ⟨anchored, unformed, depth, path, node⟩ := p
    obtain rfl : node = _ := hnode
    exact ⟨_, fun _ => rfl, keepsRead_place _, hmembers⟩

theorem presentItems_of_show (p : Place) : ∀ xs (i : Nat) (ns : List Node), ShowItems ns xs →
    PresentItems (itemsAt p i ns) xs
  | [], i, ns, h => by
    subst h
    rfl
  | x :: xs, i, ns, ⟨n, rest, hns, hn, hrest⟩ => by
    subst hns
    exact ⟨_, _, rfl, presents_of_shows (p.item i n) x hn,
      presentItems_of_show p xs (i + 1) rest hrest⟩

theorem presentMembers_of_show (p : Place) : ∀ ms (es : List (Node × Node)), ShowEntries es ms →
    PresentMembers (es.map fun (k, v) => (p.key k, p.value k v)) ms
  | [], es, h => by
    subst h
    rfl
  | (k, x) :: ms, es, ⟨key, n, rest, hes, hkey, hn, hrest⟩ => by
    subst hes
    exact ⟨_, _, _, rfl, key_eq hkey, presents_of_shows (p.value key n) x hn,
      presentMembers_of_show p ms rest hrest⟩

end

/-! ## Texts -/

variable {kind : String → Prop} {α : Type} {read : Place → Decoding α} {x : Json} {a : α}

/-- A document that shows a value, and with which nothing is wrong, is read as whatever the value is
read as. -/
theorem decodeString_of_shows {cs : String} (hread : ∀ p, Presents p x → read p = pure a)
    (h : Shows (Document.ofString cs).root x ∧ (Document.ofString cs).ending = none) :
    decodeString read cs = .ok a := by
  obtain ⟨hshows, hending⟩ := h
  have hplace : Presents (Document.ofString cs).place x := presents_of_shows _ x hshows
  simp only [decodeString, hread _ hplace, hending]
  rfl

/-- A record is read back from its text in block layout. -/
theorem decodeString_write (hread : ∀ p, Presents p x → read p = pure a) (hx : IsRecord kind x) :
    decodeString read (write x) = .ok a :=
  decodeString_of_shows hread (Document.shows_write hx)

/-- A record is read back from its text as JSON, if its strings are steady. -/
theorem decodeString_pretty (hread : ∀ p, Presents p x → read p = pure a)
    (hx : IsRecord (isSteady ·.toList) x) : decodeString read (x.pretty ++ "\n") = .ok a :=
  decodeString_of_shows hread (Document.shows_pretty hx)

end Cadastre.Yaml
