import Cadastre.Proofs.Decode.Yaml
import Cadastre.Proofs.Saved.Record
import Cadastre.Proofs.Saved.RoundTrip

/-!
# Saved snapshots under other names

A snapshot that is saved as YAML is read back unchanged from every path that does not name a JSON
file. A snapshot that is saved as JSON is read back from there if its strings are steady, and is
refused if one of them has a character that may not stand in YAML.
-/

namespace Cadastre

open Yaml

/-- A path whose extension is not `json`, in any case of its letters, is read as YAML. -/
theorem formatOf_eq_yaml {path : String} (hpath : ∀ extension ∈ Path.extension? path,
    extension.toList.map Char.toLower ≠ "json".toList) : formatOf path = .yaml := by
  have hother : (Path.extension? path).any (fun e => Text.sameAsciiWord e "json") = false := by
    cases hextension : Path.extension? path with
    | none => rfl
    | some extension =>
      have hne := hpath extension hextension
      have hlower : "json".toList.map Char.toLower = "json".toList := by decide
      simpa [Text.sameAsciiWord, hlower] using hne
  rw [formatOf, hother]
  rfl

theorem Snapshot.decodeText_render_yaml (s : Snapshot) :
    Snapshot.decodeText .yaml (s.render .yaml) = .ok s := by
  have hrecord : IsRecord (fun _ => True) s.toJson :=
    s.isRecord (fun _ _ => trivial) fun _ _ => trivial
  unfold Snapshot.decodeText Snapshot.render
  exact decodeString_write (fun _ hp => Snapshot.decode_eq s hp) hrecord

/-- A snapshot saved as YAML is read back unchanged from every path whose extension is not `json`, in
any case of its letters. -/
theorem parseSaved_render_yaml (s : Snapshot) (path : String) (hpath : ∀ extension ∈
    Path.extension? path, extension.toList.map Char.toLower ≠ "json".toList) :
    parseSaved path (s.render .yaml) = .ok s := by
  rw [parseSaved, formatOf_eq_yaml hpath, Snapshot.decodeText_render_yaml]

/-- A snapshot with strings that would be read as something else without quotes, with breaks and
blanks at their ends and with controls, saved under a name without extension. -/
theorem parseSaved_render_yaml_plain :
    let s : Snapshot :=
      { generatedAt := Instant.epoch
        routes := [⟨.patch, "null", 65535, .fullUser, " 0x1f\t", "h\u2028\u0085"⟩]
        tables := [⟨"- a: b #c", [⟨"\n\n x\ny \n", "\x7f\ufeff", true⟩, ⟨"", "it's", false⟩]⟩]
        modules := [⟨"true", "---", "~", "1e3", "\x7b", "a\n"⟩]
        warnings := [⟨.db, "[]", some ""⟩, ⟨.runtime, "&a !b", none⟩] }
    Path.extension? "saved/.json" = none ∧
      parseSaved "saved/.json" (s.render .yaml) = .ok s :=
  have hpath : Path.extension? "saved/.json" = none := by decide +kernel
  ⟨hpath, parseSaved_render_yaml _ _ (by simp [hpath])⟩

/-! ## JSON -/

theorem toNat_of_isStampChar {c : Char} (h : isStampChar c = true) :
    0x20 < c.toNat ∧ c.toNat < 0x7f := by
  simp only [isStampChar, Bool.or_eq_true, beq_iff_eq] at h
  obtain ((((h | rfl) | rfl) | rfl) | rfl) | rfl := h
  · have hbounds := toNat_of_isAlphanum h
    omega
  all_goals decide

theorem isSteady_of_isStampChar {cs : List Char} (h : cs.all isStampChar = true) :
    isSteady cs = true := by
  induction cs with
  | nil => rfl
  | cons c cs ih =>
    obtain ⟨hc, hcs⟩ := Bool.and_eq_true_iff.1 h
    obtain ⟨hlow, hhigh⟩ := toNat_of_isStampChar hc
    have hne : ∀ x : Char, x.toNat ≤ 0x20 ∨ 0x7f ≤ x.toNat → c ≠ x := by
      rintro x hx rfl
      omega
    have hallowed : isAllowed c = true := by
      simp only [isAllowed, Bool.or_eq_true, Bool.and_eq_true, beq_iff_eq, decide_eq_true_eq]
      omega
    have hseparator : isSeparator c = false := by
      simp [isSeparator, hne '\u2028' (by decide), hne '\u2029' (by decide)]
    refine isSteady_cons.2 ⟨⟨by simp [hallowed], hne _ (by decide)⟩, ?_, ih hcs⟩
    simp [hseparator, hne ' ' (by decide)]

theorem Snapshot.decodeText_render_json_steady (s : Snapshot)
    (h : ∀ v ∈ s.strings, isSteady v.toList = true) :
    Snapshot.decodeText .yaml (s.render .json) = .ok s := by
  have hrecord : IsRecord (isSteady ·.toList) s.toJson :=
    s.isRecord (fun _ hv => isSteady_of_isStampChar hv) h
  unfold Snapshot.decodeText Snapshot.render
  exact decodeString_pretty (fun _ hp => Snapshot.decode_eq s hp) hrecord

/-- A character that may not stand in YAML is written as it is in JSON, unless it is escaped as a
control. -/
theorem escapedChar_of_forbidden {c : Char} (hlow : 0x20 ≤ c.toNat) (hc : isAllowed c = false) :
    Json.escapedChar c = [c] := by
  refine escapedChar_of_ne ?_ ?_ hlow
  · rintro rfl
    cases hc
  · rintro rfl
    cases hc

/-- A text with a character that may not stand in YAML is refused because of the first one. -/
theorem Snapshot.decodeText_yaml_of_forbidden {text : String}
    (h : text.toList.all isAllowed = false) :
    Snapshot.decodeText .yaml text =
      .error (forbiddenAt (Text.byteCount (text.toList.takeWhile isAllowed))).failure := by
  obtain ⟨fault, hfault⟩ :
      ∃ fault, forbiddenAt (Text.byteCount (text.toList.takeWhile isAllowed)) = fault := ⟨_, rfl⟩
  have htokens : tokensOf text.toList = ([], some fault) := by
    rw [tokensOf, h, ← hfault]
    rfl
  have hdocument : Document.ofString text = ⟨.broken, [], fault, some fault⟩ := by
    rw [Document.ofString, htokens]
    rfl
  rw [hfault]
  show Yaml.decodeString Snapshot.decode text = _
  rw [Yaml.decodeString, hdocument]
  rfl

/-- A forbidden character in a string of a snapshot stands in the snapshot that is saved as JSON. -/
theorem Snapshot.all_render_json_eq_false {s : Snapshot} (h : ∃ v ∈ s.strings, ∃ c ∈ v.toList,
    0x20 ≤ c.toNat ∧ isAllowed c = false) : (s.render .json).toList.all isAllowed = false := by
  obtain ⟨v, hv, c, hc, hlow, hforbidden⟩ := h
  have hmem : c ∈ (s.render .json).toList := by
    have hpretty := Json.mem_prettyAt (escapedChar_of_forbidden hlow hforbidden) hc 0 s.toJson
      (Snapshot.mem_texts hv)
    rw [Snapshot.render, Json.pretty, String.toList_append, String.toList_ofList]
    exact List.mem_append_left _ hpretty
  exact List.all_eq_false.2 ⟨c, hmem, by simp [hforbidden]⟩

/-- A snapshot saved as JSON is read back unchanged from a path whose extension is not `json` if its
strings are steady, and is refused there if one of them has a character that may not stand in YAML
and is not escaped in JSON. -/
theorem parseSaved_render_json_other (s : Snapshot) (path : String) (hpath : ∀ extension ∈
    Path.extension? path, extension.toList.map Char.toLower ≠ "json".toList) :
    ((∀ v ∈ s.strings, isSteady v.toList = true) → parseSaved path (s.render .json) = .ok s) ∧
    ((∃ v ∈ s.strings, ∃ c ∈ v.toList, 0x20 ≤ c.toNat ∧ isAllowed c = false) →
      parseSaved path (s.render .json) = .error (.parsingPrevious path (forbiddenAt
        (Text.byteCount ((s.render .json).toList.takeWhile isAllowed))).failure)) := by
  have hformat := formatOf_eq_yaml hpath
  refine ⟨fun hsteady => ?_, fun hforbidden => ?_⟩
  · rw [parseSaved, hformat, s.decodeText_render_json_steady hsteady]
  · have hrefused := Snapshot.decodeText_yaml_of_forbidden
      (Snapshot.all_render_json_eq_false hforbidden)
    rw [parseSaved, hformat, hrefused]

/-- A snapshot with an escaped quote, control and newline and with a separator is read back from a
text file; one with a control from the second block is refused. -/
theorem parseSaved_render_json_other_text :
    let s : Snapshot :=
      { generatedAt := Instant.epoch
        routes := [⟨.patch, "/a\\\"b", 65535, .fullUser, "r.py", "h\u2028--"⟩]
        tables := [⟨"t: #", [⟨"c\x00", "\n ä", true⟩]⟩]
        modules := []
        warnings := [⟨.db, "null", some ""⟩] }
    let refused : Snapshot := { s with warnings := [⟨.db, "null", some "x\u0080"⟩] }
    Path.extension? "saved/before.txt" = some "txt" ∧
      parseSaved "saved/before.txt" (s.render .json) = .ok s ∧
      ∃ f, parseSaved "saved/before.txt" (refused.render .json) =
        .error (.parsingPrevious "saved/before.txt" f) :=
  have hpath : Path.extension? "saved/before.txt" = some "txt" := by decide +kernel
  have hother : ∀ extension ∈ Path.extension? "saved/before.txt",
      extension.toList.map Char.toLower ≠ "json".toList := by
    rw [hpath]
    decide
  ⟨hpath, (parseSaved_render_json_other _ _ hother).1 (by decide +kernel),
    _, (parseSaved_render_json_other _ _ hother).2 ⟨"x\u0080", by decide +kernel, '\u0080', by decide⟩⟩

/-- A snapshot with a delete character in the path of a route, saved as JSON, is read back under a name
with the extension `json`, and is not read back under another name. -/
theorem parseSaved_render_json_delete :
    let s : Snapshot :=
      ⟨Instant.epoch, [⟨.get, "/a\x7fb", 200, .anyone, "r.py", "h"⟩], [], [], []⟩
    Path.extension? "snapshot.txt" = some "txt" ∧
      parseSaved "snapshot.json" (s.render .json) = .ok s ∧
      parseSaved "snapshot.txt" (s.render .json) ≠ .ok s := by
  intro s
  have hpath : Path.extension? "snapshot.txt" = some "txt" := by decide +kernel
  have hyaml : formatOf "snapshot.txt" = .yaml := by decide +kernel
  have hjson : formatOf "snapshot.json" = .json := by decide +kernel
  have hforbidden : ∃ v ∈ s.strings, ∃ c ∈ v.toList, 0x20 ≤ c.toNat ∧ isAllowed c = false :=
    ⟨"/a\x7fb", by decide +kernel, '\x7f', by decide⟩
  refine ⟨hpath, parseSaved_render_of_formatOf hjson s, ?_⟩
  rw [parseSaved, hyaml,
    Snapshot.decodeText_yaml_of_forbidden (Snapshot.all_render_json_eq_false hforbidden)]
  exact fun h => by cases h

end Cadastre
