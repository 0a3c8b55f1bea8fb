import Cadastre.Command.Basic
import Cadastre.Proofs.Decode.Json
import Cadastre.Proofs.Saved.Fields

/-!
# Saved snapshots are read back

A snapshot that is saved as JSON is read back unchanged from every path that names a JSON file.
-/

namespace Cadastre

open Json

/-! ## The numbers in a saved snapshot -/

theorem Route.hasWords (r : Route) : HasWords r.toJson := by
  have hlt : r.status.toNat < 65536 := r.status.toNat_lt
  have hmax : (65536 : Int) ≤ maxSignificand := by decide
  exact ⟨trivial, trivial, ⟨by omega, by omega⟩, trivial, trivial, trivial, trivial⟩

theorem Column.hasWords (c : Column) : HasWords c.toJson :=
  ⟨trivial, trivial, trivial, trivial⟩

theorem Table.hasWords (t : Table) : HasWords t.toJson :=
  ⟨trivial, itemsHaveWords_map fun c _ => c.hasWords, trivial⟩

theorem AdminModule.hasWords (m : AdminModule) : HasWords m.toJson :=
  ⟨trivial, trivial, trivial, trivial, trivial, trivial, trivial⟩

theorem Warning.hasWords (w : Warning) : HasWords w.toJson := by
  obtain ⟨source, message, detail⟩ := w
  cases detail with
  | none => exact ⟨trivial, trivial, trivial⟩
  | some d => exact ⟨trivial, trivial, trivial, trivial⟩

/-- The only numbers in a saved snapshot are the statuses of its routes. -/
theorem Snapshot.hasWords (s : Snapshot) : HasWords s.toJson :=
  ⟨trivial, itemsHaveWords_map fun r _ => r.hasWords, itemsHaveWords_map fun t _ => t.hasWords,
    itemsHaveWords_map fun m _ => m.hasWords, itemsHaveWords_map fun w _ => w.hasWords, trivial⟩

/-! ## The round trip -/

theorem Snapshot.decodeText_render_json (s : Snapshot) :
    Snapshot.decodeText .json (s.render .json) = .ok s := by
  unfold Snapshot.decodeText Snapshot.render
  exact decodeString_pretty s.hasWords fun _ hx => Snapshot.decode_eq s hx

/-- A path whose extension is `json`, in any case of its letters, is read as JSON. -/
theorem formatOf_eq_json {path extension : String} (hpath : Path.extension? path = some extension)
    (hjson : extension.toList.map Char.toLower = "json".toList) : formatOf path = .json := by
  have hsame : Text.sameAsciiWord extension "json" = true := by
    rw [Text.sameAsciiWord, hjson]
    decide
  rw [formatOf, hpath, if_pos (by simpa using hsame)]

theorem parseSaved_render_of_formatOf {path : String} (h : formatOf path = .json) (s : Snapshot) :
    parseSaved path (s.render .json) = .ok s := by
  rw [parseSaved, h, Snapshot.decodeText_render_json]

/-- A snapshot saved as JSON is read back unchanged from every path whose extension is `json`, in any
case of its letters. -/
theorem parseSaved_render_json (s : Snapshot) (path extension : String)
    (hpath : Path.extension? path = some extension)
    (hjson : extension.toList.map Char.toLower = "json".toList) :
    parseSaved path (s.render .json) = .ok s :=
  parseSaved_render_of_formatOf (formatOf_eq_json hpath hjson) s

/-- A snapshot with quotes, controls and an empty detail, saved under a name in capitals. -/
theorem parseSaved_render_json_capitals :
    let s : Snapshot :=
      { generatedAt := Instant.epoch
        routes := [⟨.patch, "/a\\\"b", 65535, .fullUser, "r.py", "h\u2028"⟩]
        tables := [⟨"t", [⟨"c\x00", "ä", true⟩, ⟨"", "\n", false⟩]⟩]
        modules := [⟨"s", "l", "e", "", "d", "D"⟩]
        warnings := [⟨.db, "m", some ""⟩, ⟨.runtime, "", none⟩] }
    Path.extension? "saved/before.JSON" = some "JSON" ∧
      parseSaved "saved/before.JSON" (s.render .json) = .ok s :=
  have hpath : Path.extension? "saved/before.JSON" = some "JSON" := by decide +kernel
  ⟨hpath, parseSaved_render_json _ _ "JSON" hpath (by decide)⟩

end Cadastre
