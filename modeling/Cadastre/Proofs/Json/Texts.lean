import Cadastre.Json.Writer

/-!
# The strings in a value

A character that is written as it is stands in the text of every value with a string that holds it.
-/

namespace Cadastre.Json

mutual

/-- The strings in a value, those of its keys aside. -/
def texts : Json → List String
  | .text s => [s]
  | .array items => itemTexts items
  | .object members => memberTexts members
  | _ => []

/-- The strings in a list of values. -/
def itemTexts : List Json → List String
  | [] => []
  | x :: xs => texts x ++ itemTexts xs

/-- The strings in the values of members. -/
def memberTexts : List (String × Json) → List String
  | [] => []
  | (_, x) :: ms => texts x ++ memberTexts ms

end

theorem itemTexts_map {α : Type} (f : α → Json) (as : List α) :
    itemTexts (as.map f) = as.flatMap fun a => texts (f a) := by
  induction as with
  | nil => rfl
  | cons a as ih => rw [List.map_cons, itemTexts, ih, List.flatMap_cons]

variable {c : Char} {v : String}

theorem mem_stringText (hraw : escapedChar c = [c]) (hc : c ∈ v.toList) : c ∈ stringText v := by
  have hbody : c ∈ v.toList.flatMap escapedChar := List.mem_flatMap.2 ⟨c, hc, by simp [hraw]⟩
  simp [stringText, hbody]

mutual

/-- A value. -/
theorem mem_prettyAt (hraw : escapedChar c = [c]) (hc : c ∈ v.toList) (level : Nat) :
    ∀ x, v ∈ texts x → c ∈ prettyAt level x
  | .text s, h => by
    obtain rfl : v = s := by simpa [texts] using h
    exact mem_stringText hraw hc
  | .array (x :: xs), h => by
    rw [prettyAt]
    rcases List.mem_append.1 h with h | h
    · simp [mem_prettyAt hraw hc (level + 1) x h]
    · simp [mem_prettyItems hraw hc (level + 1) xs h]
  | .object ((k, x) :: ms), h => by
    rw [prettyAt]
    rcases List.mem_append.1 h with h | h
    · simp [mem_prettyAt hraw hc (level + 1) x h]
    · simp [mem_prettyMembers hraw hc (level + 1) ms h]

/-- The items after the first one. -/
theorem mem_prettyItems (hraw : escapedChar c = [c]) (hc : c ∈ v.toList) (level : Nat) :
    ∀ xs, v ∈ itemTexts xs → c ∈ prettyItems level xs
  | x :: xs, h => by
    rw [prettyItems]
    rcases List.mem_append.1 h with h | h
    · simp [mem_prettyAt hraw hc level x h]
    · simp [mem_prettyItems hraw hc level xs h]

/-- The members after the first one. -/
theorem mem_prettyMembers (hraw : escapedChar c = [c]) (hc : c ∈ v.toList) (level : Nat) :
    ∀ ms, v ∈ memberTexts ms → c ∈ prettyMembers level ms
  | (k, x) :: ms, h => by
    rw [prettyMembers]
    rcases List.mem_append.1 h with h | h
    · simp [mem_prettyAt hraw hc level x h]
    · simp [mem_prettyMembers hraw hc level ms h]

end

end Cadastre.Json
