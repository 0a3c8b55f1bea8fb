import Mathlib.Data.String.Basic

/-!
# The order of texts by their bytes

Texts are compared character by character. In UTF-8 a character with a smaller number has smaller
bytes, and no character's bytes begin those of another one, so comparing the bytes of two texts gives
the same order.
-/

namespace Cadastre.Text

/-- The bytes of a text in UTF-8. -/
def bytes (s : String) : List UInt8 := s.toByteArray.data.toList

/-- Whether the bytes of a text come before those of another one. -/
def Precedes (a b : String) : Prop := bytes a < bytes b

instance (a b : String) : Decidable (Precedes a b) := inferInstanceAs (Decidable (bytes a < bytes b))

theorem bytes_eq (s : String) : bytes s = s.toList.flatMap String.utf8EncodeChar := by
  rw [bytes, ← String.utf8Encode_toList, List.utf8Encode, List.toList_data_toByteArray]

/-- A character with a smaller number has smaller bytes, whatever follows them. -/
theorem utf8EncodeChar_append_lt {c d : Char} (h : c < d) (xs ys : List UInt8) :
    String.utf8EncodeChar c ++ xs < String.utf8EncodeChar d ++ ys := by
  have hlt : c.val.toNat < d.val.toNat := UInt32.lt_iff_toNat_lt.1 h
  have hle : d.val.toNat < 0x110000 := by
    have := d.valid
    simp only [UInt32.isValidChar, Nat.isValidChar] at this
    omega
  have hdiv : ∀ n, n / 4096 = n / 64 / 64 := fun n => by omega
  have hdiv' : ∀ n, n / 262144 = n / 64 / 64 / 64 := fun n => by omega
  have hlow : ∀ n, (n % 64 + 128) % 256 = n % 64 + 128 := fun n => by omega
  unfold String.utf8EncodeChar
  dsimp only
  -- one case for each pair of lengths, from one byte to four
  split_ifs <;>
    simp only [List.cons_append, List.nil_append, List.cons_lt_cons_iff, UInt8.lt_iff_toNat_lt,
      ← UInt8.toNat_inj, UInt8.toNat_ofNat', Nat.reducePow, hdiv, hdiv', hlow] <;>
    omega

theorem flatMap_utf8EncodeChar_lt {cs ds : List Char} (h : cs < ds) :
    cs.flatMap String.utf8EncodeChar < ds.flatMap String.utf8EncodeChar := by
  induction h with
  | nil =>
    rw [List.flatMap_cons]
    obtain ⟨b, bs, hb⟩ := List.exists_cons_of_ne_nil (String.utf8EncodeChar_ne_nil)
    rw [hb]
    exact List.nil_lt_cons _ _
  | cons _ ih => exact List.append_left_lt ih
  | rel h => exact utf8EncodeChar_append_lt h _ _

/-- Texts are ordered as their bytes are. -/
theorem precedes_iff {a b : String} : Precedes a b ↔ a < b := by
  have hforth : ∀ {a b : String}, a < b → Precedes a b := by
    intro a b h
    rw [Precedes, bytes_eq, bytes_eq]
    exact flatMap_utf8EncodeChar_lt h
  constructor
  · intro h
    rcases lt_trichotomy a b with hab | rfl | hba
    · exact hab
    · exact absurd h (List.lt_irrefl _)
    · exact absurd h (List.lt_asymm (hforth hba))
  · exact hforth

end Cadastre.Text
