import Cadastre.Proofs.Yaml.Unquoted
import Cadastre.Yaml.Token

/-!
# Records and their tokens

The values that this library saves are records: objects with some members, whose keys are short
words and whose values are strings, truth values, natural numbers and lists of records. A record is
told by its tokens, in block layout or between brackets.
-/

namespace Cadastre.Yaml

/-- A short word of letters and digits that is read as nothing else. -/
def isWord (k : String) : Bool :=
  !k.toList.isEmpty && k.toList.all Char.isAlphanum && Text.byteCount k.toList ≤ 128 &&
    !isLongKey k && (analyse k.toList).plain && !needsQuotes k

theorem isWord_iff {k : String} : isWord k = true ↔
    k.toList ≠ [] ∧ (∀ x ∈ k.toList, x.isAlphanum = true) ∧ Text.byteCount k.toList ≤ 128 ∧
      isLongKey k = false ∧ (analyse k.toList).plain = true ∧ needsQuotes k = false := by
  simp [isWord, and_assoc]

mutual

/-- A value of a record, with strings of some kind. -/
def IsEntry (kind : String → Prop) : Json → Prop
  | .bool _ => True
  | .number (.whole n) => 0 ≤ n
  | .text s => kind s
  | .array xs => AreRecords kind xs
  | _ => False

/-- A list of records. -/
def AreRecords (kind : String → Prop) : List Json → Prop
  | [] => True
  | x :: xs => IsRecord kind x ∧ AreRecords kind xs

/-- A record. -/
def IsRecord (kind : String → Prop) : Json → Prop
  | .object (m :: ms) => AreEntries kind (m :: ms)
  | _ => False

/-- Members of a record. -/
def AreEntries (kind : String → Prop) : List (String × Json) → Prop
  | [] => True
  | (k, x) :: ms => isWord k = true ∧ IsEntry kind x ∧ AreEntries kind ms

end

/-- The token of a truth value. -/
def boolToken (b : Bool) : Token := .scalar .plain (if b then "true" else "false")

/-- The token of a natural number. -/
def naturalToken (n : Nat) : Token := .scalar .plain (String.ofList (Nat.toDigits 10 n))

mutual

/-- The tokens of a value in block layout, with strings in some styles. -/
def blockTokens (style : String → Style) : Json → List Token
  | .bool b => [boolToken b]
  | .number (.whole n) => [naturalToken n.toNat]
  | .text s => [.scalar (style s) s]
  | .array [] => [.flowSequenceStart, .flowSequenceEnd]
  | .array (x :: xs) => .blockEntry :: blockTokens style x ++ itemTokens style xs
  | .object ms => .blockMappingStart :: memberTokens style ms ++ [.blockEnd]
  | _ => []

/-- The tokens of items, each behind its dash. -/
def itemTokens (style : String → Style) : List Json → List Token
  | [] => []
  | x :: xs => .blockEntry :: blockTokens style x ++ itemTokens style xs

/-- The tokens of members in block layout. -/
def memberTokens (style : String → Style) : List (String × Json) → List Token
  | [] => []
  | (k, x) :: ms =>
    .key :: .scalar .plain k :: .value :: blockTokens style x ++ memberTokens style ms

end

mutual

/-- The tokens of a value between brackets, with strings in double quotes. -/
def flowTokens : Json → List Token
  | .bool b => [boolToken b]
  | .number (.whole n) => [naturalToken n.toNat]
  | .text s => [.scalar .double s]
  | .array [] => [.flowSequenceStart, .flowSequenceEnd]
  | .array (x :: xs) =>
    .flowSequenceStart :: flowTokens x ++ flowItemTokens xs ++ [.flowSequenceEnd]
  | .object [] => [.flowMappingStart, .flowMappingEnd]
  | .object ((k, x) :: ms) =>
    .flowMappingStart :: .key :: .scalar .double k :: .value :: flowTokens x ++
      flowMemberTokens ms ++ [.flowMappingEnd]
  | _ => []

/-- The tokens of the items after the first one. -/
def flowItemTokens : List Json → List Token
  | [] => []
  | x :: xs => .flowEntry :: flowTokens x ++ flowItemTokens xs

/-- The tokens of the members after the first one. -/
def flowMemberTokens : List (String × Json) → List Token
  | [] => []
  | (k, x) :: ms =>
    .flowEntry :: .key :: .scalar .double k :: .value :: flowTokens x ++ flowMemberTokens ms

end

end Cadastre.Yaml
