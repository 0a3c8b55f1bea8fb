import Cadastre.Proofs.Yaml.Allowed
import Cadastre.Proofs.Yaml.Composed

/-!
# Written records as documents

A record in block layout is a document that shows the record, and so is a record that is written as
JSON if its strings are steady. Nothing is wrong with either.
-/

namespace Cadastre.Yaml

open Composer

variable {kind : String → Prop} {cs : List Char} {x : Json}

theorem tokensOf_of_allowed (h : cs.all isAllowed = true) :
    tokensOf cs = (Scanner.start cs).run (cs.length + 2) := by
  rw [tokensOf, if_pos h]

/-- A string that is written without quotes is one that would not be read as something else. -/
theorem standsPlain_stringStyle : StandsPlain kind stringStyle := by
  intro v _ hstyle
  have hquotes : needsQuotes v = false := by
    simp only [stringStyle] at hstyle
    split_ifs at hstyle with hlines hblock hplain hsingle
    simpa using (Bool.and_eq_true_iff.1 hplain).2
  simp only [needsQuotes, Bool.or_eq_false_iff, bne_eq_false_iff_eq, Plain.ofString] at hquotes
  obtain ⟨htext, -⟩ := hquotes
  split at htext
  · cases htext
  · next hnull => simpa using hnull

/-- A record in block layout. -/
theorem Document.shows_write (hx : IsRecord kind x) :
    Shows (Document.ofString (write x)).root x ∧ (Document.ofString (write x)).ending = none := by
  obtain ⟨lexemes, hrun, hlexemes⟩ := run_write hx
  obtain ⟨ts, hts⟩ := exists_recordTokens stringStyle hx
  rw [← tokensOf_of_allowed (all_write hx)] at hrun
  rw [hts, List.cons_append] at hlexemes
  refine Document.shows_of_tokens hrun hlexemes (.inl rfl) fun c hc => ?_
  rw [← List.cons_append, ← hts] at hc ⊢
  refine composes_record standsPlain_stringStyle [.streamEnd] false x hx _ c hc ?_
  rw [List.length_append]
  omega

/-- A record that is written as JSON, with a newline behind it. -/
theorem Document.shows_pretty (hx : IsRecord (isSteady ·.toList) x) :
    Shows (Document.ofString (x.pretty ++ "\n")).root x ∧
      (Document.ofString (x.pretty ++ "\n")).ending = none := by
  have htext : (x.pretty ++ "\n").toList = Json.prettyAt 0 x ++ ['\n'] := by
    rw [String.toList_append, Json.pretty, String.toList_ofList]
    rfl
  obtain ⟨lexemes, hrun, hlexemes⟩ := run_pretty hx htext
  obtain ⟨ts, hts⟩ := exists_flowRecordTokens hx
  have hallowed : (x.pretty ++ "\n").toList.all isAllowed = true := by
    simp [htext, all_prettyRecord 0 x hx, isAllowed_of_ascii]
  rw [← tokensOf_of_allowed hallowed] at hrun
  rw [hts, List.cons_append] at hlexemes
  refine Document.shows_of_tokens hrun hlexemes (.inr rfl) fun c hc => ?_
  rw [← List.cons_append, ← hts] at hc ⊢
  refine composes_flowRecord [.streamEnd] true false x hx _ c hc ?_
  rw [List.length_append]
  omega

end Cadastre.Yaml
