import Motif.Proofs.CorrelationTable
import Motif.Proofs.Neutrality

/-!
Names that a label validates.  A label without a token validates nothing.  Nothing of the kind is
asked of a name, so one that holds no token, being short, empty or made of stopwords, is validated
by every label with a token that contains it or is contained in it.
-/

namespace Motif
namespace Correlation

variable {v : Verdict} {purpose : PurposeReport} {anomalies : AnomalyReport}
  {prediction : Prediction}

theorem validation_mem_iff {text name : String} {c : Float} :
    .validation text name c ∈ correlate v purpose anomalies prediction ↔
      text = prediction.label ∧
        Joins (Text.lower prediction.label.toList) (Text.lower name.toList) ∧
        ∃ m ∈ v.matched, name = m.pattern ∧ c = mean prediction.confidence m.confidence := by
  have halign (m : Match) : Correlation.validation text name c ∉ align? purpose m := fun hm => by
    obtain ⟨t, -, hc⟩ := mem_align?_iff.mp hm
    cases hc
  have hmismatch : Correlation.validation text name c ∉ mismatch? v anomalies := fun hm => by
    cases (mem_mismatch?_iff.mp hm).2
  simp only [mem_correlate_iff, halign, hmismatch, and_false, exists_false, false_or,
    mem_validate?_iff, validation.injEq]
  grind

theorem Joins.label {label name : List Char} (h : Joins label name) : HasToken label := by
  rcases h with ⟨t, -, ht⟩ | ⟨hlabel, -⟩
  · exact ⟨t, ht⟩
  · exact hlabel

/-- A name without a token is joined by containment alone. -/
theorem joins_iff_of_not_hasToken {label name : List Char} (h : ¬HasToken name) :
    Joins label name ↔ HasToken label ∧ (label <:+: name ∨ name <:+: label) :=
  or_iff_right fun ⟨t, ht, _⟩ => h ⟨t, ht⟩

/-- Every label that validates something has a token.  A name without one is validated just as well,
namely by the labels with a token that it contains or is contained in. -/
theorem validations_need_token_of_label (v : Verdict) (purpose : PurposeReport)
    (anomalies : AnomalyReport) (prediction : Prediction) :
    let label := Text.lower prediction.label.toList
    let found := correlate v purpose anomalies prediction
    (∀ text name c, .validation text name c ∈ found →
      text = prediction.label ∧ name ∈ v.names ∧ HasToken label) ∧
    ∀ name ∈ v.names, ¬HasToken (Text.lower name.toList) →
      ((∃ text c, .validation text name c ∈ found) ↔
        HasToken label ∧
          (label <:+: Text.lower name.toList ∨ Text.lower name.toList <:+: label)) := by
  intro label found
  refine ⟨fun text name c h => ?_, fun name hname hshort => ?_⟩
  · obtain ⟨htext, hjoins, m, hm, rfl, -⟩ := validation_mem_iff.mp h
    exact ⟨htext, List.mem_map_of_mem hm, hjoins.label⟩
  · rw [← joins_iff_of_not_hasToken hshort]
    constructor
    · rintro ⟨text, c, h⟩
      exact (validation_mem_iff.mp h).2.1
    · intro hjoins
      obtain ⟨m, hm, rfl⟩ := List.mem_map.mp hname
      exact ⟨_, _, validation_mem_iff.mpr ⟨rfl, hjoins, m, hm, rfl, rfl⟩⟩

/-- A name of two letters and one that is a stopword are validated. -/
theorem short_and_generic_names_are_validated :
    let named (name : String) : Match := ⟨name, 0.5, 1, 1, [], ""⟩
    let v : Verdict :=
      .success { (default : Outcome) with matched := [named "UI", named "Pattern"] }
    (∀ name ∈ v.names, (tokens name).words = []) ∧
      (correlate v .fallback .fallback ⟨"ui builder pattern", 0.6⟩).filterMap validatedName? =
        v.names := by
  decide +kernel

/-- The empty name is a part of every label. -/
example : (validate? ⟨"builder", 0.6⟩ ⟨"", 0.5, 1, 1, [], ""⟩).isSome = true := by
  decide +kernel

end Correlation
end Motif
