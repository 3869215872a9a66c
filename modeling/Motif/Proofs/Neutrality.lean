import Motif.Integration.Run
import Motif.Proofs.Tokens

/-!
What a missing report adds to a result.  Its fallback goes through the same rules as a report and
holds words of its own, so it is silent on all names but those that echo these words.  An anomaly
report or a review that is missing adds nothing at all.
-/

namespace Motif

/-! ## Echoes -/

def Verdict.names (v : Verdict) : List String := v.matched.map (·.pattern)

namespace Correlation

/-- The name shares a token with the purpose that stands for a missing one. -/
def EchoesPurpose (name : String) : Prop :=
  ∃ t ∈ ["analysis", "purpose", "unavailable", "unknown"], t ∈ tokens name

/-- The name contains the label that stands for a missing one, or is a part of it. -/
def EchoesPrediction (name : String) : Prop :=
  "unknown".toList <:+: Text.lower name.toList ∨ Text.lower name.toList <:+: "unknown".toList

instance (name : String) : Decidable (EchoesPurpose name) :=
  inferInstanceAs (Decidable (∃ t ∈ _, t ∈ tokens name))

instance (name : String) : Decidable (EchoesPrediction name) :=
  inferInstanceAs (Decidable (_ ∨ _))

def alignedName? : Correlation → Option String
  | alignment _ name _ _ => some name
  | _ => none

def mismatched? : Correlation → Option Nat
  | mismatch anomalies _ _ => some anomalies
  | _ => none

def validatedName? : Correlation → Option String
  | validation _ name _ => some name
  | _ => none

/-! ## The three rules -/

theorem words_purposeTokens_fallback :
    (purposeTokens .fallback).words = ["analysis", "purpose", "unavailable", "unknown"] := by
  decide +kernel

theorem bind_align?_fallback (m : Match) :
    (align? .fallback m).bind alignedName? = Option.guard (EchoesPurpose ·) m.pattern := by
  have hechoes : (shared? (tokens m.pattern) (purposeTokens .fallback)).isSome = true ↔
      EchoesPurpose m.pattern := by
    simp only [isSome_shared?_iff, WordSet.mem_words, words_purposeTokens_fallback, EchoesPurpose,
      and_comm]
  rw [align?]
  cases hshared : shared? (tokens m.pattern) (purposeTokens .fallback) with
  | none =>
    rw [hshared] at hechoes
    have hnot : ¬EchoesPurpose m.pattern := fun h => Bool.noConfusion (hechoes.mpr h)
    rw [Option.guard, decide_eq_false hnot]
    rfl
  | some t =>
    rw [hshared] at hechoes
    rw [Option.guard, decide_eq_true (hechoes.mp rfl)]
    rfl

theorem bind_validate?_fallback (m : Match) :
    (validate? .fallback m).bind validatedName? = Option.guard (EchoesPrediction ·) m.pattern := by
  have hlabel : Text.lower Prediction.fallback.label.toList = "unknown".toList := by decide +kernel
  have hechoes : overlaps "unknown".toList m.pattern = true ↔ EchoesPrediction m.pattern :=
    overlaps_iff (by decide +kernel) m.pattern
  have hdecide : overlaps "unknown".toList m.pattern = decide (EchoesPrediction m.pattern) :=
    Bool.eq_iff_iff.mpr (hechoes.trans decide_eq_true_iff.symm)
  rw [validate?, hlabel, hdecide, Option.guard]
  split <;> rfl

theorem mismatch?_fallback (v : Verdict) : mismatch? v .fallback = none := rfl

/-! ## Comparing with fallbacks -/

section

variable (v : Verdict) (purpose : PurposeReport) (anomalies : AnomalyReport)
  (prediction : Prediction)

theorem filterMap_correlate {α : Type} (f : Correlation → Option α) :
    (correlate v purpose anomalies prediction).filterMap f =
      (v.matched.filterMap fun m => (align? purpose m).bind f) ++
        ((mismatch? v anomalies).bind f).toList ++
        v.matched.filterMap fun m => (validate? prediction m).bind f := by
  have hmismatch (o : Option Correlation) : o.toList.filterMap f = (o.bind f).toList := by
    cases o with
    | none => rfl
    | some c => cases h : f c <;> simp [h]
  simp only [correlate, List.filterMap_append, List.filterMap_filterMap, hmismatch]

/-- Only alignments come from comparing purposes, only mismatches from anomalies and only
validations from predictions. -/
theorem bind_align?_eq_none {α : Type} {f : Correlation → Option α}
    (h : ∀ purpose name t c, f (.alignment purpose name t c) = none) (m : Match) :
    (align? purpose m).bind f = none := by
  rw [align?]
  cases shared? (tokens m.pattern) (purposeTokens purpose) with
  | none => rfl
  | some t => exact h _ _ t _

theorem bind_mismatch?_eq_none {α : Type} {f : Correlation → Option α}
    (h : ∀ n message c, f (.mismatch n message c) = none) :
    (mismatch? v anomalies).bind f = none := by
  rw [mismatch?]
  split
  · exact h _ _ _
  · rfl

theorem bind_validate?_eq_none {α : Type} {f : Correlation → Option α}
    (h : ∀ label name c, f (.validation label name c) = none) (m : Match) :
    (validate? prediction m).bind f = none := by
  rw [validate?]
  split
  · exact h _ _ _
  · rfl

theorem filterMap_guard_pattern (p : String → Bool) :
    v.matched.filterMap (fun m => Option.guard p m.pattern) = v.names.filter p := by
  rw [Verdict.names, ← List.filterMap_eq_filter, List.filterMap_map]
  rfl

theorem aligned_correlate_fallback :
    (correlate v .fallback anomalies prediction).filterMap alignedName? =
      v.names.filter (EchoesPurpose ·) := by
  have hmismatch := bind_mismatch?_eq_none v anomalies (f := alignedName?) fun _ _ _ => rfl
  have hvalidate := bind_validate?_eq_none prediction (f := alignedName?) fun _ _ _ => rfl
  simp only [filterMap_correlate, bind_align?_fallback, hmismatch, hvalidate,
    filterMap_guard_pattern]
  simp

theorem validated_correlate_fallback :
    (correlate v purpose anomalies .fallback).filterMap validatedName? =
      v.names.filter (EchoesPrediction ·) := by
  have hmismatch := bind_mismatch?_eq_none v anomalies (f := validatedName?) fun _ _ _ => rfl
  have halign := bind_align?_eq_none purpose (f := validatedName?) fun _ _ _ _ => rfl
  simp only [filterMap_correlate, bind_validate?_fallback, hmismatch, halign,
    filterMap_guard_pattern]
  simp

theorem mismatched_correlate_fallback :
    (correlate v purpose .fallback prediction).filterMap mismatched? = [] := by
  have halign := bind_align?_eq_none purpose (f := mismatched?) fun _ _ _ _ => rfl
  have hvalidate := bind_validate?_eq_none prediction (f := mismatched?) fun _ _ _ => rfl
  simp only [filterMap_correlate, mismatch?_fallback, halign, hvalidate]
  simp

end

end Correlation

theorem Recommendation.synthesize_fallback_subset (v : Verdict) (review : Review)
    (threshold : Float) : synthesize v .fallback threshold ⊆ synthesize v review threshold := by
  intro r hr
  rw [synthesize, Sequence.mem_distinct, List.append_assoc] at hr ⊢
  exact List.mem_append_right _ hr

/-! ## Integrated results -/

/-- Layers without an answer join in only where a name echoes them. -/
structure IntegratedResult.Neutral (threshold : Float) (x : IntegratedResult) : Prop where
  purpose : x.layers.purpose.isOk = false →
    x.correlations.filterMap Correlation.alignedName? =
      x.discovery.names.filter (Correlation.EchoesPurpose ·)
  anomaly : x.layers.anomaly.isOk = false →
    x.correlations.filterMap Correlation.mismatched? = []
  prediction : x.layers.prediction.isOk = false →
    x.correlations.filterMap Correlation.validatedName? =
      x.discovery.names.filter (Correlation.EchoesPrediction ·)
  review : x.layers.review.isOk = false → ∀ review : Review,
    x.recommendations ⊆ Recommendation.synthesize x.discovery review threshold

theorem Settled.report_of_not_isOk {α : Type} {analysis : Stamp} {fallback : α}
    {found : Except LayerError α} (h : (ofOutcome analysis fallback found).status.isOk = false) :
    (ofOutcome analysis fallback found).report = fallback := by
  cases found with
  | ok a => cases h
  | error e => rfl

theorem Integration.neutral_conclude (threshold : Float) (analysis : Stamp)
    (discovery : Verdict × LayerStatus) (b : Bounds) (calls : Calls) :
    (conclude threshold analysis discovery (settle b calls analysis)).Neutral threshold where
  purpose h := by
    have hreport : (settle b calls analysis).purpose.report = .fallback :=
      Settled.report_of_not_isOk h
    rw [conclude, hreport]
    exact Correlation.aligned_correlate_fallback _ _ _
  anomaly h := by
    have hreport : (settle b calls analysis).anomalies.report = .fallback :=
      Settled.report_of_not_isOk h
    rw [conclude, hreport]
    exact Correlation.mismatched_correlate_fallback _ _ _
  prediction h := by
    have hreport : (settle b calls analysis).prediction.report = .fallback :=
      Settled.report_of_not_isOk h
    rw [conclude, hreport]
    exact Correlation.validated_correlate_fallback _ _ _
  review h review := by
    have hreport : (settle b calls analysis).review.report = .fallback :=
      Settled.report_of_not_isOk h
    rw [conclude, hreport]
    exact Recommendation.synthesize_fallback_subset _ review threshold

/-- Fallbacks are neutral but for echoes.  Whatever was discovered, a missing purpose aligns with
the names that echo its fallback and no others, a missing prediction validates the names that echo
its own, and missing anomalies and reviews add nothing.  So it is in every integrated result. -/
theorem fallbacks_join_only_echoes (v : Verdict) (purpose : PurposeReport)
    (anomalies : AnomalyReport) (prediction : Prediction) (review : Review) (threshold : Float)
    (i : Integration) (s : Service) (calls : Calls) (circumstances : Circumstances)
    (fragment analysis : Stamp) (code : String) (context : Context) :
    (Correlation.correlate v .fallback anomalies prediction).filterMap Correlation.alignedName? =
        v.names.filter (Correlation.EchoesPurpose ·) ∧
      (Correlation.correlate v purpose .fallback prediction).filterMap
        Correlation.mismatched? = [] ∧
      (Correlation.correlate v purpose anomalies .fallback).filterMap Correlation.validatedName? =
        v.names.filter (Correlation.EchoesPrediction ·) ∧
      Recommendation.synthesize v .fallback threshold ⊆
        Recommendation.synthesize v review threshold ∧
      (i.integrate s calls circumstances fragment analysis code context).result.Neutral
        i.settings.recommendationThreshold := by
  refine ⟨?_, ?_, ?_, ?_, ?_⟩
  · exact Correlation.aligned_correlate_fallback v anomalies prediction
  · exact Correlation.mismatched_correlate_fallback v purpose prediction
  · exact Correlation.validated_correlate_fallback v purpose anomalies
  · exact Recommendation.synthesize_fallback_subset v review threshold
  · exact Integration.neutral_conclude _ analysis _ _ calls

/-- A pattern of this name joins both fallbacks. -/
theorem unknown_handler_echoes :
    let m : Match := ⟨"Unknown Handler", 0.5, 1, 1, ["handle"], "Handles what nobody else does"⟩
    let v : Verdict := .success { (default : Outcome) with matched := [m] }
    (Correlation.correlate v .fallback .fallback .fallback).map Correlation.kind =
      ["purpose_pattern_alignment", "prediction_validation"] := by
  decide +kernel

/-- No built-in pattern echoes a fallback. -/
example : ∀ p ∈ Pattern.seeds,
    ¬Correlation.EchoesPurpose p.name ∧ ¬Correlation.EchoesPrediction p.name := by
  decide +kernel

end Motif
