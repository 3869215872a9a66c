import Motif.Proofs.Double.Mean
import Motif.Proofs.Health

/-!
Confidences of integrated results.  A result has the mean of the answers of its layers, clamped to
the unit interval, and a summary has the mean of the results in the history.  The clamp bounds every
mean that is a number, so finite answers of any size are bounded.  It lets through what is no
number: an answer that is none, or infinities that cancel, leave the result without a confidence,
and all summaries without an average until the result has left the history.
-/

namespace Motif

open Double

namespace IntegratedResult

/-- The confidences of the layers that answered.  The intuition score is none of them. -/
def answers (x : IntegratedResult) : List Float :=
  let answered (status : LayerStatus) (c : Float) : List Float := if status.isOk then [c] else []
  (if x.discovery.isSuccess then [x.discovery.confidence] else []) ++
    answered x.layers.purpose x.purpose.confidence ++
    answered x.layers.anomaly x.quality.anomalies.confidence ++
    answered x.layers.prediction x.prediction.confidence ++
    answered x.layers.review x.review.confidence

theorem length_answers_le (x : IntegratedResult) : x.answers.length ≤ 5 := by
  have hone (b : Bool) (c : Float) : (if b then [c] else []).length ≤ 1 := by
    cases b with
    | false => exact Nat.zero_le 1
    | true => exact Nat.le_refl 1
  simp only [answers, List.length_append]
  have hdiscovery := hone x.discovery.isSuccess x.discovery.confidence
  have hpurpose := hone x.layers.purpose.isOk x.purpose.confidence
  have hanomaly := hone x.layers.anomaly.isOk x.quality.anomalies.confidence
  have hprediction := hone x.layers.prediction.isOk x.prediction.confidence
  have hreview := hone x.layers.review.isOk x.review.confidence
  omega

/-- The confidence lies in the unit interval if the answers can be summed up, and is no number if
they cannot. -/
structure Averaged (x : IntegratedResult) : Prop where
  within : ¬Confidence.Breaks x.answers → Within 0.0 1.0 x.confidence
  broken : Confidence.Breaks x.answers → ¬IsNumber x.confidence

theorem averaged_conclude (threshold : Float) (analysis : Stamp)
    (discovery : Verdict × LayerStatus) (r : Reports) :
    (Integration.conclude threshold analysis discovery r).Averaged := by
  let x := Integration.conclude threshold analysis discovery r
  have hconfidence :
      x.confidence = Confidence.clamp 0.0 1.0 (Confidence.average x.answers) := rfl
  have hnumber : IsNumber (Confidence.average x.answers) ↔ ¬Confidence.Breaks x.answers :=
    Confidence.isNumber_average_iff (x.length_answers_le.trans (by decide))
  refine ⟨fun h => ?_, fun h => ?_⟩
  · exact hconfidence ▸ Confidence.within_clamp (hnumber.mpr h)
  · show ¬IsNumber x.confidence
    rw [hconfidence, Confidence.isNumber_clamp_iff, hnumber, not_not]
    exact h

end IntegratedResult

namespace Books

variable {settings : IntegrationSettings} {b : Books}

theorem Sound.exists_eq_conclude (h : Sound settings b) {x : IntegratedResult}
    (hx : x ∈ b.recorded) : ∃ threshold analysis discovery reports,
      x = Integration.conclude threshold analysis discovery reports := by
  obtain ⟨a, ha, hresult⟩ := List.mem_filterMap.mp (h.recorded.mem_iff.mp hx)
  have hsound := h.accounts a ha
  rw [Account.result?] at hresult
  rw [Account.Sound] at hsound
  split at hresult
  · next result hprogress =>
    obtain rfl := Option.some.inj hresult
    rw [hprogress] at hsound
    obtain ⟨reports, ⟨-, discovery, hx⟩, -⟩ := hsound
    exact ⟨_, _, _, _, hx⟩
  · next result hprogress =>
    obtain rfl := Option.some.inj hresult
    rw [hprogress] at hsound
    obtain ⟨reports, ⟨-, discovery, hx⟩, -⟩ := hsound
    exact ⟨_, _, _, _, hx⟩
  · cases hresult
  · cases hresult

theorem Reachable.averaged (h : Reachable settings b) {x : IntegratedResult}
    (hx : x ∈ b.recorded) : x.Averaged := by
  obtain ⟨threshold, analysis, discovery, reports, rfl⟩ := h.sound.exists_eq_conclude hx
  exact IntegratedResult.averaged_conclude threshold analysis discovery reports

/-- Every confidence of a result lies in the unit interval, whatever the layers answer, unless their
answers cannot be summed up; then it is no number.  So is the average of a summary as long as the
history retains such a result, and otherwise it lies in the unit interval. -/
theorem confidences_are_bounded_unless_sums_break (settings : IntegrationSettings) (b : Books)
    (s : Service) (h : Reachable settings b) :
    let retained := b.recorded.drop (b.recorded.length - max settings.historyLimit 1)
    let average := (b.integration.summary s).metrics.averageConfidence
    (∀ x ∈ b.recorded, x.Averaged ∧
      ((∀ c ∈ x.answers, c.isFinite = true) → Within 0.0 1.0 x.confidence)) ∧
    ((∀ x ∈ retained, ¬Confidence.Breaks x.answers) → Within 0.0 1.0 average) ∧
    ((∃ x ∈ retained, Confidence.Breaks x.answers) → ¬IsNumber average) := by
  intro retained average
  have haverage : average = Confidence.average (retained.map (·.confidence)) := by
    have hhistory : b.integration.history = retained := by
      rw [h.sound.integration, Integration.after_eq]
      rfl
    rw [← hhistory]
    rfl
  have haveraged : ∀ x ∈ retained, x.Averaged := fun x hx => h.averaged (List.mem_of_mem_drop hx)
  rw [haverage]
  refine ⟨fun x hx => ⟨h.averaged hx, fun hfinite => ?_⟩, fun hsums => ?_, ?_⟩
  · exact (h.averaged hx).within (Confidence.not_breaks_of_isFinite hfinite)
  · refine Confidence.within_average fun c hc => ?_
    obtain ⟨x, hx, rfl⟩ := List.mem_map.mp hc
    exact (haveraged x hx).within (hsums x hx)
  · rintro ⟨x, hx, hbreaks⟩
    exact Confidence.not_isNumber_average (List.mem_map_of_mem hx) ((haveraged x hx).broken hbreaks)

/-- An answer that is no number, and an analysis that takes its place in the history. -/
theorem confidences_are_bounded_unless_sums_break_replaced :
    let settings := { IntegrationSettings.standard with historyLimit := 1 }
    let service := Service.start (Engine.make EngineSettings.standard) 1
    let calls := Calls.lexical ""
    let unsure := { calls with
      purpose := .instant { PurposeReport.fallback with confidence := 0.0 / 0.0 } }
    let x : Stamp := ⟨Uuid.ofNat 1, default⟩
    let y : Stamp := ⟨Uuid.ofNat 2, default⟩
    let first := (Integration.start settings).integrate service unsure .calm x x "" default
    let second := first.integration.integrate first.service calls .calm y y "" default
    ∃ b, Reachable settings b ∧ b.recorded = [first.result, second.result] ∧
      ¬IsNumber first.result.confidence ∧
      Within 0.0 1.0 (b.integration.summary service).metrics.averageConfidence := by
  intro settings service calls unsure x y first second
  have hstart : Reachable settings ⟨.start settings, [], [], []⟩ := .refl
  have hfirst := hstart.integrate service unsure .calm x x "" default List.not_mem_nil
  have hsecond := hfirst.integrate first.service calls .calm y y "" default (by decide)
  obtain ⟨hresults, haverage, -⟩ :=
    confidences_are_bounded_unless_sums_break settings _ service hsecond
  have hbreaks : Confidence.Breaks first.result.answers :=
    ⟨[], 0.0 / 0.0, _, rfl, .inl (by decide)⟩
  have hfinite : ∀ c ∈ second.result.answers, c.isFinite = true := by decide +kernel
  refine ⟨_, hsecond, rfl, (hresults first.result List.mem_cons_self).1.broken hbreaks, ?_⟩
  refine haverage fun r hr => ?_
  obtain rfl : r = second.result := List.mem_singleton.mp hr
  exact Confidence.not_breaks_of_isFinite hfinite

/-- Once the purpose analyzer answers what is no number.  Once all analyzers are the built-in ones,
and the heuristic that fires has a strength that is none. -/
theorem clamp_lets_through_what_is_no_number :
    let x : Stamp := ⟨Uuid.ofNat 1, default⟩
    let run (engine : Engine) (calls : Calls) (code : String) : Integration.Step :=
      (Integration.start IntegrationSettings.standard).integrate (Service.start engine 1) calls
        .calm x x code default
    let engine := Engine.make EngineSettings.standard
    let line := "let x = 1;"
    let unsure := { Calls.lexical line with
      purpose := .instant { PurposeReport.fallback with confidence := 0.0 / 0.0 } }
    let rule : Rule := ⟨"Pool", "d", [], 0, 0.0 / 0.0, Rule.objectPool⟩
    let pool := "pool.acquire(); pool.release(x); pool.pop();"
    let asked := run engine unsure line
    let found := run ((engine.withCatalog Catalog.empty).withDetector (.make [rule.toHeuristic]))
      (Calls.lexical pool) pool
    ∀ step ∈ [asked, found], ¬IsNumber step.result.confidence ∧
      ¬IsNumber (step.integration.summary step.service).metrics.averageConfidence := by
  decide +kernel

end Books
end Motif
