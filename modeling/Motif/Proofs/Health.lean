import Motif.Manifest.Validation
import Motif.Proofs.Bookkeeping

/-!
Health and trend of the integration.  A summary looks at the latest results as far as the trend
window goes, but only among those that the history has retained.  So the narrower of the two
settings decides how far back it looks.
-/

namespace Motif

theorem Sequence.latest_latest {α : Type} (m n : ℕ) (l : List α) :
    latest m (latest n l) = latest (min m n) l := by
  have hlength := length_latest n l
  have hdrop : l.length - n + ((latest n l).length - m) = l.length - min m n := by omega
  show (l.drop (l.length - n)).drop ((latest n l).length - m) = l.drop (l.length - min m n)
  rw [List.drop_drop, hdrop]

namespace Integration

theorem health_of_ne_nil {rs : List IntegratedResult} (h : rs ≠ []) :
    health rs =
      { status := if (rs.map (·.layers.fallbacks)).sum = 0 then .healthy else .degraded
        fallbacks := (rs.map (·.layers.fallbacks)).sum
        reliability := Confidence.ratio (rs.countP (·.layers.fallbacks == 0)) rs.length } := by
  have hsum : rs.foldl (fun n r => n + r.layers.fallbacks) 0 =
      (rs.map (·.layers.fallbacks)).sum := by
    rw [List.sum_eq_foldl, List.foldl_map]
  have hempty : ¬rs.isEmpty = true := by rwa [List.isEmpty_iff]
  rw [health, if_neg hempty, hsum, List.countP_eq_length_filter]

theorem status_health_of_ne_nil {rs : List IntegratedResult} (h : rs ≠ []) :
    (health rs).status = .degraded ↔ ∃ r ∈ rs, 0 < r.layers.fallbacks := by
  have hsum : 0 < (rs.map (·.layers.fallbacks)).sum ↔ ∃ r ∈ rs, 0 < r.layers.fallbacks := by
    rw [List.sum_pos_iff_exists_pos_nat]
    simp only [List.mem_map, exists_exists_and_eq_and]
  rw [health_of_ne_nil h, ← hsum]
  by_cases hnone : (rs.map (·.layers.fallbacks)).sum = 0
  · rw [if_pos hnone]
    exact iff_of_false HealthStatus.noConfusion (Nat.not_lt.mpr (Nat.le_of_eq hnone))
  · rw [if_neg hnone]
    exact iff_of_true rfl (Nat.pos_of_ne_zero hnone)

/-- How far back a summary looks. -/
theorem recent_after (settings : IntegrationSettings) (results : List IntegratedResult) :
    (after settings results).recent =
      Sequence.latest (min (max settings.trendWindow 1) (max settings.historyLimit 1)) results := by
  rw [after_eq, recent, Sequence.latest_latest]

end Integration

namespace Books

theorem Reachable.integrate {settings : IntegrationSettings} {i : Integration} {bus : List Event}
    {accounts : List Account} {recorded : List IntegratedResult}
    (h : Reachable settings ⟨i, bus, accounts, recorded⟩) (s : Service) (calls : Calls)
    (circumstances : Circumstances) (fragment analysis : Stamp) (code : String) (context : Context)
    (hnew : analysis.id ∉ accounts.map (·.analysis.id)) :
    Reachable settings
      ⟨(i.integrate s calls circumstances fragment analysis code context).integration,
        bus ++ (i.integrate s calls circumstances fragment analysis code context).events,
        accounts ++ [⟨analysis,
          .finished (i.integrate s calls circumstances fragment analysis code context).result⟩],
        recorded ++ [(i.integrate s calls circumstances fragment analysis code context).result]⟩ :=
  h.trans (steps_integrate ⟨i, bus, accounts, recorded⟩ s calls circumstances fragment analysis
    code context hnew)

/-- Health and trend are those of the latest results that are within the trend window and within the
history. -/
theorem summary_looks_at_retained_window (settings : IntegrationSettings) (b : Books) (s : Service)
    (h : Reachable settings b) :
    let width := min (max settings.trendWindow 1) (max settings.historyLimit 1)
    let last := b.recorded.drop (b.recorded.length - width)
    let summary := b.integration.summary s
    (summary.health.status = .idle ↔ b.recorded = []) ∧
    (b.recorded ≠ [] →
      (summary.health.status = .degraded ↔ ∃ r ∈ last, 0 < r.layers.fallbacks)) ∧
    summary.health.fallbacks = (last.map (·.layers.fallbacks)).sum ∧
    summary.health.reliability =
      (if b.recorded = [] then 0.0
        else Confidence.ratio (last.countP (·.layers.fallbacks == 0)) last.length) ∧
    summary.metrics.trend = Trend.classify (last.map (·.confidence)) settings.trendEpsilon := by
  intro width last summary
  have hi := h.sound.integration
  have hrecent : b.integration.recent = last := by
    rw [hi, Integration.recent_after]
    rfl
  have hsettings : b.integration.settings = settings := by rw [hi, Integration.after_eq]
  have hhealth : summary.health = Integration.health last := congrArg Integration.health hrecent
  have htrend : summary.metrics.trend =
      Trend.classify (last.map (·.confidence)) settings.trendEpsilon := by
    rw [← hrecent, ← hsettings]
    rfl
  have hlength : last.length = min width b.recorded.length := Sequence.length_latest _ _
  have hnil : last = [] ↔ b.recorded = [] := by
    rw [← List.length_eq_zero_iff, ← List.length_eq_zero_iff, hlength]
    omega
  rw [hhealth]
  by_cases hnone : b.recorded = []
  · have hlast := hnil.mpr hnone
    rw [hlast] at htrend ⊢
    exact ⟨iff_of_true rfl hnone, fun hne => absurd hnone hne, rfl, (if_pos hnone).symm, htrend⟩
  · have hlast : last ≠ [] := mt hnil.mp hnone
    refine ⟨?_, fun _ => Integration.status_health_of_ne_nil hlast, ?_, ?_, htrend⟩
    · rw [Integration.health_of_ne_nil hlast]
      refine iff_of_false ?_ hnone
      split <;> exact HealthStatus.noConfusion
    · rw [Integration.health_of_ne_nil hlast]
    · rw [Integration.health_of_ne_nil hlast, if_neg hnone]

/-- One analysis that fell back, with room for a single result. -/
theorem summary_looks_at_retained_window_single :
    let settings := { IntegrationSettings.standard with historyLimit := 1 }
    let service := Service.start (Engine.make EngineSettings.standard) 1
    let calls : Calls := ⟨⟨0, .erred ⟨"purpose", .failed "down"⟩⟩, .instant default, .instant 1.0,
      .instant default, .instant default⟩
    let x : Stamp := ⟨Uuid.ofNat 1, default⟩
    let only := (Integration.start settings).integrate service calls .calm x x "" default
    ∃ b, Reachable settings b ∧ b.integration = only.integration ∧
      (b.integration.summary service).health.status = .degraded ∧
      (b.integration.summary service).health.fallbacks = 1 := by
  intro settings service calls x only
  have hstart : Reachable settings ⟨.start settings, [], [], []⟩ := .refl
  have honly := hstart.integrate service calls .calm x x "" default List.not_mem_nil
  have hone : only.result.layers.fallbacks = 1 := by decide +kernel
  obtain ⟨-, hdegraded, hfallbacks, -, -⟩ :=
    summary_looks_at_retained_window settings _ service honly
  refine ⟨_, honly, rfl, ?_, hfallbacks.trans hone⟩
  exact (hdegraded (List.cons_ne_nil _ _)).mpr
    ⟨only.result, List.mem_cons_self, hone.symm ▸ Nat.one_pos⟩

/-- With room for one result and a window of two, an analysis that fell back is forgotten after the
next one, though it is one of the last two.  A manifest with these settings is accepted. -/
theorem health_forgets_what_history_drops :
    let settings := { IntegrationSettings.standard with historyLimit := 1, trendWindow := 2 }
    let manifest := { Manifest.standard with spec := { Spec.standard with integration := settings } }
    let service := Service.start (Engine.make EngineSettings.standard) 1
    let calls : Calls :=
      ⟨.instant default, .instant default, .instant 1.0, .instant default, .instant default⟩
    let failing := { calls with purpose := ⟨0, .erred ⟨"purpose", .failed "down"⟩⟩ }
    let x : Stamp := ⟨Uuid.ofNat 1, default⟩
    let y : Stamp := ⟨Uuid.ofNat 2, default⟩
    let first := (Integration.start settings).integrate service failing .calm x x "" default
    let second := first.integration.integrate first.service calls .calm y y "" default
    manifest.isValid = true ∧ ∃ b, Reachable settings b ∧ b.integration = second.integration ∧
      b.recorded = [first.result, second.result] ∧
      ¬((b.integration.summary service).health.status = .degraded ↔
        ∃ r ∈ b.recorded.drop (b.recorded.length - settings.trendWindow),
          0 < r.layers.fallbacks) := by
  intro settings manifest service calls failing x y first second
  have hstart : Reachable settings ⟨.start settings, [], [], []⟩ := .refl
  have hfirst := hstart.integrate service failing .calm x x "" default List.not_mem_nil
  have hsecond := hfirst.integrate first.service calls .calm y y "" default (by decide)
  have hone : first.result.layers.fallbacks = 1 := by decide +kernel
  have hzero : second.result.layers.fallbacks = 0 := by decide +kernel
  refine ⟨by decide, _, hsecond, rfl, rfl, fun hclaim => ?_⟩
  have hdegraded := hclaim.mpr ⟨first.result, List.mem_cons_self, hone.symm ▸ Nat.one_pos⟩
  -- the history holds the second result alone
  obtain ⟨r, hr, hfell⟩ :=
    (Integration.status_health_of_ne_nil (List.cons_ne_nil second.result [])).mp hdegraded
  rw [List.mem_singleton.mp hr, hzero] at hfell
  exact absurd hfell (Nat.lt_irrefl 0)

end Books
end Motif
