import Motif.Proofs.ConfidenceFloor

/-!
The confidence of an analysis that matches nothing.  What is proposed keeps to the cap of
candidates where it is remembered, since the watchlist lowers it.  The analysis reports the
proposals as the detector made them, and so keeps to the cap exactly when the detector does.
-/

namespace Motif

open Double

/-- What a novel finding may be trusted with: the cap of candidates, or the floor above it. -/
def EngineSettings.novelCap (s : EngineSettings) : Float :=
  Confidence.greatest s.candidateCap s.confidenceFloor

/-! ## Bounds of what is found -/

/-- The greatest of some confidences keeps to a bound exactly when all that are numbers do. -/
theorem Double.greatest_le_iff {xs : List Float} {x bound : Float} (hmem : x ∈ xs)
    (hgreatest : ∀ y ∈ xs, IsNumber y → y ≤ x) :
    x ≤ bound ↔ (∃ y ∈ xs, IsNumber y) ∧ ∀ y ∈ xs, IsNumber y → y ≤ bound := by
  constructor
  · intro hle
    exact ⟨⟨x, hmem, (le_iff.mp hle).1⟩, fun y hy hnumber =>
      Double.le_trans (hgreatest y hy hnumber) hle⟩
  · rintro ⟨⟨y, hy, hnumber⟩, hbound⟩
    exact hbound x hmem (isNumber_right (hgreatest y hy hnumber))

theorem Detector.Gives.le {d : Detector} {x bound : Float} (h : d.Gives x)
    (htrigger : d.triggerConfidence ≤ bound)
    (hstrengths : ∀ h ∈ d.heuristics, Confidence.clamp 0.0 1.0 h.strength ≤ bound) :
    x ≤ bound := by
  rcases h with rfl | ⟨h, hh, rfl⟩
  · exact htrigger
  · exact hstrengths h hh

/-! ## One commit -/

namespace Commit

variable {s : EngineSettings} {k : Commit}

/-- What is proposed is under watch afterwards. -/
theorem exists_candidate {p : Proposal} (hp : p ∈ k.evaluation.proposed) :
    ∃ x, k.after.candidate? p.name = some x := by
  have hname : p.name ∈ (Proposal.distinct k.evaluation.proposed).map (·.name) := by
    rw [k.mem_names_distinct, proposes, List.contains_iff_mem]
    exact List.mem_map_of_mem hp
  have hseen := k.before.watchlist.sightings_learn k.evaluation.fragment.id k.now
    (Proposal.nodup_names_distinct k.evaluation.proposed) p.name
  rw [if_pos hname, ← k.watchlist_after, Watchlist.sightings] at hseen
  obtain ⟨x, hx, -⟩ := Option.map_eq_some_iff.mp hseen
  exact ⟨x, hx⟩

theorem le_novelCap_iff (hfloor : Within 0.0 1.0 s.confidenceFloor)
    (hsettings : k.before.settings = s) (hranked : k.evaluation.Ranked)
    (hnone : k.evaluation.matched = []) :
    k.outcome.confidence ≤ s.novelCap ↔ k.evaluation.proposed = [] ∨
      (∃ p ∈ k.evaluation.proposed, IsNumber p.confidence) ∧
        ∀ p ∈ k.evaluation.proposed, IsNumber p.confidence → p.confidence ≤ s.novelCap := by
  obtain ⟨hnothing, hsomething⟩ := callConfidence_spec (Double.le_refl isNumber_one) hfloor
    hranked (by simp [hnone]) (hsettings ▸ k.confidence_outcome.symm) rfl
  rw [hnone, List.map_nil, List.nil_append, List.map_eq_nil_iff] at hnothing
  rw [hnone, List.map_nil, List.nil_append, ne_eq, List.map_eq_nil_iff] at hsomething
  by_cases hnil : k.evaluation.proposed = []
  · refine iff_of_true ?_ (Or.inl hnil)
    rw [hnothing hnil]
    exact Confidence.le_greatest_right (isNumber_right hfloor.1)
  · obtain ⟨hmem, hgreatest⟩ := hsomething hnil
    rw [or_iff_right hnil, Double.greatest_le_iff hmem hgreatest]
    simp only [List.mem_map, exists_exists_and_eq_and, forall_exists_index, and_imp,
      forall_apply_eq_imp_iff₂]

end Commit

namespace Course

theorem kept_detector (d : Detector) :
    Kept (fun e => e.detector = d) fun v => ∀ p ∈ v.proposed, d.Gives p.confidence where
  evaluate := fun _ _ _ _ _ he hv p hp => by
    obtain ⟨-, -, hproposed⟩ := Engine.evaluate_eq_ok hv
    rw [hproposed, he] at hp
    exact Detector.gives_of_mem_detect hp
  commit := fun _ hk _ => hk

theorem gives_of_mem_commits {s : EngineSettings} {c : Catalog} {d : Detector} {moves : List Move}
    {k : Commit} (hk : k ∈ ((start (Engine.assemble s c d)).run moves).commits) :
    ∀ p ∈ k.outcome.proposed, (d.withTriggerConfidence s.triggerConfidence).Gives p.confidence := by
  have hkept := kept_detector (d.withTriggerConfidence s.triggerConfidence)
  have hstart : (Engine.assemble s c d).detector = d.withTriggerConfidence s.triggerConfidence :=
    rfl
  exact ((Holds.run hkept (holds_start hstart) moves).commits k hk).2

/-! ## Runs -/

/-- Under an accepted manifest an analysis without a match keeps to the cap of candidates, or to the
floor above it, exactly when the proposals do that are numbers, so always if the confidence of
triggers and every strength do.  The candidates it leaves under watch keep to their cap anyway. -/
theorem novel_analyses_are_capped_as_proposed (m : Manifest) (c : Catalog) (d : Detector)
    (moves : List Move) (hm : m.isValid = true) (hc : c.Constructible) :
    let s := m.spec.engine
    ∀ k ∈ ((start (Engine.assemble s c d)).run moves).commits, k.outcome.matched = [] →
      let proposed := k.outcome.proposed
      let reported := k.outcome.confidence
      (reported ≤ s.novelCap ↔ proposed = [] ∨ (∃ p ∈ proposed, IsNumber p.confidence) ∧
        ∀ p ∈ proposed, IsNumber p.confidence → p.confidence ≤ s.novelCap) ∧
      (s.triggerConfidence ≤ s.novelCap →
        (∀ h ∈ d.heuristics, Confidence.clamp 0.0 1.0 h.strength ≤ s.novelCap) →
        reported ≤ s.novelCap) ∧
      ∀ p ∈ proposed, ∃ x, k.after.candidate? p.name = some x ∧
        Within 0.0 s.candidateCap x.confidence := by
  intro s k hk hnone proposed reported
  have hs : s.Sound := Manifest.sound_of_isValid hm
  have hfloor : Within 0.0 1.0 s.confidenceFloor := by
    have hfield : ("confidence_floor", s.confidenceFloor) ∈ m.unitFields := by
      simp [Manifest.unitFields, s]
    have hwithin := Manifest.within_unit_of_isValid hm hfield
    exact hwithin
  have htrigger : Within 0.0 1.0 s.triggerConfidence := by
    have hfield : ("trigger_confidence", s.triggerConfidence) ∈ m.unitFields := by
      simp [Manifest.unitFields, s]
    have hwithin := Manifest.within_unit_of_isValid hm hfield
    exact hwithin
  have hrun := (holds_start ⟨Engine.bounded_assemble hs hc d,
    Confidence.clamp_clamp s.triggerConfidence⟩).run (kept_ranked hs) moves
  obtain ⟨⟨hbefore, -⟩, hbounded, hranked⟩ := hrun.commits k hk
  have hiff := Commit.le_novelCap_iff hfloor hbefore.settings hranked hnone
  refine ⟨hiff, fun htriggers hstrengths => hiff.mpr ?_, fun p hp => ?_⟩
  · have hkept : (d.withTriggerConfidence s.triggerConfidence).triggerConfidence =
        s.triggerConfidence :=
      Confidence.clamp_eq_self htrigger.1 htrigger.2
    have hall : ∀ p ∈ proposed, p.confidence ≤ s.novelCap := by
      intro p hp
      refine (gives_of_mem_commits hk p hp).le ?_ hstrengths
      rw [hkept]
      exact htriggers
    by_cases hnil : proposed = []
    · exact Or.inl hnil
    · obtain ⟨p, hp⟩ := List.exists_mem_of_ne_nil proposed hnil
      exact Or.inr ⟨⟨p, hp, (le_iff.mp (hall p hp)).1⟩, fun q hq _ => hall q hq⟩
  · obtain ⟨x, hx⟩ := Commit.exists_candidate hp
    have hafter : k.after.Bounded s := (hbefore.commit hs hbounded).1
    exact ⟨x, hx, hafter.watchlist.within hx⟩

/-- A pool that is released into, under a cap of 0.3 and under the standard one. -/
theorem novel_analyses_are_capped_as_proposed_pool :
    let s : EngineSettings := { EngineSettings.standard with candidateCap := 0.3 }
    let m : Manifest := { Manifest.standard with spec := { Spec.standard with engine := s } }
    let pool : Submission := ⟨default, "let p = pool; p.release(x);", default⟩
    let run (s : EngineSettings) :=
      (start (Engine.assemble s Catalog.seeded Detector.builtIn)).run [.analyze pool]
    m.isValid = true ∧ Manifest.standard.isValid = true ∧ Catalog.seeded.Constructible ∧
      (∀ k ∈ (run s).commits, k.outcome.matched = [] → ∀ p ∈ k.outcome.proposed,
        ∃ x, k.after.candidate? p.name = some x ∧ Within 0.0 0.3 x.confidence) ∧
      ∀ k ∈ (run EngineSettings.standard).commits, k.outcome.matched = [] →
        k.outcome.confidence ≤ EngineSettings.standard.novelCap := by
  intro s m pool run
  have hvalid : m.isValid = true := by decide
  have hstandard : Manifest.standard.isValid = true := by decide
  have htrigger : EngineSettings.standard.triggerConfidence ≤ EngineSettings.standard.novelCap := by
    decide
  have hstrengths : ∀ h ∈ Detector.builtIn.heuristics,
      Confidence.clamp 0.0 1.0 h.strength ≤ EngineSettings.standard.novelCap := by
    decide
  refine ⟨hvalid, hstandard, Catalog.constructible_seeded, fun k hk hnone => ?_,
    fun k hk hnone => ?_⟩
  · exact (novel_analyses_are_capped_as_proposed m Catalog.seeded Detector.builtIn [.analyze pool]
      hvalid Catalog.constructible_seeded k hk hnone).2.2
  · exact (novel_analyses_are_capped_as_proposed Manifest.standard Catalog.seeded
      Detector.builtIn [.analyze pool] hstandard Catalog.constructible_seeded k hk hnone).2.1
      htrigger hstrengths

/-- Under a cap of 0.3 and a floor of 0.1 a pool that is released into is reported with a confidence
of 0.4, and put under watch with 0.3. -/
theorem pool_is_reported_above_cap :
    let s : EngineSettings := { EngineSettings.standard with candidateCap := 0.3 }
    let m : Manifest := { Manifest.standard with spec := { Spec.standard with engine := s } }
    let pool : Submission := ⟨default, "let p = pool; p.release(x);", default⟩
    m.isValid = true ∧
      ∃ k ∈ ((start (Engine.make s)).run [.analyze pool]).commits,
        k.outcome.matched = [] ∧ s.novelCap < k.outcome.confidence ∧
          ∃ x ∈ k.after.candidate? "Object Pool", x.confidence ≤ s.candidateCap := by
  decide +kernel

end Course
end Motif
