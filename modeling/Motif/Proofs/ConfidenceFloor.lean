import Motif.Proofs.Recognition

/-!
The floor of the confidence.  The settings name a floor, but only an analysis that found nothing
falls back to it.  One that found something reports the greatest of the confidences found, however
small these are, so it keeps to the floor exactly when one of them does.
-/

namespace Motif

open Double

/-! ## The strongest of the proposals -/

namespace Confidence

variable {a b x : Float}

theorem greatest_eq_or (a b : Float) : greatest a b = a ∨ greatest a b = b := by
  rw [greatest]
  split
  · exact .inr rfl
  · split
    · exact .inr rfl
    · exact .inl rfl

theorem clamp_clamp (x : Float) : clamp 0.0 1.0 (clamp 0.0 1.0 x) = clamp 0.0 1.0 x := by
  by_cases hzero : x < 0.0
  · have hclamp : clamp 0.0 1.0 x = 0.0 := if_pos hzero
    rw [hclamp]
    exact clamp_eq_self (le_refl isNumber_zero) zero_le_one
  · by_cases hone : (1.0 : Float) < x
    · have hclamp : clamp 0.0 1.0 x = 1.0 := (if_neg hzero).trans (if_pos hone)
      rw [hclamp]
      exact clamp_eq_self zero_le_one (le_refl isNumber_one)
    · have hclamp : clamp 0.0 1.0 x = x := (if_neg hzero).trans (if_neg hone)
      rw [hclamp, hclamp]

end Confidence

theorem strongest_eq_none_iff {ps : List Proposal} : strongest ps = none ↔ ps = [] := by
  cases ps with
  | nil => exact iff_of_true rfl rfl
  | cons p rest => exact iff_of_false (Option.some_ne_none _) (List.cons_ne_nil p rest)

/-- The strongest is one of the proposals, and no other that is a number lies above it. -/
theorem strongest_spec {ps : List Proposal} {x : Float} (h : strongest ps = some x) :
    x ∈ ps.map (·.confidence) ∧ ∀ y ∈ ps.map (·.confidence), IsNumber y → y ≤ x := by
  cases ps with
  | nil => cases h
  | cons p rest =>
    obtain rfl := Option.some.inj h
    clear h
    rw [List.map_cons]
    generalize p.confidence = best
    induction rest generalizing best with
    | nil =>
      refine ⟨List.mem_cons_self, fun y hy hnumber => ?_⟩
      obtain rfl := List.mem_singleton.mp hy
      exact Double.le_refl hnumber
    | cons q rest ih =>
      obtain ⟨hmem, hbound⟩ := ih (Confidence.greatest best q.confidence)
      rw [List.foldl_cons, List.map_cons]
      constructor
      · rcases List.mem_cons.mp hmem with heq | hmem
        · rw [heq]
          rcases Confidence.greatest_eq_or best q.confidence with hbest | hq
          · rw [hbest]
            exact List.mem_cons_self
          · rw [hq]
            exact List.mem_cons_of_mem _ List.mem_cons_self
        · exact List.mem_cons_of_mem _ (List.mem_cons_of_mem _ hmem)
      · intro y hy hnumber
        -- the greater of the first two stands for both
        have hgreatest {z : Float} (hz : z ≤ Confidence.greatest best q.confidence) :=
          Double.le_trans hz (hbound _ List.mem_cons_self (isNumber_right hz))
        rcases List.mem_cons.mp hy with rfl | hy
        · exact hgreatest (Confidence.le_greatest_left hnumber)
        rcases List.mem_cons.mp hy with rfl | hy
        · exact hgreatest (Confidence.le_greatest_right hnumber)
        · exact hbound y (List.mem_cons_of_mem _ hy) hnumber

/-! ## The confidence of a call -/

/-- An evaluation as engines make them: matches in order of confidence, and proposals only where
there is no match. -/
structure Evaluation.Ranked (v : Evaluation) : Prop where
  top : ∀ top rest, v.matched = top :: rest → ∀ x ∈ v.matched, x.confidence ≤ top.confidence
  proposed : ∀ p ∈ v.proposed, Confidence.clamp 0.0 1.0 p.confidence = p.confidence
  exclusive : v.matched = [] ∨ v.proposed = []

/-- The confidences of all matches and proposals. -/
def Outcome.found (o : Outcome) : List Float :=
  o.matched.map (·.confidence) ++ o.proposed.map (·.confidence)

theorem Detector.clamp_of_mem_detect {d : Detector}
    (ht : Confidence.clamp 0.0 1.0 d.triggerConfidence = d.triggerConfidence) {f : Fragment}
    {existing : List Match} {p : Proposal} (hp : p ∈ d.detect f existing) :
    Confidence.clamp 0.0 1.0 p.confidence = p.confidence := by
  rcases gives_of_mem_detect hp with heq | ⟨h, -, heq⟩
  · rw [heq]
    exact ht
  · rw [heq]
    exact Confidence.clamp_clamp h.strength

namespace Engine

/-- An engine whose trigger confidence was clamped when it took its detector. -/
def Clamped (e : Engine) : Prop :=
  Confidence.clamp 0.0 1.0 e.detector.triggerConfidence = e.detector.triggerConfidence

theorem ranked_evaluate {s : EngineSettings} (hs : s.Sound) {e : Engine} (he : e.Bounded s)
    (hclamped : e.Clamped) {stamp : Stamp} {code : String} {context : Context} {v : Evaluation}
    (hv : e.evaluate stamp code context = .ok v) : v.Ranked := by
  obtain ⟨-, -, hproposed⟩ := evaluate_eq_ok hv
  refine ⟨fun top rest htop => le_of_matched_eq_cons hs he hv htop, fun p hp => ?_, ?_⟩
  · rw [hproposed] at hp
    exact Detector.clamp_of_mem_detect hclamped hp
  · -- the detector looks only where nothing matched
    rw [hproposed, Detector.detect]
    cases hmatched : v.matched with
    | nil => exact .inl rfl
    | cons top rest => exact .inr rfl

end Engine

theorem callConfidence_spec {cap floor x : Float} (hcap : cap ≤ 1.0)
    (hfloor : Within 0.0 1.0 floor) {v : Evaluation} (hv : v.Ranked)
    (hmatched : ∀ m ∈ v.matched, Within 0.0 cap m.confidence)
    (hx : callConfidence v.matched v.proposed floor = x) {found : List Float}
    (hfound : v.matched.map (·.confidence) ++ v.proposed.map (·.confidence) = found) :
    (found = [] → x = floor) ∧
      (found ≠ [] → x ∈ found ∧ ∀ y ∈ found, IsNumber y → y ≤ x) := by
  cases hm : v.matched with
  | cons top rest =>
    have hnone : v.proposed = [] := hv.exclusive.resolve_left (by simp [hm])
    have hwithin := hmatched top (hm ▸ List.mem_cons_self)
    have htop : x = top.confidence := by
      rw [← hx, hm, callConfidence]
      exact Confidence.clamp_eq_self hwithin.1 (Double.le_trans hwithin.2 hcap)
    rw [hnone, List.map_nil, List.append_nil] at hfound
    rw [← hfound, htop]
    refine ⟨fun hnil => by simp [hm] at hnil, fun _ => ⟨?_, fun y hy _ => ?_⟩⟩
    · exact List.mem_map_of_mem (hm ▸ List.mem_cons_self)
    · obtain ⟨m, hin, rfl⟩ := List.mem_map.mp hy
      exact hv.top top rest hm m hin
  | nil =>
    rw [hm, List.map_nil, List.nil_append] at hfound
    rw [hm, callConfidence] at hx
    rw [← hfound, ← hx]
    cases hs : strongest v.proposed with
    | none =>
      rw [strongest_eq_none_iff.mp hs]
      exact ⟨fun _ => Confidence.clamp_eq_self hfloor.1 hfloor.2, fun hne => absurd rfl hne⟩
    | some s =>
      obtain ⟨hmem, hbound⟩ := strongest_spec hs
      have hclamp : Confidence.clamp 0.0 1.0 s = s := by
        obtain ⟨p, hp, rfl⟩ := List.mem_map.mp hmem
        exact hv.proposed p hp
      rw [Option.getD_some, hclamp]
      exact ⟨fun hnil => absurd hmem (hnil ▸ List.not_mem_nil), fun _ => ⟨hmem, hbound⟩⟩

/-! ## Runs -/

theorem Commit.confidence_outcome (k : Commit) :
    k.outcome.confidence = callConfidence k.evaluation.matched k.evaluation.proposed
      k.before.settings.confidenceFloor := rfl

namespace Course

theorem kept_ranked {s : EngineSettings} (hs : s.Sound) :
    Kept (fun e => e.Bounded s ∧ e.Clamped) fun v => v.Bounded s ∧ v.Ranked where
  evaluate := fun _ _ _ _ _ he hv =>
    ⟨he.1.evaluate hs hv, Engine.ranked_evaluate hs he.1 he.2 hv⟩
  commit := fun _ hk hv => ⟨(hk.1.commit hs hv.1).1, hk.2⟩

/-- Under an accepted manifest an analysis that found nothing reports the floor.  One that found
something reports the greatest confidence found, and so at least the floor if and only if one of
the confidences found is. -/
theorem floor_is_kept_iff_found_above (m : Manifest) (c : Catalog) (d : Detector)
    (moves : List Move) (hm : m.isValid = true) (hc : c.Constructible) :
    let floor := m.spec.engine.confidenceFloor
    ∀ k ∈ ((start (Engine.assemble m.spec.engine c d)).run moves).commits,
      let found := k.outcome.found
      let reported := k.outcome.confidence
      (found = [] → reported = floor) ∧
      (found ≠ [] → reported ∈ found ∧ ∀ x ∈ found, IsNumber x → x ≤ reported) ∧
      (floor ≤ reported ↔ found = [] ∨ ∃ x ∈ found, floor ≤ x) := by
  intro floor k hk found reported
  let s := m.spec.engine
  have hs : s.Sound := Manifest.sound_of_isValid hm
  have hclamped : (Engine.assemble s c d).Clamped := Confidence.clamp_clamp s.triggerConfidence
  have hrun := (holds_start ⟨Engine.bounded_assemble hs hc d, hclamped⟩).run (kept_ranked hs) moves
  obtain ⟨⟨hbefore, -⟩, hbounded, hranked⟩ := hrun.commits k hk
  have hfloor : Within 0.0 1.0 floor := by
    have hfield : ("confidence_floor", m.spec.engine.confidenceFloor) ∈ m.unitFields := by
      simp [Manifest.unitFields]
    have hwithin := Manifest.within_unit_of_isValid hm hfield
    exact hwithin
  have hreported : callConfidence k.evaluation.matched k.evaluation.proposed floor = reported := by
    have hsettings : k.before.settings.confidenceFloor = floor :=
      congrArg EngineSettings.confidenceFloor hbefore.settings
    exact hsettings ▸ k.confidence_outcome.symm
  obtain ⟨hnothing, hsomething⟩ : (found = [] → reported = floor) ∧
      (found ≠ [] → reported ∈ found ∧ ∀ x ∈ found, IsNumber x → x ≤ reported) :=
    callConfidence_spec hs.patternCap.2 hfloor hranked hbounded.matched hreported rfl
  refine ⟨hnothing, hsomething, fun hkept => ?_, ?_⟩
  · by_cases hfound : found = []
    · exact .inl hfound
    · exact .inr ⟨reported, (hsomething hfound).1, hkept⟩
  · rintro (hfound | ⟨x, hx, hkept⟩)
    · rw [hnothing hfound]
      exact Double.le_refl (isNumber_right hfloor.1)
    · have hbound := (hsomething (List.ne_nil_of_mem hx)).2 x hx (isNumber_right hkept)
      exact Double.le_trans hkept hbound

/-- A pool that is released into and a line in which nothing is found, under a floor of 0.5. -/
theorem floor_is_kept_iff_found_above_pool :
    let s : EngineSettings := { EngineSettings.standard with confidenceFloor := 0.5 }
    let m : Manifest := { Manifest.standard with spec := { Spec.standard with engine := s } }
    let pool : Submission := ⟨default, "let p = pool; p.release(x);", default⟩
    let line : Submission := ⟨default, "let x = 1;", default⟩
    let run := (start (Engine.assemble s Catalog.seeded Detector.builtIn)).run
      [.analyze pool, .analyze line]
    m.isValid = true ∧ Catalog.seeded.Constructible ∧
      (∀ k ∈ run.commits, k.outcome.found = [] → k.outcome.confidence = 0.5) ∧
      ∀ k ∈ run.commits,
        (0.5 ≤ k.outcome.confidence ↔
          k.outcome.found = [] ∨ ∃ x ∈ k.outcome.found, (0.5 : Float) ≤ x) := by
  intro s m pool line run
  have hvalid : m.isValid = true := by decide
  have hkept := floor_is_kept_iff_found_above m Catalog.seeded Detector.builtIn
    [.analyze pool, .analyze line] hvalid Catalog.constructible_seeded
  exact ⟨hvalid, Catalog.constructible_seeded, fun k hk => (hkept k hk).1,
    fun k hk => (hkept k hk).2.2⟩

/-- The floor is 0.5, and a pool that is released into is reported with a confidence of 0.4. -/
theorem pool_is_reported_below_floor :
    let s : EngineSettings := { EngineSettings.standard with confidenceFloor := 0.5 }
    let m : Manifest := { Manifest.standard with spec := { Spec.standard with engine := s } }
    let pool : Submission := ⟨default, "let p = pool; p.release(x);", default⟩
    m.isValid = true ∧
      ∃ k ∈ ((start (Engine.make s)).run [.analyze pool]).commits,
        k.outcome.confidence < s.confidenceFloor := by
  decide +kernel

end Course
end Motif
