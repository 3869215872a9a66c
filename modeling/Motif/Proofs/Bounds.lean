import Motif.Manifest.Validation
import Motif.Proofs.Course
import Motif.Proofs.Double.Arithmetic
import Motif.Proofs.EventLog
import Motif.Proofs.Retention

/-!
Bounds of the confidences.  A manifest that is accepted sets caps in the unit interval, and every
confidence that an engine with its settings learns or reports stays between zero and its cap.  What
is learned only grows: the base confidence of a pattern, whose outline never changes, and the
confidence of a candidate.
-/

namespace Motif

open Double

/-! ## Accepted settings -/

structure EngineSettings.Sound (s : EngineSettings) : Prop where
  patternCap : Within 0.0 1.0 s.patternCap
  candidateCap : Within 0.0 1.0 s.candidateCap
  caps : s.candidateCap < s.patternCap

namespace Manifest

theorem check_of_isValid {m : Manifest} (h : m.isValid = true) {check : Bool × Fault}
    (hcheck : check ∈ m.checks) : check.1 = true := by
  rw [isValid, Option.isNone_iff_eq_none, fault?, Option.map_eq_none_iff, List.find?_eq_none] at h
  have hpassed := h check hcheck
  rwa [Bool.not_eq_true', Bool.not_eq_false] at hpassed

theorem within_unit_of_isValid {m : Manifest} (h : m.isValid = true) {field : String × Float}
    (hfield : field ∈ m.unitFields) : Within 0.0 1.0 field.2 := by
  have hcheck : (isUnit field.2, Fault.outsideUnit field.1 field.2) ∈ m.checks := by
    rw [checks]
    refine List.mem_append_left _ (List.mem_append_right _ ?_)
    exact List.mem_map_of_mem hfield
  have hunit : isUnit field.2 = true := check_of_isValid h hcheck
  rw [isUnit, Bool.and_eq_true, decide_eq_true_iff, decide_eq_true_iff] at hunit
  exact hunit

theorem sound_of_isValid {m : Manifest} (h : m.isValid = true) : m.spec.engine.Sound := by
  have hpattern : ("pattern_confidence_cap", m.spec.engine.patternCap) ∈ m.unitFields :=
    List.mem_cons_of_mem _ (List.mem_cons_of_mem _ List.mem_cons_self)
  have hcandidate : ("candidate_confidence_cap", m.spec.engine.candidateCap) ∈ m.unitFields :=
    List.mem_cons_of_mem _ (List.mem_cons_of_mem _ (List.mem_cons_of_mem _ List.mem_cons_self))
  have hcaps : (!(m.spec.engine.patternCap ≤ m.spec.engine.candidateCap : Bool),
      Fault.capsOrder m.spec.engine.candidateCap m.spec.engine.patternCap) ∈ m.checks :=
    List.mem_append_right _ List.mem_cons_self
  have hunit := within_unit_of_isValid h hpattern
  have hunit' := within_unit_of_isValid h hcandidate
  have horder := check_of_isValid h hcaps
  rw [Bool.not_eq_true', decide_eq_false_iff_not] at horder
  exact ⟨hunit, hunit', lt_of_not_le (isNumber_right hunit'.1) (isNumber_right hunit.1) horder⟩

end Manifest

/-! ## Catalogs -/

/-- A catalog that was built by registering, capping and reinforcing. -/
inductive Catalog.Constructible : Catalog → Prop
  | empty : Constructible Catalog.empty
  | register {c : Catalog} (h : Constructible c) (p : Provider) : Constructible (c.register p).1
  | withCap {c : Catalog} (h : Constructible c) (cap : Float) : Constructible (c.withCap cap)
  | reinforce {c : Catalog} (h : Constructible c) (name : String) (delta : Float) :
    Constructible (c.reinforce name delta).1

namespace Pattern

theorem le_reinforce {p : Pattern} (h : 0.0 ≤ p.baseConfidence) (delta cap : Float) :
    p.baseConfidence ≤ (p.reinforce delta cap).baseConfidence :=
  Confidence.le_greatest_left (isNumber_right h)

theorem reinforce_le {p : Pattern} {cap : Float} (h : p.baseConfidence ≤ cap) (delta : Float) :
    (p.reinforce delta cap).baseConfidence ≤ cap :=
  Confidence.greatest_le h (Confidence.least_le_right (isNumber_right h))

theorem zero_le_limitTo {p : Pattern} (h : 0.0 ≤ p.baseConfidence) {cap : Float}
    (hcap : IsNumber cap → 0.0 ≤ cap) : 0.0 ≤ (p.limitTo cap).baseConfidence :=
  Confidence.le_least (Or.inl (isNumber_right h)) (fun _ => h) hcap

theorem zero_le_adopt (c : Catalog) (p : Provider) : 0.0 ≤ (c.adopt p).baseConfidence := by
  rw [Catalog.adopt]
  split
  · exact (Confidence.within_clampUnit c.cap).1
  · exact (Confidence.within_clampUnit p.weight).1

end Pattern

namespace Catalog

theorem constructible_ofProviders (ps : List Provider) : (ofProviders ps).Constructible := by
  have lift (c : Catalog) (h : c.Constructible) :
      (ps.foldl (fun c p => (c.register p).1) c).Constructible := by
    induction ps generalizing c with
    | nil => exact h
    | cons p rest ih => exact ih _ (h.register p)
  exact lift empty .empty

theorem constructible_seeded : seeded.Constructible := constructible_ofProviders Pattern.seeds

theorem outlines_withCap (c : Catalog) (cap : Float) : (c.withCap cap).outlines = c.outlines := by
  rw [outlines, withCap, List.map_map]
  rfl

theorem Constructible.zero_le {c : Catalog} (h : c.Constructible) :
    ∀ p ∈ c.patterns, 0.0 ≤ p.baseConfidence := by
  induction h with
  | empty => exact fun _ hp => absurd hp List.not_mem_nil
  | @register c h p ih =>
    rw [Catalog.register]
    split
    · exact ih
    · intro q hq
      rcases List.mem_append.mp hq with hq | hq
      · exact ih q hq
      · obtain rfl := List.mem_singleton.mp hq
        exact Pattern.zero_le_adopt c p
  | @withCap c h cap ih =>
    intro q hq
    obtain ⟨p, hp, rfl⟩ := List.mem_map.mp hq
    exact Pattern.zero_le_limitTo (ih p hp) Confidence.zero_le_clamp
  | @reinforce c h name delta ih =>
    rw [reinforce_fst]
    intro q hq
    rcases Sequence.mem_changeFirst hq with hq | ⟨p, hp, -, rfl⟩
    · exact ih q hq
    · exact Double.le_trans (ih p hp) (Pattern.le_reinforce (ih p hp) delta c.cap)

/-! ## What learning does to a catalog -/

/-- Every base confidence lies between zero and the cap. -/
structure Bounded (cap : Float) (c : Catalog) : Prop where
  cap_eq : c.cap = cap
  bases : ∀ p ∈ c.patterns, Within 0.0 cap p.baseConfidence

end Catalog

/-- The same pattern with at least as much confidence. -/
structure Pattern.GrowsTo (p q : Pattern) : Prop where
  outline : p.outline = q.outline
  base : p.baseConfidence ≤ q.baseConfidence

def Catalog.GrowsTo (c d : Catalog) : Prop := List.Forall₂ Pattern.GrowsTo c.patterns d.patterns

namespace Catalog

theorem GrowsTo.trans {b c d : Catalog} (h : b.GrowsTo c) (h' : c.GrowsTo d) : b.GrowsTo d := by
  have lift (ps qs rs : List Pattern) (hp : List.Forall₂ Pattern.GrowsTo ps qs)
      (hq : List.Forall₂ Pattern.GrowsTo qs rs) : List.Forall₂ Pattern.GrowsTo ps rs := by
    induction hp generalizing rs with
    | nil => exact hq
    | cons hhead _ ih =>
      cases hq with
      | cons hhead' htail =>
        exact .cons ⟨hhead.outline.trans hhead'.outline, Double.le_trans hhead.base hhead'.base⟩
          (ih _ htail)
  exact lift _ _ _ h h'

variable {cap delta : Float} {c : Catalog}

theorem Bounded.growsTo_self (h : c.Bounded cap) : c.GrowsTo c :=
  List.forall₂_same.mpr fun p hp => ⟨rfl, Double.le_refl (isNumber_right (h.bases p hp).1)⟩

/-- Reinforcing lowers nothing, whatever the cap. -/
theorem growsTo_reinforce (h : ∀ p ∈ c.patterns, 0.0 ≤ p.baseConfidence) (name : String)
    (delta : Float) : c.GrowsTo (c.reinforce name delta).1 := by
  rw [reinforce_fst]
  refine Sequence.forall₂_changeFirst_self fun p hp => ?_
  have hlow := h p hp
  exact ⟨⟨rfl, Double.le_refl (isNumber_right hlow)⟩, rfl, Pattern.le_reinforce hlow delta c.cap⟩

theorem Bounded.reinforce (h : c.Bounded cap) (delta : Float) (name : String) :
    (c.reinforce name delta).1.Bounded cap ∧ c.GrowsTo (c.reinforce name delta).1 := by
  refine ⟨?_, growsTo_reinforce (fun p hp => (h.bases p hp).1) name delta⟩
  rw [reinforce_fst]
  refine ⟨h.cap_eq, fun q hq => ?_⟩
  rcases Sequence.mem_changeFirst hq with hq | ⟨p, hp, -, rfl⟩
  · exact h.bases q hq
  · obtain ⟨hlow, hhigh⟩ := h.bases p hp
    rw [h.cap_eq]
    exact ⟨Double.le_trans hlow (Pattern.le_reinforce hlow delta cap),
      Pattern.reinforce_le hhigh delta⟩

theorem Bounded.learn {fragment : Uuid} {now : Timestamp} (h : c.Bounded cap) (ms : List Match) :
    (c.learn delta fragment now ms).1.Bounded cap ∧
      c.GrowsTo (c.learn delta fragment now ms).1 := by
  induction ms generalizing c with
  | nil => exact ⟨h, h.growsTo_self⟩
  | cons m rest ih =>
    obtain ⟨hbounded, hgrows⟩ := h.reinforce delta m.pattern
    rw [learn_cons_fst]
    exact ⟨(ih hbounded).1, hgrows.trans (ih hbounded).2⟩

end Catalog

/-! ## What learning does to a watchlist -/

namespace Watchlist

structure Bounded (cap : Float) (w : Watchlist) : Prop where
  cap_eq : w.cap = cap
  candidates : ∀ c ∈ w.candidates, Within 0.0 cap c.confidence

/-- No candidate is lost, and none loses confidence. -/
def GrowsTo (w x : Watchlist) : Prop :=
  ∀ name c, w.get? name = some c → ∃ d, x.get? name = some d ∧ c.confidence ≤ d.confidence

theorem GrowsTo.trans {v w x : Watchlist} (h : v.GrowsTo w) (h' : w.GrowsTo x) : v.GrowsTo x := by
  intro name b hb
  obtain ⟨c, hc, hbc⟩ := h name b hb
  obtain ⟨d, hd, hcd⟩ := h' name c hc
  exact ⟨d, hd, Double.le_trans hbc hcd⟩

variable {cap : Float} {w : Watchlist}

theorem Bounded.within (h : w.Bounded cap) {name : String} {c : Candidate}
    (hc : w.get? name = some c) : Within 0.0 cap c.confidence :=
  h.candidates c (List.mem_of_find?_eq_some hc)

theorem Bounded.growsTo_self (h : w.Bounded cap) : w.GrowsTo w := fun _ c hc =>
  ⟨c, hc, Double.le_refl (isNumber_right (h.within hc).1)⟩

theorem within_propose (hcap : 0.0 ≤ cap) (name description : String) (confidence : Float)
    (fragment : Uuid) (now : Timestamp) :
    Within 0.0 cap (Candidate.propose name description confidence fragment now cap).confidence :=
  ⟨Confidence.le_least (Or.inr (isNumber_right hcap))
      (fun _ => (Confidence.within_clampUnit confidence).1) fun _ => hcap,
    Confidence.least_le_right (isNumber_right hcap)⟩

/-- A further sighting nudges a candidate up, as far as the cap lets it. -/
theorem observe_within {c : Candidate} (h : Within 0.0 cap c.confidence) (fragment : Uuid)
    (now : Timestamp) (nudge : Float) :
    c.confidence ≤ (c.observe fragment now nudge cap).confidence ∧
      (c.observe fragment now nudge cap).confidence ≤ cap :=
  ⟨Confidence.le_least (Or.inr (isNumber_right h.2)) (fun _ => Confidence.le_raised h.1 nudge)
      fun _ => h.2,
    Confidence.least_le_right (isNumber_right h.2)⟩

theorem Bounded.observe (h : w.Bounded cap) (hcap : 0.0 ≤ cap) (n description : String)
    (confidence : Float) (fragment : Uuid) (now : Timestamp) :
    (w.observe n description confidence fragment now).1.Bounded cap ∧
      w.GrowsTo (w.observe n description confidence fragment now).1 := by
  cases hn : w.get? n with
  | some c =>
    refine ⟨?_, fun name d hd => ?_⟩
    · rw [observe_of_some hn]
      refine ⟨h.cap_eq, fun d hd => ?_⟩
      rcases Sequence.mem_changeFirst hd with hd | ⟨b, hb, -, rfl⟩
      · exact h.candidates d hd
      · rw [h.cap_eq]
        obtain ⟨hle, hhigh⟩ := observe_within (h.candidates b hb) fragment now w.nudge
        exact ⟨Double.le_trans (h.candidates b hb).1 hle, hhigh⟩
    · rw [get?_observe]
      by_cases hname : name = n
      · subst hname
        obtain rfl : c = d := Option.some.inj (hn.symm.trans hd)
        refine ⟨_, if_pos rfl, ?_⟩
        rw [observe_of_some hn, h.cap_eq]
        exact (observe_within (h.within hn) fragment now w.nudge).1
      · exact ⟨d, (if_neg hname).trans hd, Double.le_refl (isNumber_right (h.within hd).1)⟩
  | none =>
    refine ⟨?_, fun name d hd => ?_⟩
    · rw [observe_of_none hn]
      refine ⟨h.cap_eq, fun d hd => ?_⟩
      rcases List.mem_append.mp hd with hd | hd
      · exact h.candidates d hd
      · obtain rfl := List.mem_singleton.mp hd
        rw [h.cap_eq]
        exact within_propose hcap _ _ _ _ _
    · have hname : name ≠ n := by
        rintro rfl
        cases hn.symm.trans hd
      rw [get?_observe]
      exact ⟨d, (if_neg hname).trans hd, Double.le_refl (isNumber_right (h.within hd).1)⟩

theorem Bounded.learn {fragment : Uuid} {now : Timestamp} (h : w.Bounded cap) (hcap : 0.0 ≤ cap)
    (ps : List Proposal) :
    (w.learn fragment now ps).1.Bounded cap ∧ w.GrowsTo (w.learn fragment now ps).1 := by
  induction ps generalizing w with
  | nil => exact ⟨h, h.growsTo_self⟩
  | cons p rest ih =>
    obtain ⟨hbounded, hgrows⟩ :=
      h.observe hcap p.name p.description p.confidence fragment now
    exact ⟨(ih hbounded).1, hgrows.trans (ih hbounded).2⟩

end Watchlist

/-! ## What evaluating finds -/

/-- The confidences that an evaluation reports, under the settings of its engine. -/
structure Evaluation.Bounded (s : EngineSettings) (v : Evaluation) : Prop where
  matched : ∀ m ∈ v.matched, Within 0.0 s.patternCap m.confidence
  fragment : Within 0.1 1.0 v.fragment.confidence

theorem Matcher.within_match? {m : Matcher} (hcap : 0.0 ≤ m.cap) {text : List Char} {p : Pattern}
    (hp : 0.0 ≤ p.baseConfidence) {found : Match} (h : m.match? text p = some found) :
    Within 0.0 m.cap found.confidence := by
  simp only [match?] at h
  split at h
  · cases h
  · obtain rfl := Option.some.inj h
    have hnumber : IsNumber m.cap := isNumber_right hcap
    refine ⟨Confidence.le_least (Or.inr hnumber) (fun hproduct => ?_) fun _ => hcap,
      Confidence.least_le_right hnumber⟩
    exact zero_le_mul hp (positive_ratio _ _) hproduct

theorem Matcher.within_score {m : Matcher} (hcap : 0.0 ≤ m.cap) {c : Catalog}
    (hc : ∀ p ∈ c.patterns, 0.0 ≤ p.baseConfidence) (code : String) :
    ∀ found ∈ m.score c code, Within 0.0 m.cap found.confidence := by
  intro found hfound
  rw [score, (List.mergeSort_perm _ _).mem_iff] at hfound
  obtain ⟨p, hp, hmatch⟩ := List.mem_filterMap.mp hfound
  exact within_match? hcap (hc p hp) hmatch

theorem Fragment.within_reinforceTimes {f : Fragment} (h : Within 0.1 1.0 f.confidence)
    (delta : Float) (count : Nat) :
    Within 0.1 1.0 (f.reinforceTimes delta count).confidence := by
  induction count generalizing f with
  | zero => exact h
  | succ count ih =>
    have hzero : (0.0 : Float) ≤ 0.1 := by decide
    have hone : (0.1 : Float) ≤ 1.0 := by decide
    have hraised : 0.1 ≤ Confidence.raised f.confidence delta :=
      Double.le_trans h.1 (Confidence.le_raised (Double.le_trans hzero h.1) delta)
    exact ih ⟨Confidence.le_clampUnit hraised hone, (Confidence.within_clampUnit _).2⟩

/-! ## The engine -/

namespace Engine

structure Bounded (s : EngineSettings) (e : Engine) : Prop where
  settings : e.settings = s
  matcher : e.matcher.cap = s.patternCap
  catalog : e.catalog.Bounded s.patternCap
  watchlist : e.watchlist.Bounded s.candidateCap
  fragments : ∀ f ∈ e.history.fragments, Within 0.1 1.0 f.confidence

structure GrowsTo (e f : Engine) : Prop where
  catalog : e.catalog.GrowsTo f.catalog
  watchlist : e.watchlist.GrowsTo f.watchlist

variable {s : EngineSettings}

theorem Bounded.evaluate (hs : s.Sound) {e : Engine} (h : e.Bounded s) {stamp : Stamp}
    {code : String} {context : Context} {v : Evaluation}
    (hv : e.evaluate stamp code context = .ok v) : v.Bounded s := by
  obtain ⟨hmatched, hfragment, -⟩ := evaluate_eq_ok hv
  have hcap : 0.0 ≤ e.matcher.cap := h.matcher ▸ hs.patternCap.1
  refine ⟨?_, ?_⟩
  · rw [hmatched, ← h.matcher]
    exact Matcher.within_score hcap (fun p hp => (h.catalog.bases p hp).1) code
  · have hfresh : Within 0.1 1.0 (Fragment.fresh stamp code context).confidence := by
      show (0.1 : Float) ≤ 0.1 ∧ (0.1 : Float) ≤ 1.0
      decide
    rw [hfragment]
    exact Fragment.within_reinforceTimes hfresh _ _

theorem Bounded.commit (hs : s.Sound) {k : Commit} (h : k.before.Bounded s)
    (hv : k.evaluation.Bounded s) : k.after.Bounded s ∧ k.before.GrowsTo k.after := by
  obtain ⟨hcatalog, hcatalog'⟩ := h.catalog.learn k.evaluation.matched
  obtain ⟨hwatchlist, hwatchlist'⟩ :=
    h.watchlist.learn hs.candidateCap.1 (Proposal.distinct k.evaluation.proposed)
  refine ⟨⟨h.settings, h.matcher, hcatalog, hwatchlist, fun f hf => ?_⟩, hcatalog', hwatchlist'⟩
  rw [k.history_after] at hf
  rcases List.mem_append.mp (List.mem_of_mem_drop hf) with hf | hf
  · exact h.fragments f hf
  · obtain rfl := List.mem_singleton.mp hf
    exact hv.fragment

theorem bounded_assemble (hs : s.Sound) {c : Catalog} (hc : c.Constructible) (d : Detector) :
    (assemble s c d).Bounded s := by
  have hclamp (x : Float) (hx : Within 0.0 1.0 x) : Confidence.clamp 0.0 1.0 x = x :=
    Confidence.clamp_eq_self hx.1 hx.2
  refine ⟨rfl, rfl, ⟨hclamp _ hs.patternCap, fun q hq => ?_⟩,
    ⟨hclamp _ hs.candidateCap, fun _ hx => absurd hx List.not_mem_nil⟩,
    fun _ hf => absurd hf List.not_mem_nil⟩
  obtain ⟨p, hp, rfl⟩ := List.mem_map.mp hq
  show Within 0.0 s.patternCap (p.limitTo (Confidence.clamp 0.0 1.0 s.patternCap)).baseConfidence
  rw [hclamp _ hs.patternCap]
  exact ⟨Pattern.zero_le_limitTo (hc.zero_le p hp) fun _ => hs.patternCap.1,
    Confidence.least_le_right (isNumber_right hs.patternCap.1)⟩

end Engine

namespace Course

theorem Leads.outlines {e f : Engine} {commits : List Commit} (h : Leads e commits f) :
    f.catalog.outlines = e.catalog.outlines := by
  induction h with
  | nil => rfl
  | @snoc earlier k h ih =>
    rw [k.catalog_after, Catalog.outlines_learn]
    exact ih

theorem kept_bounded {s : EngineSettings} (hs : s.Sound) :
    Kept (Engine.Bounded s) (Evaluation.Bounded s) where
  evaluate := fun _ _ _ _ _ he hv => he.evaluate hs hv
  commit := fun _ hk hv => (hk.commit hs hv).1

/-- Under an accepted manifest every confidence keeps to its cap, and what is learned only grows. -/
theorem accepted_settings_bound_confidences (m : Manifest) (c : Catalog) (d : Detector)
    (moves more : List Move) (hm : m.isValid = true) (hc : c.Constructible) :
    let s := m.spec.engine
    let run := (start (Engine.assemble s c d)).run moves
    let later := run.run more
    s.candidateCap < s.patternCap ∧
    run.engine.catalog.outlines = c.outlines ∧
    (∀ p ∈ run.engine.patterns, Within 0.0 s.patternCap p.baseConfidence) ∧
    List.Forall₂ Pattern.GrowsTo run.engine.patterns later.engine.patterns ∧
    (∀ x ∈ run.engine.candidates, Within 0.0 s.candidateCap x.confidence) ∧
    (∀ name x, run.engine.candidate? name = some x →
      ∃ y, later.engine.candidate? name = some y ∧ x.confidence ≤ y.confidence) ∧
    (∀ v ∈ run.evaluations, ∀ x ∈ v.matched, Within 0.0 s.patternCap x.confidence) ∧
    (∀ k ∈ run.commits, ∀ x ∈ k.outcome.matched, Within 0.0 s.patternCap x.confidence) ∧
    ∀ f ∈ run.engine.history.fragments, Within 0.1 1.0 f.confidence := by
  intro s run later
  have hs : s.Sound := Manifest.sound_of_isValid hm
  have hkept := kept_bounded hs
  have hstart : Holds (Engine.Bounded s) (Evaluation.Bounded s) (start (Engine.assemble s c d)) :=
    holds_start (Engine.bounded_assemble hs hc d)
  have hrun : Holds (Engine.Bounded s) (Evaluation.Bounded s) run := hstart.run hkept moves
  have hgrows : run.engine.GrowsTo later.engine :=
    hrun.related hkept (fun _ he => ⟨he.catalog.growsTo_self, he.watchlist.growsTo_self⟩)
      (fun _ _ _ h h' => ⟨h.catalog.trans h'.catalog, h.watchlist.trans h'.watchlist⟩)
      (fun _ hk hv => (hk.commit hs hv).2) more
  have houtlines : run.engine.catalog.outlines = (Engine.assemble s c d).catalog.outlines :=
    (leads_run _ moves).outlines
  refine ⟨hs.caps, houtlines.trans (c.outlines_withCap _), hrun.engine.catalog.bases,
    hgrows.catalog, ?_, hgrows.watchlist, fun v hv => (hrun.evaluations v hv).matched,
    fun k hk => (hrun.commits k hk).2.matched, hrun.engine.fragments⟩
  intro x hx
  exact hrun.engine.watchlist.candidates x ((List.mergeSort_perm _ _).mem_iff.mp hx)

/-- The standard manifest and the seeded catalog, with one analysis behind and one ahead. -/
theorem accepted_settings_bound_confidences_standard :
    let builder : Submission := ⟨default, "const q = new QueryBuilder().build();", default⟩
    let run := (start (Engine.make EngineSettings.standard)).run [.analyze builder]
    Manifest.standard.isValid = true ∧ Catalog.seeded.Constructible ∧
      (∀ p ∈ run.engine.patterns, Within 0.0 0.95 p.baseConfidence) ∧
      List.Forall₂ Pattern.GrowsTo run.engine.patterns
        (run.run [.analyze builder]).engine.patterns := by
  intro builder run
  have hvalid : Manifest.standard.isValid = true := by decide
  obtain ⟨-, -, hbases, hgrows, -⟩ := accepted_settings_bound_confidences Manifest.standard
    Catalog.seeded Detector.builtIn [.analyze builder] [.analyze builder] hvalid
    Catalog.constructible_seeded
  exact ⟨hvalid, Catalog.constructible_seeded, hbases, hgrows⟩

end Course
end Motif
