import Motif.Proofs.Bounds
import Motif.Proofs.Double.Scaling
import Motif.Proofs.Promotion

/-!
What is recognised while the engine learns.  Commits raise base confidences, so they reorder the
matches of a code and raise their numbers, but which patterns match, by which indicators, and what
is proposed stays as it was.  The confidence of an analysis is that of the first match, and it only
grows as well.
-/

namespace Motif

open Double

/-! ## Names of a catalog -/

namespace Catalog

theorem names_eq (c : Catalog) : c.patterns.map (·.name) = c.outlines.map (·.1) := by
  rw [outlines, List.map_map]
  rfl

theorem name_adopt (c : Catalog) (p : Provider) : (c.adopt p).name = p.name := by
  rw [adopt]
  split <;> rfl

theorem Constructible.nodup_names {c : Catalog} (h : c.Constructible) :
    (c.patterns.map (·.name)).Nodup := by
  induction h with
  | empty => exact .nil
  | @register c h p ih =>
    rw [Catalog.register]
    split
    · exact ih
    · next hnew =>
      have hfresh : p.name ∉ c.patterns.map (·.name) := by
        intro hin
        obtain ⟨q, hq, hqname⟩ := List.mem_map.mp hin
        exact hnew (List.find?_isSome.mpr ⟨q, hq, beq_iff_eq.mpr hqname⟩)
      show ((c.patterns ++ [c.adopt p]).map (·.name)).Nodup
      rw [List.map_append, List.map_singleton, c.name_adopt, ← List.concat_eq_append]
      exact ih.concat hfresh
  | @withCap c h cap ih =>
    rw [names_eq, outlines_withCap, ← names_eq]
    exact ih
  | @reinforce c h name delta ih =>
    rw [names_eq, outlines_reinforce, ← names_eq]
    exact ih

end Catalog

/-! ## Matches that grow -/

/-- All of a match but its confidence. -/
def Match.finding (m : Match) : String × Nat × Nat × List String × String :=
  (m.pattern, m.found, m.total, m.indicators, m.description)

structure Match.GrowsTo (a b : Match) : Prop where
  finding : a.finding = b.finding
  confidence : a.confidence ≤ b.confidence

namespace Matcher

variable {m : Matcher}

theorem rel_match? (hcap : IsNumber m.cap) {p q : Pattern} (hp : 0.0 ≤ p.baseConfidence)
    (h : p.GrowsTo q) (text : List Char) :
    Option.Rel Match.GrowsTo (m.match? text p) (m.match? text q) := by
  obtain ⟨hname, hrest⟩ := Prod.mk.inj h.outline
  obtain ⟨hindicators, hdescription⟩ := Prod.mk.inj hrest
  rw [match?, match?, hname, hindicators, hdescription]
  split
  · exact .none
  · refine .some ⟨?_, least_mul_mono hp h.base (positive_ratio _ _) hcap⟩
    -- the two matches differ in their confidence, so they are read field by field
    simp only [Match.finding]

theorem forall₂_filterMap_match? (hcap : IsNumber m.cap) {ps qs : List Pattern}
    (hps : ∀ p ∈ ps, 0.0 ≤ p.baseConfidence) (h : List.Forall₂ Pattern.GrowsTo ps qs)
    (text : List Char) :
    List.Forall₂ Match.GrowsTo (ps.filterMap (m.match? text)) (qs.filterMap (m.match? text)) := by
  have hboth := (List.forall₂_and_left ps qs).mpr ⟨hps, h⟩
  exact List.rel_filterMap (fun _ _ hpq => rel_match? hcap hpq.1 hpq.2 text) hboth

end Matcher

/-! ## The first match -/

theorem Confidence.order_eq_compare {x y : Float} (hx : IsNumber x) (hy : IsNumber y) :
    order x y = compare (rank x) (rank y) := by
  rw [order]
  split
  · next hlt => exact (compare_lt_iff_lt.mpr (lt_iff.mp hlt).2.2).symm
  next hlt =>
  split
  · next hgt => exact (compare_gt_iff_gt.mpr (lt_iff.mp hgt).2.2).symm
  · next hgt =>
    have hle : rank x ≤ rank y := (le_iff.mp (le_of_not_lt hx hy hgt)).2.2
    have hge : rank y ≤ rank x := (le_iff.mp (le_of_not_lt hy hx hlt)).2.2
    exact (compare_eq_iff_eq.mpr (hle.antisymm hge)).symm

namespace Match

def key (m : Match) : (ℤ ×ₗ ℤ ×ₗ ℤ)ᵒᵈ ×ₗ ℕᵒᵈ ×ₗ String :=
  toLex (OrderDual.toDual (Double.rank m.confidence), toLex (OrderDual.toDual m.found, m.pattern))

theorem confidence_le_of_key_le {a b : Match} (ha : IsNumber a.confidence)
    (hb : IsNumber b.confidence) (h : a.key ≤ b.key) : b.confidence ≤ a.confidence := by
  refine le_iff.mpr ⟨hb, ha, ?_⟩
  rcases Prod.Lex.toLex_le_toLex.mp h with hlt | ⟨heq, -⟩
  · exact (OrderDual.toDual_lt_toDual.mp hlt).le
  · exact (OrderDual.toDual_inj.mp heq).ge

theorem rank_eq_compare {a b : Match} (ha : IsNumber a.confidence) (hb : IsNumber b.confidence) :
    rank a b = compare a.key b.key := by
  rw [rank, Confidence.order_eq_compare hb ha]
  rfl

end Match

namespace Matcher

/-- Confidences that are numbers make the ranking a linear order on the matches of a code. -/
theorem pairwise_key_score {m : Matcher} {c : Catalog} {code : String}
    (hnumbers : ∀ x ∈ m.score c code, IsNumber x.confidence) :
    (m.score c code).Pairwise fun a b => a.key ≤ b.key := by
  have hfound : ∀ x ∈ c.patterns.filterMap (m.match? (Text.lower code.toList)),
      IsNumber x.confidence := fun x hx =>
    hnumbers x ((List.mergeSort_perm _ _).mem_iff.mpr hx)
  exact Sequence.pairwise_key_mergeSort fun a ha b hb =>
    Match.rank_eq_compare (hfound a ha) (hfound b hb)

/-- No match has more confidence than the first one. -/
theorem le_of_score_eq_cons {m : Matcher} {c : Catalog} {code : String} {top : Match}
    {rest : List Match} (hnumbers : ∀ x ∈ m.score c code, IsNumber x.confidence)
    (h : m.score c code = top :: rest) : ∀ x ∈ m.score c code, x.confidence ≤ top.confidence := by
  have hsorted := pairwise_key_score hnumbers
  have htop : IsNumber top.confidence := hnumbers top (h ▸ List.mem_cons_self)
  intro x hx
  rw [h] at hx hsorted
  rcases List.mem_cons.mp hx with rfl | hrest
  · exact Double.le_refl htop
  · have hkey : top.key ≤ x.key := List.rel_of_pairwise_cons hsorted hrest
    exact Match.confidence_le_of_key_le htop (hnumbers x (h ▸ hx)) hkey

end Matcher

/-! ## Matches of one code -/

/-- The matches on the one side are those on the other, grown, in some order. -/
def Match.AllGrowTo (ms ns : List Match) : Prop :=
  ∃ us vs, ms.Perm us ∧ ns.Perm vs ∧ List.Forall₂ Match.GrowsTo us vs

namespace Match.AllGrowTo

variable {ms ns : List Match}

theorem perm_finding (h : AllGrowTo ms ns) : (ms.map finding).Perm (ns.map finding) := by
  obtain ⟨us, vs, hms, hns, hgrows⟩ := h
  have hsame : us.map finding = vs.map finding := by
    rw [← List.forall₂_eq_eq_eq, List.forall₂_map_left_iff, List.forall₂_map_right_iff]
    exact hgrows.imp fun _ _ hab => hab.finding
  exact (hms.map finding).trans (hsame ▸ (hns.map finding).symm)

theorem exists_growsTo (h : AllGrowTo ms ns) {a : Match} (ha : a ∈ ms) :
    ∃ b ∈ ns, a.GrowsTo b := by
  obtain ⟨us, vs, hms, hns, hgrows⟩ := h
  obtain ⟨i, hi, rfl⟩ := List.getElem_of_mem (hms.mem_iff.mp ha)
  have hi' : i < vs.length := hgrows.length_eq ▸ hi
  exact ⟨vs[i], hns.mem_iff.mpr (List.getElem_mem hi'), hgrows.get hi hi'⟩

theorem perm_names (h : AllGrowTo ms ns) :
    (ms.map (·.pattern)).Perm (ns.map (·.pattern)) := by
  have hnames := h.perm_finding.map (·.1)
  rwa [List.map_map, List.map_map] at hnames

theorem growsTo_of_pattern_eq (h : AllGrowTo ms ns) (hnodup : (ns.map (·.pattern)).Nodup)
    {a b : Match} (ha : a ∈ ms) (hb : b ∈ ns) (hab : a.pattern = b.pattern) : a.GrowsTo b := by
  obtain ⟨c, hc, hac⟩ := h.exists_growsTo ha
  have hname : c.pattern = b.pattern := (congrArg (·.1) hac.finding).symm.trans hab
  rwa [← List.inj_on_of_nodup_map hnodup hc hb hname]

end Match.AllGrowTo

theorem Matcher.allGrowTo_score {m : Matcher} (hcap : IsNumber m.cap) {c d : Catalog}
    (hc : ∀ p ∈ c.patterns, 0.0 ≤ p.baseConfidence) (h : c.GrowsTo d) (code : String) :
    Match.AllGrowTo (m.score c code) (m.score d code) :=
  ⟨_, _, List.mergeSort_perm _ _, List.mergeSort_perm _ _,
    forall₂_filterMap_match? hcap hc h (Text.lower code.toList)⟩

/-! ## The confidence of an analysis -/

/-- The confidences that a detector can give: that of its triggers, and the strengths. -/
def Detector.Gives (d : Detector) (x : Float) : Prop :=
  x = d.triggerConfidence ∨ ∃ h ∈ d.heuristics, x = Confidence.clamp 0.0 1.0 h.strength

theorem Detector.gives_of_mem_detect {d : Detector} {f : Fragment} {existing : List Match}
    {p : Proposal} (hp : p ∈ d.detect f existing) : d.Gives p.confidence := by
  rw [detect] at hp
  split at hp
  · obtain ⟨h, hh, hp⟩ := List.mem_flatMap.mp hp
    rw [Heuristic.proposals] at hp
    rcases List.mem_append.mp hp with hp | hp
    · obtain ⟨evidence, -, rfl⟩ := Option.map_eq_some_iff.mp (Option.mem_toList.mp hp)
      exact .inl rfl
    · obtain ⟨evidence, -, rfl⟩ := Option.map_eq_some_iff.mp (Option.mem_toList.mp hp)
      exact .inr ⟨h, hh, rfl⟩
  · exact absurd hp List.not_mem_nil

theorem Detector.isNumber_of_mem_detect {d : Detector} (ht : IsNumber d.triggerConfidence)
    (hs : ∀ h ∈ d.heuristics, IsNumber h.strength) {f : Fragment} {ms : List Match} {p : Proposal}
    (hp : p ∈ d.detect f ms) : IsNumber p.confidence := by
  rcases gives_of_mem_detect hp with heq | ⟨h, hh, heq⟩
  · rw [heq]
    exact ht
  · rw [heq]
    exact Confidence.isNumber_clamp_iff.mpr (hs h hh)

theorem isNumber_strongest {ps : List Proposal} (h : ∀ p ∈ ps, IsNumber p.confidence) {x : Float}
    (hx : strongest ps = some x) : IsNumber x := by
  cases ps with
  | nil => cases hx
  | cons p rest =>
    obtain rfl := Option.some.inj hx
    have keep (best : Float) (hbest : IsNumber best) : IsNumber
        (rest.foldl (fun best q => Confidence.greatest best q.confidence) best) := by
      clear h hx
      induction rest generalizing best with
      | nil => exact hbest
      | cons q rest ih => exact ih _ (isNumber_right (Confidence.le_greatest_left hbest))
    exact keep _ (h p List.mem_cons_self)

theorem callConfidence_le {cap floor : Float} {ms ns : List Match} {ps : List Proposal}
    (hcap : cap ≤ 1.0) (hms : ∀ a ∈ ms, Within 0.0 cap a.confidence)
    (hns : ∀ b ∈ ns, Within 0.0 cap b.confidence) (hgrows : Match.AllGrowTo ms ns)
    (htop : ∀ top rest, ns = top :: rest → ∀ x ∈ ns, x.confidence ≤ top.confidence)
    (hps : ∀ p ∈ ps, IsNumber p.confidence) (hfloor : IsNumber floor) :
    callConfidence ms ps floor ≤ callConfidence ns ps floor := by
  have hread {x : Float} (hx : Within 0.0 cap x) : Confidence.clamp 0.0 1.0 x = x :=
    Confidence.clamp_eq_self hx.1 (Double.le_trans hx.2 hcap)
  have hlength := hgrows.perm_names.length_eq
  cases ms with
  | nil =>
    cases ns with
    | cons b rest => cases hlength
    | nil =>
      refine Double.le_refl (Confidence.isNumber_clamp_iff.mpr ?_)
      cases hstrongest : strongest ps with
      | none => exact hfloor
      | some x => exact isNumber_strongest hps hstrongest
  | cons a _ =>
    cases ns with
    | nil => cases hlength
    | cons top rest =>
      obtain ⟨b, hb, hab⟩ := hgrows.exists_growsTo List.mem_cons_self
      rw [callConfidence, callConfidence, hread (hms a List.mem_cons_self),
        hread (hns top List.mem_cons_self)]
      exact Double.le_trans hab.confidence (htop top rest rfl b hb)

/-! ## Two engines, one of which has learned more -/

/-- An evaluation and another one of the same code, made later. -/
structure Evaluation.GrowsTo (v w : Evaluation) : Prop where
  names : (v.matched.map (·.pattern)).Nodup
  findings : (v.matched.map Match.finding).Perm (w.matched.map Match.finding)
  confidences : ∀ a ∈ v.matched, ∀ b ∈ w.matched, a.pattern = b.pattern →
    a.confidence ≤ b.confidence
  proposed : v.proposed = w.proposed

namespace Engine

variable {s : EngineSettings} {e f : Engine} {stamp stamp' : Stamp} {code : String}
  {context : Context} {v w : Evaluation}

theorem nodup_matched (h : (e.catalog.patterns.map (·.name)).Nodup)
    (hv : e.evaluate stamp code context = .ok v) : (v.matched.map (·.pattern)).Nodup := by
  obtain ⟨hmatched, -, -⟩ := evaluate_eq_ok hv
  rw [hmatched, (e.matcher.score_perm_recognised e.catalog code).nodup_iff]
  exact h.sublist (List.filter_sublist.map _)

theorem allGrowTo_matched (hs : s.Sound) (he : e.Bounded s) (hsees : e.SeesLike f)
    (hgrows : e.GrowsTo f) (hv : e.evaluate stamp code context = .ok v)
    (hw : f.evaluate stamp' code context = .ok w) : Match.AllGrowTo v.matched w.matched := by
  obtain ⟨hvm, -, -⟩ := evaluate_eq_ok hv
  obtain ⟨hwm, -, -⟩ := evaluate_eq_ok hw
  have hcap : IsNumber e.matcher.cap := by
    rw [he.matcher]
    exact isNumber_right hs.patternCap.1
  rw [hvm, hwm, ← hsees.matcher]
  exact Matcher.allGrowTo_score hcap (fun p hp => (he.catalog.bases p hp).1) hgrows.catalog code

theorem evaluation_growsTo (hs : s.Sound) (he : e.Bounded s) (hsees : e.SeesLike f)
    (hgrows : e.GrowsTo f) (hnames : (e.catalog.patterns.map (·.name)).Nodup)
    (hv : e.evaluate stamp code context = .ok v) (hw : f.evaluate stamp' code context = .ok w) :
    v.GrowsTo w := by
  have hall := allGrowTo_matched hs he hsees hgrows hv hw
  have hnodup := nodup_matched hnames hv
  have hnodup' := hall.perm_names.nodup_iff.mp hnodup
  exact ⟨hnodup, hall.perm_finding,
    fun _ ha _ hb hab => (hall.growsTo_of_pattern_eq hnodup' ha hb hab).confidence,
    (hsees.evaluate hv hw).proposed⟩

theorem le_of_matched_eq_cons (hs : s.Sound) (he : e.Bounded s)
    (hv : e.evaluate stamp code context = .ok v) {top : Match} {rest : List Match}
    (htop : v.matched = top :: rest) : ∀ x ∈ v.matched, x.confidence ≤ top.confidence := by
  have hwithin := (he.evaluate hs hv).matched
  obtain ⟨hmatched, -, -⟩ := evaluate_eq_ok hv
  rw [hmatched] at htop hwithin ⊢
  exact Matcher.le_of_score_eq_cons (fun x hx => isNumber_right (hwithin x hx).1) htop

theorem callConfidence_le_of_growsTo (hs : s.Sound) (he : e.Bounded s) (hf : f.Bounded s)
    (hsees : e.SeesLike f) (hgrows : e.GrowsTo f) (ht : IsNumber e.detector.triggerConfidence)
    (hd : ∀ h ∈ e.detector.heuristics, IsNumber h.strength) (hfloor : IsNumber s.confidenceFloor)
    (hv : e.evaluate stamp code context = .ok v) (hw : f.evaluate stamp' code context = .ok w) :
    callConfidence v.matched v.proposed s.confidenceFloor ≤
      callConfidence w.matched w.proposed s.confidenceFloor := by
  obtain ⟨-, -, hproposed⟩ := evaluate_eq_ok hv
  have hnumbers : ∀ p ∈ v.proposed, IsNumber p.confidence := fun p hp =>
    Detector.isNumber_of_mem_detect ht hd (hproposed ▸ hp)
  rw [← (hsees.evaluate hv hw).proposed]
  exact callConfidence_le hs.patternCap.2 (he.evaluate hs hv).matched (hf.evaluate hs hw).matched
    (allGrowTo_matched hs he hsees hgrows hv hw)
    (fun _ _ htop => le_of_matched_eq_cons hs hf hw htop) hnumbers hfloor

theorem confidence_analyze_of_ok (h : e.evaluate stamp code context = .ok v) :
    (e.analyze stamp code context).answer.isSuccess = true ∧
      (e.analyze stamp code context).answer.confidence =
        callConfidence v.matched v.proposed e.settings.confidenceFloor := by
  rw [analyze, h]
  exact ⟨rfl, rfl⟩

end Engine

/-! ## Runs -/

namespace Course

theorem kept_seesLike (e : Engine) : Kept e.SeesLike fun _ => True where
  evaluate := fun _ _ _ _ _ _ _ => trivial
  commit := fun k hk _ => hk.trans (k.before.commit_seesLike k.now k.evaluation).symm

theorem seesLike_run (e : Engine) (moves : List Move) : e.SeesLike ((start e).run moves).engine :=
  have hself : e.SeesLike e := ⟨rfl, rfl, rfl, rfl⟩
  ((holds_start hself).run (kept_seesLike e) moves).engine

theorem seesLike_run_run (e : Engine) (moves more : List Move) :
    ((start e).run moves).engine.SeesLike (((start e).run moves).run more).engine := by
  have hall := seesLike_run e (moves ++ more)
  rw [run, List.foldl_append] at hall
  exact (seesLike_run e moves).symm.trans hall

theorem growsTo_run {s : EngineSettings} (hs : s.Sound) {c : Course}
    (h : Holds (Engine.Bounded s) (Evaluation.Bounded s) c) (moves : List Move) :
    c.engine.GrowsTo (c.run moves).engine :=
  h.related (kept_bounded hs)
    (fun _ he => ⟨he.catalog.growsTo_self, he.watchlist.growsTo_self⟩)
    (fun _ _ _ h h' => ⟨h.catalog.trans h'.catalog, h.watchlist.trans h'.watchlist⟩)
    (fun _ hk hv => (hk.commit hs hv).2) moves

theorem nodup_names_run {s : EngineSettings} {c : Catalog} (hc : c.Constructible) (d : Detector)
    (moves : List Move) :
    (((start (Engine.assemble s c d)).run moves).engine.catalog.patterns.map (·.name)).Nodup := by
  rw [Catalog.names_eq, ← (seesLike_run (Engine.assemble s c d) moves).outlines]
  show ((c.withCap s.patternCap).outlines.map (·.1)).Nodup
  rw [Catalog.outlines_withCap, ← Catalog.names_eq]
  exact hc.nodup_names

/-- Learning never changes what is recognised.  Under an accepted manifest, a code that is evaluated
now and again after more was committed gets the same matches with the same indicators and the same
proposals.  Each match keeps its confidence or gains some, and so does the analysis. -/
theorem learning_keeps_recognition (m : Manifest) (c : Catalog) (d : Detector)
    (moves more : List Move) (code : String) (stamp stamp' : Stamp) (context : Context)
    (hm : m.isValid = true) (hc : c.Constructible)
    (hd : ∀ h ∈ d.heuristics, IsNumber h.strength)
    (hcode : Fragment.Accepts m.spec.engine.minFragmentLength code) :
    let run := (start (Engine.assemble m.spec.engine c d)).run moves
    let later := run.run more
    ∃ v w, run.engine.evaluate stamp code context = .ok v ∧
      later.engine.evaluate stamp' code context = .ok w ∧ v.GrowsTo w ∧
      (run.engine.analyze stamp code context).answer.isSuccess = true ∧
      (later.engine.analyze stamp' code context).answer.isSuccess = true ∧
      (run.engine.analyze stamp code context).answer.confidence ≤
        (later.engine.analyze stamp' code context).answer.confidence := by
  intro run later
  let s := m.spec.engine
  have hs : s.Sound := Manifest.sound_of_isValid hm
  -- every confidence keeps to its bounds, and the later engine has learned more
  have hrun : Holds (Engine.Bounded s) (Evaluation.Bounded s) run :=
    (holds_start (Engine.bounded_assemble hs hc d)).run (kept_bounded hs) moves
  have hlater : later.engine.Bounded s := (hrun.run (kept_bounded hs) more).engine
  have hgrows : run.engine.GrowsTo later.engine := growsTo_run hs hrun more
  -- all else that evaluating reads is as it was at the start
  have hstart : (Engine.assemble s c d).SeesLike run.engine := seesLike_run _ moves
  have hsees : run.engine.SeesLike later.engine := seesLike_run_run _ moves more
  have hnumber {name : String} {x : Float} (hx : (name, x) ∈ m.unitFields) : IsNumber x :=
    isNumber_right (Manifest.within_unit_of_isValid hm hx).1
  have hfloor : ("confidence_floor", s.confidenceFloor) ∈ m.unitFields := by
    simp [Manifest.unitFields, s]
  have htrigger : ("trigger_confidence", s.triggerConfidence) ∈ m.unitFields := by
    simp [Manifest.unitFields, s]
  have hdetector : IsNumber run.engine.detector.triggerConfidence := by
    rw [← hstart.detector]
    exact Confidence.isNumber_clamp_iff.mpr (hnumber htrigger)
  obtain ⟨v, hv⟩ := (run.engine.exists_evaluate_iff stamp code context).mpr
    (hrun.engine.settings.symm ▸ hcode)
  obtain ⟨w, hw⟩ := (later.engine.exists_evaluate_iff stamp' code context).mpr
    (hlater.settings.symm ▸ hcode)
  have hgrowsTo : v.GrowsTo w :=
    Engine.evaluation_growsTo hs hrun.engine hsees hgrows (nodup_names_run hc d moves) hv hw
  have hconfidence := Engine.callConfidence_le_of_growsTo hs hrun.engine hlater hsees hgrows
    hdetector (hstart.detector ▸ hd) (hnumber hfloor) hv hw
  obtain ⟨hsuccess, hnow⟩ := Engine.confidence_analyze_of_ok hv
  obtain ⟨hsuccess', hthen⟩ := Engine.confidence_analyze_of_ok hw
  refine ⟨v, w, hv, hw, hgrowsTo, hsuccess, hsuccess', ?_⟩
  rw [hnow, hthen, hrun.engine.settings, hlater.settings]
  exact hconfidence

/-- The standard manifest, the seeded catalog and the built-in heuristics, with one analysis behind
and one ahead. -/
theorem learning_keeps_recognition_standard :
    let code := "const q = new QueryBuilder().build();"
    let builder : Submission := ⟨default, code, default⟩
    let run := (start (Engine.make EngineSettings.standard)).run [.analyze builder]
    Manifest.standard.isValid = true ∧ Catalog.seeded.Constructible ∧
      (∀ h ∈ Detector.builtIn.heuristics, IsNumber h.strength) ∧
      Fragment.Accepts Manifest.standard.spec.engine.minFragmentLength code ∧
      (run.engine.analyze default code default).answer.confidence ≤
        ((run.run [.analyze builder]).engine.analyze default code default).answer.confidence := by
  intro code builder run
  have hvalid : Manifest.standard.isValid = true := by decide
  have hstrengths : ∀ h ∈ Detector.builtIn.heuristics, IsNumber h.strength := by decide
  have haccepts : Fragment.Accepts Manifest.standard.spec.engine.minFragmentLength code := by
    show Fragment.measure code ≠ 0 ∧ 10 ≤ Fragment.measure code
    decide +kernel
  obtain ⟨-, -, -, -, -, -, -, hconfidence⟩ := learning_keeps_recognition Manifest.standard
    Catalog.seeded Detector.builtIn [.analyze builder] [.analyze builder] code default default
    default hvalid Catalog.constructible_seeded hstrengths haccepts
  exact ⟨hvalid, Catalog.constructible_seeded, hstrengths, haccepts, hconfidence⟩

end Course
end Motif
