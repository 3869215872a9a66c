import Motif.Engine
import Motif.Proofs.Findings

/-!
Identifiers and times are labels.  Nothing that the engine does looks at them: with all of them
erased beforehand, a request leaves the engine, answers and publishes what it would have, with all
of them erased afterwards.
-/

namespace Motif

/-! ## Erasing identifiers and times -/

def Fragment.unstamped (f : Fragment) : Fragment := { f with id := default, time := default }

def Evaluation.unstamped (v : Evaluation) : Evaluation :=
  { v with fragment := v.fragment.unstamped }

def Candidate.unstamped (c : Candidate) : Candidate :=
  { c with
    firstSeen := default, lastSeen := default, fragments := c.fragments.map fun _ => default }

def Watchlist.unstamped (w : Watchlist) : Watchlist :=
  { w with candidates := w.candidates.map Candidate.unstamped }

def Watchlist.Sighting.unstamped : Watchlist.Sighting → Watchlist.Sighting
  | .discovered c => .discovered c.unstamped
  | .repeated c => .repeated c.unstamped

def Record.unstamped (r : Record) : Record := { r with time := default, fragment := default }

def History.unstamped (h : History) : History :=
  { h with
    fragments := h.fragments.map Fragment.unstamped, records := h.records.map Record.unstamped }

def Outcome.unstamped (o : Outcome) : Outcome := { o with fragment := o.fragment.unstamped }

def Verdict.unstamped : Verdict → Verdict
  | .success o => .success o.unstamped
  | .failure error reason => .failure error reason

def EngineEvent.unstamped : EngineEvent → EngineEvent
  | .patternReinforced name _ before after _ =>
    .patternReinforced name default before after default
  | .candidateDiscovered name _ confidence _ => .candidateDiscovered name default confidence default
  | .candidateObserved name _ occurrences confidence _ =>
    .candidateObserved name default occurrences confidence default
  | .analysisRecorded _ matched proposed confidence _ =>
    .analysisRecorded default matched proposed confidence default
  | .historyTrimmed removed retained _ => .historyTrimmed removed retained default
  | .fragmentRejected reason _ => .fragmentRejected reason default

def Engine.unstamped (e : Engine) : Engine :=
  { e with watchlist := e.watchlist.unstamped, history := e.history.unstamped }

/-! ## Evaluating -/

section

variable (stamp : Stamp) (code : String) (context : Context)

theorem Fragment.make_unstamped (least : Nat) :
    make default code context least = (make stamp code context least).map unstamped := by
  simp only [make]
  split
  · rfl
  · split <;> rfl

theorem Fragment.reinforceTimes_unstamped (f : Fragment) (delta : Float) (count : Nat) :
    f.unstamped.reinforceTimes delta count = (f.reinforceTimes delta count).unstamped := by
  induction count generalizing f with
  | zero => rfl
  | succ count ih => exact ih (f.reinforce delta)

/-- Heuristics read the code and its features, which have no labels. -/
theorem Detector.detect_unstamped (d : Detector) (f : Fragment) (ms : List Match) :
    d.detect f.unstamped ms = d.detect f ms := rfl

theorem Engine.evaluate_unstamped (e : Engine) :
    e.unstamped.evaluate default code context =
      (e.evaluate stamp code context).map Evaluation.unstamped := by
  have hleast : e.unstamped.settings = e.settings := rfl
  rw [evaluate, evaluate, hleast, Fragment.make_unstamped stamp]
  cases Fragment.make stamp code context e.settings.minFragmentLength with
  | error why => rfl
  | ok f =>
    let found := e.matcher.score e.catalog f.code
    let delta := e.matcher.reinforcement
    have hreinforced : f.unstamped.reinforceTimes delta found.length =
        (f.reinforceTimes delta found.length).unstamped :=
      f.reinforceTimes_unstamped delta found.length
    show Except.ok (Evaluation.mk (f.unstamped.reinforceTimes delta found.length) found
      (e.detector.detect (f.unstamped.reinforceTimes delta found.length) found)) = _
    rw [hreinforced, Detector.detect_unstamped]
    rfl

end

/-! ## Learning -/

section

variable (fragment : Uuid) (now : Timestamp)

theorem Catalog.learn_unstamped (delta : Float) (c : Catalog) (ms : List Match) :
    c.learn delta default default ms =
      ((c.learn delta fragment now ms).1,
        (c.learn delta fragment now ms).2.map EngineEvent.unstamped) := by
  induction ms generalizing c with
  | nil => rfl
  | cons m rest ih =>
    simp only [learn]
    cases c.reinforce m.pattern delta with
    | mk d r =>
      cases r with
      | none => exact ih d
      | some r =>
        simp only [ih d]
        rfl

theorem Watchlist.get?_unstamped (w : Watchlist) (name : String) :
    w.unstamped.get? name = (w.get? name).map Candidate.unstamped := by
  rw [get?, get?, unstamped, List.find?_map]
  rfl

theorem Candidate.observe_unstamped (c : Candidate) (nudge cap : Float) :
    c.unstamped.observe default default nudge cap =
      (c.observe fragment now nudge cap).unstamped := by
  have hlatest : Sequence.latest memory (c.fragments.map (fun _ => (default : Uuid)) ++ [default]) =
      (Sequence.latest memory (c.fragments ++ [fragment])).map fun _ => default := by
    rw [← Sequence.latest_map, List.map_append]
    rfl
  show Candidate.mk _ _ _ _ _ _ (Sequence.latest memory (c.fragments.map _ ++ [default])) = _
  rw [hlatest]
  rfl

theorem Watchlist.observe_unstamped (w : Watchlist) (name description : String)
    (confidence : Float) :
    w.unstamped.observe name description confidence default default =
      ((w.observe name description confidence fragment now).1.unstamped,
        (w.observe name description confidence fragment now).2.unstamped) := by
  have hget := w.get?_unstamped name
  cases hw : w.get? name with
  | none =>
    rw [hw] at hget
    rw [observe_of_none hw, observe_of_none hget]
    simp only [unstamped, List.map_append]
    rfl
  | some c =>
    rw [hw] at hget
    rw [observe_of_some hw, observe_of_some hget, c.observe_unstamped fragment now]
    refine Prod.ext ?_ rfl
    refine congrArg (fun cs => Watchlist.mk cs w.cap w.nudge) ?_
    refine Sequence.changeFirst_map (fun _ => rfl) fun d _ => ?_
    exact d.observe_unstamped fragment now w.nudge w.cap

theorem Watchlist.Sighting.event_unstamped (s : Sighting) :
    s.unstamped.event default default = (s.event fragment now).unstamped := by
  cases s <;> rfl

theorem Watchlist.learn_unstamped (w : Watchlist) (ps : List Proposal) :
    w.unstamped.learn default default ps =
      ((w.learn fragment now ps).1.unstamped,
        (w.learn fragment now ps).2.map EngineEvent.unstamped) := by
  induction ps generalizing w with
  | nil => rfl
  | cons p rest ih =>
    simp only [learn]
    rw [w.observe_unstamped fragment now]
    simp only [ih, List.map_cons]
    rw [Sighting.event_unstamped fragment now]

end

/-! ## The history -/

namespace History

theorem add_unstamped (h : History) (f : Fragment) (r : Record) :
    h.unstamped.add f.unstamped r.unstamped =
      ((h.add f r).1.unstamped, (h.add f r).2) := by
  have hfragments : h.unstamped.fragments ++ [f.unstamped] =
      (h.fragments ++ [f]).map Fragment.unstamped := by
    rw [List.map_append]
    rfl
  have hrecords : h.unstamped.records ++ [r.unstamped] =
      (h.records ++ [r]).map Record.unstamped := by
    rw [List.map_append]
    rfl
  rw [add, add]
  simp only [hfragments, hrecords, List.length_map]
  show (History.mk (Sequence.latest h.window _) (Sequence.latest h.window _) _ _, _) = _
  rw [Sequence.latest_map, Sequence.latest_map]
  rfl

theorem emerging_unstamped (h : History) : h.unstamped.emerging = h.emerging := by
  rw [emerging, emerging, unstamped, List.flatMap_map]
  rfl

/-- Statistics are computed from names and confidences. -/
theorem insights_unstamped (h : History) : h.unstamped.insights = h.insights := by
  have hconfidences : h.unstamped.records.map (·.confidence) = h.records.map (·.confidence) := by
    rw [unstamped, List.map_map]
    rfl
  have hproductive : (h.unstamped.records.filter (·.isProductive)).length =
      (h.records.filter (·.isProductive)).length := by
    rw [unstamped, List.filter_map, List.length_map]
    rfl
  have hlength : h.unstamped.records.length = h.records.length := List.length_map _
  have hempty : h.unstamped.records.isEmpty = h.records.isEmpty := by
    rw [unstamped, List.isEmpty_map]
  have hfragments : h.unstamped.fragments.length = h.fragments.length := List.length_map _
  rw [insights, insights, emerging_unstamped, hconfidences, hproductive, hlength, hempty,
    hfragments]
  rfl

end History

/-! ## Committing -/

namespace Engine

theorem trimming_unstamped (removed retained : Nat) (now : Timestamp) :
    trimming removed retained default =
      (trimming removed retained now).map EngineEvent.unstamped := by
  rw [trimming, trimming]
  split <;> rfl

theorem commit_unstamped (e : Engine) (now : Timestamp) (v : Evaluation) :
    e.unstamped.commit default v.unstamped =
      ⟨(e.commit now v).engine.unstamped, (e.commit now v).answer.unstamped,
        (e.commit now v).events.map EngineEvent.unstamped⟩ := by
  let distinct := Proposal.distinct v.proposed
  let record := Record.make v.fragment.id now (v.matched.map (·.pattern)) (distinct.map (·.name))
    (callConfidence v.matched v.proposed e.settings.confidenceFloor)
  -- each store learns from the erased evaluation what it learns from the evaluation
  have hcatalog : e.unstamped.catalog.learn e.unstamped.settings.patternReinforcement
      v.unstamped.fragment.id default v.unstamped.matched = _ :=
    e.catalog.learn_unstamped v.fragment.id now e.settings.patternReinforcement v.matched
  have hwatchlist : e.unstamped.watchlist.learn v.unstamped.fragment.id default
      (Proposal.distinct v.unstamped.proposed) = _ :=
    e.watchlist.learn_unstamped v.fragment.id now distinct
  have hhistory : e.unstamped.history.add v.unstamped.fragment record.unstamped = _ :=
    e.history.add_unstamped v.fragment record
  have hsize : (e.history.add v.fragment record).1.unstamped.size =
      (e.history.add v.fragment record).1.size := List.length_map _
  have hrecord : Record.make v.unstamped.fragment.id default
      (v.unstamped.matched.map (·.pattern)) ((Proposal.distinct v.unstamped.proposed).map (·.name))
      (callConfidence v.unstamped.matched v.unstamped.proposed
        e.unstamped.settings.confidenceFloor) = record.unstamped := rfl
  simp only [commit, List.map_append, List.map_cons]
  rw [hrecord, hcatalog, hwatchlist, hhistory]
  simp only [History.insights_unstamped, hsize, trimming_unstamped _ _ now]
  rfl

theorem analyze_unstamped (e : Engine) (stamp : Stamp) (code : String) (context : Context) :
    e.unstamped.analyze default code context =
      ⟨(e.analyze stamp code context).engine.unstamped,
        (e.analyze stamp code context).answer.unstamped,
        (e.analyze stamp code context).events.map EngineEvent.unstamped⟩ := by
  have herased := e.evaluate_unstamped stamp code context
  cases hv : e.evaluate stamp code context with
  | error why =>
    rw [hv] at herased
    have herror : e.unstamped.evaluate default code context = .error why := herased
    simp only [analyze, hv, herror]
    rfl
  | ok v =>
    rw [hv] at herased
    have hok : e.unstamped.evaluate default code context = .ok v.unstamped := herased
    have hcommit : e.unstamped.commit (default : Stamp).time v.unstamped = _ :=
      e.commit_unstamped stamp.time v
    simp only [analyze, hv, hok, hcommit]
    rfl

end Engine
end Motif
