import Motif.Proofs.Isolation

/-!
Identifiers and times are labels of all that is shown.  With them erased, an analysis behind the
queue, an integrated analysis and the summaries of both come to the same whichever labels were given
out, so files can be skipped or repeated without a trace in what others show.
-/

namespace Motif

/-! ## Erasing what is shown -/

def Summary.unstamped (s : Summary) : Summary :=
  { s with topCandidates := s.topCandidates.map Candidate.unstamped }

def IntegratedResult.unstamped (x : IntegratedResult) : IntegratedResult :=
  { x with id := default, time := default, discovery := x.discovery.unstamped }

def IntegratedSummary.unstamped (s : IntegratedSummary) : IntegratedSummary :=
  { s with discovery := s.discovery.unstamped }

def Integration.unstamped (i : Integration) : Integration :=
  { i with history := i.history.map IntegratedResult.unstamped }

/-! ## What the engine knows -/

/-- Candidates are ranked by sightings, confidence and name. -/
theorem Watchlist.ranked_unstamped (w : Watchlist) :
    w.unstamped.ranked = w.ranked.map Candidate.unstamped := by
  let le (a b : Candidate) : Bool := Candidate.rank a b != .gt
  have hle : ∀ a ∈ w.candidates, ∀ b ∈ w.candidates, le a b = le a.unstamped b.unstamped :=
    fun _ _ _ _ => rfl
  exact (List.map_mergeSort hle).symm

theorem Engine.summary_unstamped (e : Engine) : e.unstamped.summary = e.summary.unstamped := by
  have hsize : e.unstamped.watchlist.size = e.watchlist.size := List.length_map _
  have htop : e.unstamped.watchlist.top topCandidates =
      (e.watchlist.top topCandidates).map Candidate.unstamped := by
    rw [Watchlist.top, Watchlist.top, List.map_take, ← Watchlist.ranked_unstamped]
    rfl
  rw [summary, summary, hsize, htop]
  rfl

namespace Service

variable {s : Service}

theorem analyze_unstamped (h : s.queue = []) (stamp : Stamp) (code : String) (context : Context) :
    s.unstamped.analyze default code context =
      ((s.analyze stamp code context).1.unstamped, (s.analyze stamp code context).2.1.unstamped,
        (s.analyze stamp code context).2.2.map EngineEvent.unstamped) := by
  have hopen : s.unstamped.isOpen = s.isOpen := rfl
  have herased : s.unstamped.engine.analyze default code context = _ :=
    s.engine.analyze_unstamped stamp code context
  rw [analyze_of_empty h, analyze_of_empty (s := s.unstamped) h, hopen, herased]
  split <;> rfl

/-- Services that differ in labels come to the same. -/
theorem analyze_congr {t : Service} (hs : s.queue = []) (ht : t.queue = [])
    (h : s.unstamped = t.unstamped) (stamp stamp' : Stamp) (code : String) (context : Context) :
    (s.analyze stamp code context).1.unstamped = (t.analyze stamp' code context).1.unstamped ∧
      (s.analyze stamp code context).2.1.unstamped =
        (t.analyze stamp' code context).2.1.unstamped := by
  have hsame := analyze_unstamped hs stamp code context
  rw [h, analyze_unstamped ht stamp' code context] at hsame
  exact ⟨(congrArg (·.1) hsame).symm, (congrArg (·.2.1) hsame).symm⟩

theorem queue_analyze (h : s.queue = []) (stamp : Stamp) (code : String) (context : Context) :
    (s.analyze stamp code context).1.queue = [] := by
  rw [analyze_of_empty h]
  split <;> exact h

theorem summary?_of_empty (h : s.queue = []) :
    s.summary? = if s.isOpen then some s.engine.summary else none := by
  rw [summary?, ask_of_empty h]
  cases s.isOpen <;> rfl

theorem emerging?_of_empty (h : s.queue = []) :
    s.emerging? = if s.isOpen then some s.engine.emerging else none := by
  rw [emerging?, ask_of_empty h]
  cases s.isOpen <;> rfl

/-- A summary that is not to be had shows as one of nothing. -/
theorem summary?_unstamped (h : s.queue = []) :
    s.unstamped.summary?.getD .none = (s.summary?.getD .none).unstamped := by
  have hopen : s.unstamped.isOpen = s.isOpen := rfl
  have hsummary : s.unstamped.engine.summary = _ := s.engine.summary_unstamped
  rw [summary?_of_empty h, summary?_of_empty (s := s.unstamped) h, hopen, hsummary]
  split <;> rfl

theorem emerging?_unstamped (h : s.queue = []) : s.unstamped.emerging? = s.emerging? := by
  have hopen : s.unstamped.isOpen = s.isOpen := rfl
  have hemerging : s.unstamped.engine.emerging = s.engine.emerging :=
    s.engine.history.emerging_unstamped
  rw [emerging?_of_empty h, emerging?_of_empty (s := s.unstamped) h, hopen, hemerging]

end Service

/-! ## Integrated analyses -/

/-- A layer's report and status, with its events left out. -/
def Settled.silent {α : Type} (s : Settled α) : Settled α := { s with events := [] }

theorem Settled.silent_ofOutcome {α : Type} (stamp stamp' : Stamp) (fallback : α)
    (found : Except LayerError α) :
    (ofOutcome stamp fallback found).silent = (ofOutcome stamp' fallback found).silent := by
  cases found <;> rfl

def Reports.silent (r : Reports) : Reports :=
  ⟨r.purpose.silent, r.anomalies.silent, r.intuition.silent, r.prediction.silent, r.review.silent⟩

namespace Integration

theorem conclude_silent (threshold : Float) (analysis : Stamp) (discovery : Verdict × LayerStatus)
    (r : Reports) :
    conclude threshold analysis discovery r.silent = conclude threshold analysis discovery r := rfl

/-- The label of an analysis shows in the events of its layers, not in their reports. -/
theorem silent_settle (b : Bounds) (calls : Calls) (stamp stamp' : Stamp) :
    (settle b calls stamp).silent = (settle b calls stamp').silent := by
  simp only [settle, Reports.ofOutcomes, Reports.silent, Settled.silent_ofOutcome stamp stamp']

/-- Correlations, recommendations and the confidence come from what was found. -/
theorem conclude_unstamped (threshold : Float) (analysis : Stamp)
    (discovery : Verdict × LayerStatus) (r : Reports) :
    conclude threshold default (discovery.1.unstamped, discovery.2) r =
      (conclude threshold analysis discovery r).unstamped := by
  obtain ⟨v, status⟩ := discovery
  cases v <;> rfl

theorem record_unstamped (i : Integration) (x : IntegratedResult) :
    i.unstamped.record x.unstamped = (i.record x).unstamped := by
  have hhistory : Sequence.latest (max i.settings.historyLimit 1)
        (i.history.map IntegratedResult.unstamped ++ [x.unstamped]) =
      (Sequence.latest (max i.settings.historyLimit 1) (i.history ++ [x])).map
        IntegratedResult.unstamped := by
    rw [← Sequence.latest_map, List.map_append]
    rfl
  show Integration.mk i.settings (Sequence.latest (max i.settings.historyLimit 1)
    (i.history.map _ ++ [x.unstamped])) _ _ _ = _
  rw [hhistory]
  rfl

/-- Metrics and health are computed from confidences and statuses. -/
theorem summary_unstamped (i : Integration) {s : Service} (h : s.queue = []) :
    i.unstamped.summary s.unstamped = (i.summary s).unstamped := by
  have hrecent : i.unstamped.recent = i.recent.map IntegratedResult.unstamped :=
    Sequence.latest_map _ _ _
  have hmetrics : i.unstamped.metrics = i.metrics := by
    have hall : i.unstamped.history.map (·.confidence) = i.history.map (·.confidence) := by
      rw [unstamped, List.map_map]
      rfl
    have hlatest : i.unstamped.recent.map (·.confidence) = i.recent.map (·.confidence) := by
      rw [hrecent, List.map_map]
      rfl
    rw [metrics, metrics, hall, hlatest]
    rfl
  have hhealth : health i.unstamped.recent = health i.recent := by
    rw [hrecent, health, health, List.foldl_map, List.isEmpty_map, List.length_map,
      List.filter_map, List.length_map]
    rfl
  rw [summary, summary, hmetrics, hhealth, Service.summary?_unstamped h]
  rfl

end Integration

namespace Round

variable {s : Service}

/-- What a round comes to does not depend on the labels, but for its own labels. -/
theorem conduct_unstamped (h : s.queue = []) (r : Round) (i : Integration) :
    let step := r.conduct i s
    let erased := r.unstamped.conduct i.unstamped s.unstamped
    erased.result = step.result.unstamped ∧ erased.integration = step.integration.unstamped ∧
      erased.service = step.service.unstamped := by
  intro step erased
  have hdiscover : r.unstamped.discover i.bounds s.unstamped = _ := r.discover_unstamped h i.bounds
  have hresult : erased.result = step.result.unstamped := by
    show Integration.conclude _ default ((r.unstamped.discover i.bounds s.unstamped).verdict,
      (r.unstamped.discover i.bounds s.unstamped).status)
      (Integration.settle i.bounds r.calls default) = _
    rw [hdiscover, ← Integration.conclude_silent,
      Integration.silent_settle i.bounds r.calls default r.analysis, Integration.conclude_silent]
    exact Integration.conclude_unstamped _ r.analysis _ _
  refine ⟨hresult, ?_, ?_⟩
  · show i.unstamped.record erased.result = (i.record step.result).unstamped
    rw [hresult, Integration.record_unstamped]
  · exact congrArg (·.service) hdiscover

theorem queue_conduct (h : s.queue = []) (r : Round) (i : Integration) :
    (r.conduct i s).service.queue = [] :=
  r.queue_discover h i.bounds

end Round
end Motif
