import Motif.Event
import Motif.Integration.Basic
import Motif.Integration.Calls
import Motif.Service

/-!
Integrated analyses.  Discovery evaluates the code while the five analyzers look at it, each call
bounded by the time limit and by the caller.  Once all of them are over, the evaluation is
committed, unless the caller gave up; every layer without an answer gets its fallback; and the
result is added to a bounded history.
-/

namespace Motif

/-- What can stand between the integration and the engine. -/
inductive Barrier where
  | unreachable
  | panicking (payload : Option String)
deriving DecidableEq, Inhabited

/-- The way to the engine: how long a request takes to get there, and what stops it. -/
structure Gate where
  delay : Nat
  barrier : Option Barrier
deriving DecidableEq, Inhabited

/-- Requests reach the engine at once. -/
def Gate.clear : Gate := ⟨0, none⟩

/-- The circumstances of one integrated analysis. -/
structure Circumstances where
  /-- When the caller gives up. -/
  cancel : Option Nat
  evaluation : Gate
  commit : Gate
deriving DecidableEq, Inhabited

def Circumstances.calm : Circumstances := ⟨none, Gate.clear, Gate.clear⟩

structure Integration where
  settings : IntegrationSettings
  /-- The latest results, the oldest first. -/
  history : List IntegratedResult
  totalAnalyses : Nat
  correlationsFound : Nat
  totalFallbacks : Nat
deriving Inhabited

/-- A layer's report, its status, and the events that tell of a fallback. -/
structure Settled (α : Type) where
  report : α
  status : LayerStatus
  events : List IntegrationEvent

namespace Settled

def ok {α : Type} (a : α) : Settled α := ⟨a, .ok, []⟩

/-- Takes the answer of a layer, or its fallback. -/
def ofOutcome {α : Type} (analysis : Stamp) (fallback : α) : Except LayerError α → Settled α
  | .ok a => ok a
  | .error e =>
    ⟨fallback, .fallback e.message,
      [.fellBack analysis.id e.layer e.message analysis.time]⟩

end Settled

/-- What came of all layers but discovery. -/
structure Reports where
  purpose : Settled PurposeReport
  anomalies : Settled AnomalyReport
  intuition : Settled Float
  prediction : Settled Prediction
  review : Settled Review

namespace Reports

/-- The answers of the layers, or their fallbacks. -/
def ofOutcomes (analysis : Stamp) (purpose : Except LayerError PurposeReport)
    (anomalies : Except LayerError AnomalyReport) (intuition : Except LayerError Float)
    (prediction : Except LayerError Prediction) (review : Except LayerError Review) : Reports :=
  { purpose := .ofOutcome analysis PurposeReport.fallback purpose
    anomalies := .ofOutcome analysis AnomalyReport.fallback anomalies
    intuition := .ofOutcome analysis fallbackIntuition intuition
    prediction := .ofOutcome analysis Prediction.fallback prediction
    review := .ofOutcome analysis Review.fallback review }

def events (r : Reports) : List IntegrationEvent :=
  r.purpose.events ++ r.anomalies.events ++ r.intuition.events ++ r.prediction.events ++
    r.review.events

def layers (r : Reports) (discovery : LayerStatus) : LayerStatuses :=
  { discovery, purpose := r.purpose.status, anomaly := r.anomalies.status
    intuition := r.intuition.status, prediction := r.prediction.status
    review := r.review.status }

/-- The confidences of the layers that answered.  The intuition score is none. -/
def confidences (r : Reports) (v : Verdict) : List Float :=
  let answered (status : LayerStatus) (x : Float) : List Float := if status.isOk then [x] else []
  (if v.isSuccess then [v.confidence] else []) ++
    answered r.purpose.status r.purpose.report.confidence ++
    answered r.anomalies.status r.anomalies.report.confidence ++
    answered r.prediction.status r.prediction.report.confidence ++
    answered r.review.status r.review.report.confidence

end Reports

namespace Integration

def start (settings : IntegrationSettings) : Integration := ⟨settings, [], 0, 0, 0⟩

/-! ## The layers -/

/-- Has the code evaluated, if the request gets to the engine in time. -/
def evaluate (b : Bounds) (gate : Gate) (s : Service) (stamp : Stamp) (code : String)
    (context : Context) :
    Except LayerError (Except EngineError Evaluation) × List EngineEvent :=
  match b.outcome "discovery" ⟨gate.delay, .answered ()⟩, gate.barrier with
  | .error e, _ => (.error e, [])
  | .ok _, some .unreachable => (.ok (.error .unavailable), [])
  | .ok _, some (.panicking payload) => ((Ending.panicked payload).toExcept "discovery", [])
  | .ok _, none =>
    let (r, events) := s.evaluate stamp code context
    (.ok r, events)

/-- A verdict and a status for discovery that came to nothing. -/
def withoutDiscovery (v : Verdict) (reason : String) : Verdict × LayerStatus :=
  (v, .fallback reason)

/-- The evaluation to commit, unless there is none or the caller gave up. -/
def approve (isCancelled : Bool) :
    Except LayerError (Except EngineError Evaluation) → Except (Verdict × LayerStatus) Evaluation
  | .error e => .error (withoutDiscovery .unavailable e.message)
  | .ok (.error e) => .error (withoutDiscovery (.ofError e) e.message)
  | .ok (.ok v) =>
    if isCancelled then
      .error (withoutDiscovery .unavailable (LayerError.mk "discovery" .cancelled).message)
    else .ok v

/-- A verdict and a status for discovery whose evaluation was to be committed. -/
def committed : Option Outcome → Verdict × LayerStatus
  | some o => (.success o, .ok)
  | none => withoutDiscovery .unavailable EngineError.unavailable.message

/-- Commits the evaluation, if it is approved and the request gets to the engine. -/
def commit (isCancelled : Bool) (gate : Gate) (s : Service) (now : Timestamp)
    (found : Except LayerError (Except EngineError Evaluation)) :
    Service × (Verdict × LayerStatus) × List EngineEvent :=
  match approve isCancelled found with
  | .error discovery => (s, discovery, [])
  | .ok v =>
    if gate.barrier.isSome then (s, committed none, [])
    else
      let (s, outcome, events) := s.commit now v
      (s, committed outcome, events)

/-- What the analyzers come to. -/
def settle (b : Bounds) (calls : Calls) (analysis : Stamp) : Reports :=
  .ofOutcomes analysis (b.outcome "purpose" calls.purpose) (b.outcome "anomaly" calls.anomalies)
    (b.outcome "intuition" calls.intuition) (b.outcome "prediction" calls.prediction)
    (b.outcome "holistic" calls.review)

/-- When all calls of the given durations are over, if the caller waits for them. -/
def joined (b : Bounds) (durations : List Nat) : Nat :=
  durations.foldl (fun t duration => max t (b.endOf duration)) 0

/-! ## The result -/

def conclude (threshold : Float) (analysis : Stamp) (discovery : Verdict × LayerStatus)
    (r : Reports) : IntegratedResult :=
  { id := analysis.id, time := analysis.time
    discovery := discovery.1
    purpose := r.purpose.report
    quality := ⟨r.anomalies.report, r.intuition.report⟩
    prediction := r.prediction.report
    review := r.review.report
    layers := r.layers discovery.2
    correlations :=
      Correlation.correlate discovery.1 r.purpose.report r.anomalies.report r.prediction.report
    recommendations := Recommendation.synthesize discovery.1 r.review.report threshold
    confidence := Confidence.clamp 0.0 1.0 (Confidence.average (r.confidences discovery.1)) }

/-- A limit of zero counts as one. -/
def record (i : Integration) (r : IntegratedResult) : Integration :=
  { i with
    history := Sequence.latest (max i.settings.historyLimit 1) (i.history ++ [r])
    totalAnalyses := i.totalAnalyses + 1
    correlationsFound := i.correlationsFound + r.correlations.length
    totalFallbacks := i.totalFallbacks + r.layers.fallbacks }

def completion (r : IntegratedResult) : IntegrationEvent :=
  .completed r.id r.confidence r.correlations.length r.layers.fallbacks r.time

/-- What an integrated analysis comes to. -/
structure Step where
  integration : Integration
  service : Service
  result : IntegratedResult
  events : List Event

/-- Analyses the code, where `calls` are the calls of the analyzers on the same code. -/
def integrate (i : Integration) (s : Service) (calls : Calls) (circumstances : Circumstances)
    (fragment analysis : Stamp) (code : String) (context : Context) : Step :=
  let b : Bounds := ⟨i.settings.timeout, circumstances.cancel⟩
  let gate := circumstances.evaluation
  let (evaluation, evaluated) := evaluate b gate s fragment code context
  let isCancelled := b.isCancelledBy (joined b (gate.delay :: calls.durations))
  let (service, discovery, committed) :=
    commit isCancelled circumstances.commit s analysis.time evaluation
  let reports := settle b calls analysis
  let result := conclude i.settings.recommendationThreshold analysis discovery reports
  { integration := i.record result, service, result
    events := (evaluated ++ committed).map .engine ++
      (reports.events ++ [completion result]).map .integration }

/-! ## Summary -/

/-- The latest results that count for trend and health. -/
def recent (i : Integration) : List IntegratedResult :=
  Sequence.latest (max i.settings.trendWindow 1) i.history

def health (recent : List IntegratedResult) : SystemHealth :=
  let fallbacks := recent.foldl (fun n r => n + r.layers.fallbacks) 0
  let clean := recent.filter (·.layers.fallbacks == 0)
  if recent.isEmpty then ⟨.idle, 0, 0.0⟩
  else
    { status := if fallbacks = 0 then .healthy else .degraded, fallbacks
      reliability := Confidence.ratio clean.length recent.length }

def metrics (i : Integration) : IntegrationMetrics :=
  { totalAnalyses := i.totalAnalyses
    averageConfidence := Confidence.average (i.history.map (·.confidence))
    trend := Trend.classify (i.recent.map (·.confidence)) i.settings.trendEpsilon
    correlationsFound := i.correlationsFound
    totalFallbacks := i.totalFallbacks }

def summary (i : Integration) (s : Service) : IntegratedSummary :=
  { discovery := s.summary?.getD Summary.none, metrics := i.metrics, health := health i.recent }

end Integration
end Motif
