import Motif.Correlation

/-!
Results of integrated analyses.  Six layers work on the same code: discovery and five analyzers.  A
layer that gives no answer is replaced by its fallback, and its status says why.
-/

namespace Motif

inductive LayerStatus where
  | ok
  | fallback (reason : String)
deriving DecidableEq, Inhabited

def LayerStatus.isOk : LayerStatus → Bool
  | ok => true
  | fallback _ => false

structure LayerStatuses where
  discovery : LayerStatus
  purpose : LayerStatus
  anomaly : LayerStatus
  intuition : LayerStatus
  prediction : LayerStatus
  review : LayerStatus
deriving DecidableEq, Inhabited

namespace LayerStatuses

/-- All layers but discovery. -/
def analyzers (l : LayerStatuses) : List LayerStatus :=
  [l.purpose, l.anomaly, l.intuition, l.prediction, l.review]

def fallbacks (l : LayerStatuses) : Nat := (l.analyzers.filter (!·.isOk)).length

end LayerStatuses

structure Quality where
  anomalies : AnomalyReport
  intuition : Float
deriving BEq, Inhabited

structure IntegratedResult where
  id : Uuid
  time : Timestamp
  discovery : Verdict
  purpose : PurposeReport
  quality : Quality
  prediction : Prediction
  review : Review
  layers : LayerStatuses
  correlations : List Correlation
  recommendations : List String
  confidence : Float
deriving BEq, Inhabited

/-! ## Summaries -/

structure IntegrationMetrics where
  totalAnalyses : Nat
  averageConfidence : Float
  trend : Trend
  correlationsFound : Nat
  totalFallbacks : Nat
deriving BEq, Inhabited

inductive HealthStatus where
  | idle
  | healthy
  | degraded
deriving DecidableEq, Inhabited

structure SystemHealth where
  status : HealthStatus
  /-- Fallbacks among the latest results. -/
  fallbacks : Nat
  reliability : Float
deriving BEq, Inhabited

structure IntegratedSummary where
  discovery : Summary
  metrics : IntegrationMetrics
  health : SystemHealth
deriving BEq, Inhabited

end Motif
