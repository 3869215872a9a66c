import Motif.Form.Analysis
import Motif.Form.Report
import Motif.Integration.Basic

/-!
The JSON forms of integrated results and of their summary.
-/

namespace Motif

open Document

namespace LayerStatus

def toJson : LayerStatus → Json
  | ok => .obj [("status", .str "ok")]
  | fallback reason => .obj [("status", .str "fallback"), ("reason", .str reason)]

def ofJson : Decoder Json LayerStatus :=
  tagged "status"
    [("ok", Fields.pure ok), ("fallback", (Fields.pure fallback).also (.required "reason" text))]

end LayerStatus

namespace LayerStatuses

def toJson (l : LayerStatuses) : Json :=
  .obj [("discovery", l.discovery.toJson), ("purpose", l.purpose.toJson),
    ("anomaly", l.anomaly.toJson), ("intuition", l.intuition.toJson),
    ("prediction", l.prediction.toJson), ("holistic", l.review.toJson)]

def fields : Fields Json LayerStatuses :=
  Fields.pure LayerStatuses.mk
    |>.also (.required "discovery" LayerStatus.ofJson)
    |>.also (.required "purpose" LayerStatus.ofJson)
    |>.also (.required "anomaly" LayerStatus.ofJson)
    |>.also (.required "intuition" LayerStatus.ofJson)
    |>.also (.required "prediction" LayerStatus.ofJson)
    |>.also (.required "holistic" LayerStatus.ofJson)

def ofJson : Decoder Json LayerStatuses := fields.read

end LayerStatuses

namespace Quality

def toJson (q : Quality) : Json :=
  .obj [("anomalies", q.anomalies.toJson), ("intuition_score", .float q.intuition)]

def fields : Fields Json Quality :=
  Fields.pure Quality.mk
    |>.also (.required "anomalies" AnomalyReport.ofJson)
    |>.also (.required "intuition_score" real)

def ofJson : Decoder Json Quality := fields.read

end Quality

namespace Correlation

def toJson (c : Correlation) : Json :=
  .obj <| ("type", .str c.kind) :: match c with
    | alignment purpose pattern sharedToken confidence =>
      [("purpose", .str purpose), ("pattern", .str pattern), ("shared_token", .str sharedToken),
        ("confidence", .float confidence)]
    | mismatch anomalies message confidence =>
      [("anomaly_count", .nat anomalies), ("message", .str message),
        ("confidence", .float confidence)]
    | validation prediction pattern confidence =>
      [("prediction", .str prediction), ("pattern", .str pattern),
        ("confidence", .float confidence)]

def variants : List (String × Fields Json Correlation) := [
  ("purpose_pattern_alignment",
    Fields.pure alignment
      |>.also (.required "purpose" text)
      |>.also (.required "pattern" text)
      |>.also (.required "shared_token" text)
      |>.also (.required "confidence" real)),
  ("pattern_mismatch",
    Fields.pure mismatch
      |>.also (.required "anomaly_count" word)
      |>.also (.required "message" text)
      |>.also (.required "confidence" real)),
  ("prediction_validation",
    Fields.pure validation
      |>.also (.required "prediction" text)
      |>.also (.required "pattern" text)
      |>.also (.required "confidence" real))]

def ofJson : Decoder Json Correlation := tagged "type" variants

end Correlation

namespace IntegratedResult

def toJson (r : IntegratedResult) : Json :=
  .obj [("id", Json.ofUuid r.id), ("timestamp", Json.ofTime r.time),
    ("discovery", r.discovery.toJson), ("purpose", r.purpose.toJson),
    ("quality", r.quality.toJson), ("prediction", r.prediction.toJson),
    ("holistic", r.review.toJson), ("layers", r.layers.toJson),
    ("correlations", Json.ofList Correlation.toJson r.correlations),
    ("recommendations", .strings r.recommendations), ("confidence", .float r.confidence)]

def fields : Fields Json IntegratedResult :=
  Fields.pure IntegratedResult.mk
    |>.also (.required "id" Json.uuid?)
    |>.also (.required "timestamp" Json.time?)
    |>.also (.required "discovery" Verdict.ofJson)
    |>.also (.required "purpose" PurposeReport.ofJson)
    |>.also (.required "quality" Quality.ofJson)
    |>.also (.required "prediction" Prediction.ofJson)
    |>.also (.required "holistic" Review.ofJson)
    |>.also (.required "layers" LayerStatuses.ofJson)
    |>.also (.required "correlations" (Json.list? Correlation.ofJson))
    |>.also (.required "recommendations" (Json.list? text))
    |>.also (.required "confidence" real)

def ofJson : Decoder Json IntegratedResult := fields.read

end IntegratedResult

namespace Trend

def name : Trend → String
  | improving => "improving"
  | stable => "stable"
  | declining => "declining"
  | insufficientData => "insufficient_data"

def all : List Trend := [improving, stable, declining, insufficientData]

def toJson (t : Trend) : Json := .str t.name

def ofJson : Decoder Json Trend := Json.choice? (all.map fun t => (t.name, t))

end Trend

namespace HealthStatus

def name : HealthStatus → String
  | idle => "idle"
  | healthy => "healthy"
  | degraded => "degraded"

def all : List HealthStatus := [idle, healthy, degraded]

def toJson (h : HealthStatus) : Json := .str h.name

def ofJson : Decoder Json HealthStatus := Json.choice? (all.map fun h => (h.name, h))

end HealthStatus

namespace IntegrationMetrics

def toJson (m : IntegrationMetrics) : Json :=
  .obj [("total_integrated_analyses", .nat m.totalAnalyses),
    ("average_confidence", .float m.averageConfidence), ("trend", m.trend.toJson),
    ("correlations_found", .nat m.correlationsFound),
    ("total_collaborator_fallbacks", .nat m.totalFallbacks)]

def fields : Fields Json IntegrationMetrics :=
  Fields.pure IntegrationMetrics.mk
    |>.also (.required "total_integrated_analyses" word)
    |>.also (.required "average_confidence" real)
    |>.also (.required "trend" Trend.ofJson)
    |>.also (.required "correlations_found" word)
    |>.also (.required "total_collaborator_fallbacks" word)

def ofJson : Decoder Json IntegrationMetrics := fields.read

end IntegrationMetrics

namespace SystemHealth

def toJson (h : SystemHealth) : Json :=
  .obj [("status", h.status.toJson), ("collaborator_fallbacks", .nat h.fallbacks),
    ("reliability", .float h.reliability)]

def fields : Fields Json SystemHealth :=
  Fields.pure SystemHealth.mk
    |>.also (.required "status" HealthStatus.ofJson)
    |>.also (.required "collaborator_fallbacks" word)
    |>.also (.required "reliability" real)

def ofJson : Decoder Json SystemHealth := fields.read

end SystemHealth

namespace IntegratedSummary

def toJson (s : IntegratedSummary) : Json :=
  .obj [("archetypal_discovery", s.discovery.toJson), ("integration_metrics", s.metrics.toJson),
    ("system_health", s.health.toJson)]

def fields : Fields Json IntegratedSummary :=
  Fields.pure IntegratedSummary.mk
    |>.also (.required "archetypal_discovery" Summary.ofJson)
    |>.also (.required "integration_metrics" IntegrationMetrics.ofJson)
    |>.also (.required "system_health" SystemHealth.ofJson)

def ofJson : Decoder Json IntegratedSummary := fields.read

end IntegratedSummary
end Motif
