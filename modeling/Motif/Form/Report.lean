import Motif.Json.Decode
import Motif.Report

/-!
The JSON forms of the reports beside discovery.
-/

namespace Motif

open Document

namespace PurposeReport

def toJson (r : PurposeReport) : Json :=
  .obj [("primary_purpose",
      .obj [("purpose", .str r.purpose), ("description", .str r.description)]),
    ("confidence", .float r.confidence)]

def purposeFields : Fields Json (String × String) :=
  Fields.pure Prod.mk
    |>.also (.required "purpose" text)
    |>.also (.required "description" text)

def fields : Fields Json PurposeReport :=
  Fields.pure (fun (p : String × String) c => PurposeReport.mk p.1 p.2 c)
    |>.also (.required "primary_purpose" purposeFields.read)
    |>.also (.required "confidence" real)

def ofJson : Decoder Json PurposeReport := fields.read

end PurposeReport

namespace Severity

def name : Severity → String
  | low => "low"
  | medium => "medium"
  | high => "high"

def all : List Severity := [low, medium, high]

def toJson (s : Severity) : Json := .str s.name

def ofJson : Decoder Json Severity := Json.choice? (all.map fun s => (s.name, s))

end Severity

namespace Anomaly

def toJson (a : Anomaly) : Json :=
  .obj ([("kind", .str a.kind), ("severity", a.severity.toJson), ("message", .str a.message)] ++
    Json.optional "line" (a.line.map .nat))

def fields : Fields Json Anomaly :=
  Fields.pure Anomaly.mk
    |>.also (.required "kind" text)
    |>.also (.required "severity" Severity.ofJson)
    |>.also (.required "message" text)
    |>.also (.defaulted "line" (Document.optional word) none)

def ofJson : Decoder Json Anomaly := fields.read

end Anomaly

namespace AnomalyReport

def toJson (r : AnomalyReport) : Json :=
  .obj [("anomalies", Json.ofList Anomaly.toJson r.anomalies), ("summary", .str r.summary),
    ("confidence", .float r.confidence)]

def fields : Fields Json AnomalyReport :=
  Fields.pure AnomalyReport.mk
    |>.also (.required "anomalies" (Json.list? Anomaly.ofJson))
    |>.also (.required "summary" text)
    |>.also (.required "confidence" real)

def ofJson : Decoder Json AnomalyReport := fields.read

end AnomalyReport

namespace Prediction

def toJson (p : Prediction) : Json :=
  .obj [("prediction", .str p.label), ("confidence", .float p.confidence)]

def fields : Fields Json Prediction :=
  Fields.pure Prediction.mk
    |>.also (.required "prediction" text)
    |>.also (.required "confidence" real)

def ofJson : Decoder Json Prediction := fields.read

end Prediction

namespace Review

def toJson (r : Review) : Json :=
  .obj (Json.optional "summary" (r.summary.map .str) ++
    [("confidence", .float r.confidence), ("recommendations", .strings r.recommendations)])

def fields : Fields Json Review :=
  Fields.pure Review.mk
    |>.also (.defaulted "summary" (Document.optional text) none)
    |>.also (.required "confidence" real)
    |>.also (.defaulted "recommendations" (Json.list? text) [])

def ofJson : Decoder Json Review := fields.read

end Review
end Motif
