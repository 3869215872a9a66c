import Motif.Json.Decode
import Motif.Manifest.Basic

/-!
The form of manifests, which can be read from any format.  All settings may be left out and have
their standard values then.
-/

namespace Motif

open Document

namespace EngineSettings

def toJson (s : EngineSettings) : Json :=
  .obj [("min_fragment_length", .nat s.minFragmentLength),
    ("fragment_reinforcement", .float s.fragmentReinforcement),
    ("pattern_reinforcement", .float s.patternReinforcement),
    ("pattern_confidence_cap", .float s.patternCap),
    ("candidate_confidence_cap", .float s.candidateCap),
    ("candidate_nudge", .float s.candidateNudge),
    ("trigger_confidence", .float s.triggerConfidence),
    ("confidence_floor", .float s.confidenceFloor), ("retention_window", .nat s.retentionWindow)]

def fields {ν : Type} [Format ν] : Fields ν EngineSettings :=
  Fields.pure EngineSettings.mk
    |>.also (.defaulted "min_fragment_length" word standard.minFragmentLength)
    |>.also (.defaulted "fragment_reinforcement" real standard.fragmentReinforcement)
    |>.also (.defaulted "pattern_reinforcement" real standard.patternReinforcement)
    |>.also (.defaulted "pattern_confidence_cap" real standard.patternCap)
    |>.also (.defaulted "candidate_confidence_cap" real standard.candidateCap)
    |>.also (.defaulted "candidate_nudge" real standard.candidateNudge)
    |>.also (.defaulted "trigger_confidence" real standard.triggerConfidence)
    |>.also (.defaulted "confidence_floor" real standard.confidenceFloor)
    |>.also (.defaulted "retention_window" word standard.retentionWindow)

def decode {ν : Type} [Format ν] : Decoder ν EngineSettings := fields.read

end EngineSettings

namespace IntegrationSettings

def toJson (s : IntegrationSettings) : Json :=
  .obj [("history_limit", .nat s.historyLimit), ("trend_window", .nat s.trendWindow),
    ("trend_epsilon", .float s.trendEpsilon),
    ("recommendation_threshold", .float s.recommendationThreshold),
    ("collaborator_timeout_ms", .nat s.timeout)]

def fields {ν : Type} [Format ν] : Fields ν IntegrationSettings :=
  Fields.pure IntegrationSettings.mk
    |>.also (.defaulted "history_limit" word standard.historyLimit)
    |>.also (.defaulted "trend_window" word standard.trendWindow)
    |>.also (.defaulted "trend_epsilon" real standard.trendEpsilon)
    |>.also (.defaulted "recommendation_threshold" real standard.recommendationThreshold)
    |>.also (.defaulted "collaborator_timeout_ms" word standard.timeout)

def decode {ν : Type} [Format ν] : Decoder ν IntegrationSettings := fields.read

end IntegrationSettings

namespace Metadata

def toJson (m : Metadata) : Json :=
  .obj ([("name", .str m.name)] ++ Json.optional "version" (m.version.map .str) ++
    Json.optional "labels" (m.labels.map Json.ofDictionary))

def fields {ν : Type} [Format ν] : Fields ν Metadata :=
  Fields.pure Metadata.mk
    |>.also (.required "name" text)
    |>.also (.possible "version" text)
    |>.also (.possible "labels" dictionary)

def decode {ν : Type} [Format ν] : Decoder ν Metadata := fields.read

end Metadata

namespace Logging

def toJson (l : Logging) : Json := .obj [("level", .str l.level), ("format", .str l.format)]

def fields {ν : Type} [Format ν] : Fields ν Logging :=
  Fields.pure Logging.mk
    |>.also (.defaulted "level" text standard.level)
    |>.also (.defaulted "format" text standard.format)

def decode {ν : Type} [Format ν] : Decoder ν Logging := fields.read

end Logging

namespace Observability

def toJson (o : Observability) : Json := .obj (Json.optional "logging" (o.logging.map (·.toJson)))

def fields {ν : Type} [Format ν] : Fields ν Observability :=
  (Fields.pure Observability.mk).also (.possible "logging" Logging.decode)

def decode {ν : Type} [Format ν] : Decoder ν Observability := fields.read

end Observability

namespace Spec

def toJson (s : Spec) : Json :=
  .obj ([("discovery", s.engine.toJson), ("bridge", s.integration.toJson)] ++
    Json.optional "observability" (s.observability.map (·.toJson)))

def fields {ν : Type} [Format ν] : Fields ν Spec :=
  Fields.pure Spec.mk
    |>.also (.defaulted "discovery" EngineSettings.decode EngineSettings.standard)
    |>.also (.defaulted "bridge" IntegrationSettings.decode IntegrationSettings.standard)
    |>.also (.possible "observability" Observability.decode)

def decode {ν : Type} [Format ν] : Decoder ν Spec := fields.read

end Spec

namespace Manifest

def toJson (m : Manifest) : Json :=
  .obj [("apiVersion", .str m.apiVersion), ("kind", .str m.kind),
    ("metadata", m.metadata.toJson), ("spec", m.spec.toJson)]

def fields {ν : Type} [Format ν] : Fields ν Manifest :=
  Fields.pure Manifest.mk
    |>.also (.required "apiVersion" text)
    |>.also (.required "kind" text)
    |>.also (.required "metadata" Metadata.decode)
    |>.also (.defaulted "spec" Spec.decode Spec.standard)

def decode {ν : Type} [Format ν] : Decoder ν Manifest := fields.read

end Manifest
end Motif
