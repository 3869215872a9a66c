import Motif.Event
import Motif.Json.Decode

/-!
The JSON forms of events.
-/

namespace Motif

open Document

namespace EngineEvent

def toJson (e : EngineEvent) : Json :=
  .obj <| ("type", .str e.kind) :: match e with
    | patternReinforced pattern fragment before after time =>
      [("pattern", .str pattern), ("fragment_id", Json.ofUuid fragment),
        ("old_confidence", .float before), ("new_confidence", .float after),
        ("timestamp", Json.ofTime time)]
    | candidateDiscovered candidate fragment confidence time =>
      [("candidate", .str candidate), ("fragment_id", Json.ofUuid fragment),
        ("confidence", .float confidence), ("timestamp", Json.ofTime time)]
    | candidateObserved candidate fragment occurrences confidence time =>
      [("candidate", .str candidate), ("fragment_id", Json.ofUuid fragment),
        ("occurrences", .nat occurrences), ("confidence", .float confidence),
        ("timestamp", Json.ofTime time)]
    | analysisRecorded fragment matched proposed confidence time =>
      [("fragment_id", Json.ofUuid fragment), ("matches", .nat matched),
        ("novel_patterns", .nat proposed), ("confidence", .float confidence),
        ("timestamp", Json.ofTime time)]
    | historyTrimmed removed retained time =>
      [("removed", .nat removed), ("retained", .nat retained), ("timestamp", Json.ofTime time)]
    | fragmentRejected reason time =>
      [("reason", .str reason), ("timestamp", Json.ofTime time)]

def variants : List (String × Fields Json EngineEvent) := [
  ("pattern_reinforced",
    Fields.pure patternReinforced
      |>.also (.required "pattern" text)
      |>.also (.required "fragment_id" Json.uuid?)
      |>.also (.required "old_confidence" real)
      |>.also (.required "new_confidence" real)
      |>.also (.required "timestamp" Json.time?)),
  ("candidate_discovered",
    Fields.pure candidateDiscovered
      |>.also (.required "candidate" text)
      |>.also (.required "fragment_id" Json.uuid?)
      |>.also (.required "confidence" real)
      |>.also (.required "timestamp" Json.time?)),
  ("candidate_observed",
    Fields.pure candidateObserved
      |>.also (.required "candidate" text)
      |>.also (.required "fragment_id" Json.uuid?)
      |>.also (.required "occurrences" word)
      |>.also (.required "confidence" real)
      |>.also (.required "timestamp" Json.time?)),
  ("analysis_recorded",
    Fields.pure analysisRecorded
      |>.also (.required "fragment_id" Json.uuid?)
      |>.also (.required "matches" word)
      |>.also (.required "novel_patterns" word)
      |>.also (.required "confidence" real)
      |>.also (.required "timestamp" Json.time?)),
  ("history_trimmed",
    Fields.pure historyTrimmed
      |>.also (.required "removed" word)
      |>.also (.required "retained" word)
      |>.also (.required "timestamp" Json.time?)),
  ("fragment_rejected",
    Fields.pure fragmentRejected
      |>.also (.required "reason" text)
      |>.also (.required "timestamp" Json.time?))]

def ofJson : Decoder Json EngineEvent := tagged "type" variants

end EngineEvent

namespace IntegrationEvent

def toJson (e : IntegrationEvent) : Json :=
  .obj <| ("type", .str e.kind) :: match e with
    | fellBack analysis layer reason time =>
      [("analysis_id", Json.ofUuid analysis), ("layer", .str layer), ("reason", .str reason),
        ("timestamp", Json.ofTime time)]
    | completed analysis confidence correlations fallbacks time =>
      [("analysis_id", Json.ofUuid analysis), ("confidence", .float confidence),
        ("correlations", .nat correlations), ("fallbacks", .nat fallbacks),
        ("timestamp", Json.ofTime time)]

def variants : List (String × Fields Json IntegrationEvent) := [
  ("collaborator_fell_back",
    Fields.pure fellBack
      |>.also (.required "analysis_id" Json.uuid?)
      |>.also (.required "layer" text)
      |>.also (.required "reason" text)
      |>.also (.required "timestamp" Json.time?)),
  ("integrated_analysis_completed",
    Fields.pure completed
      |>.also (.required "analysis_id" Json.uuid?)
      |>.also (.required "confidence" real)
      |>.also (.required "correlations" word)
      |>.also (.required "fallbacks" word)
      |>.also (.required "timestamp" Json.time?))]

def ofJson : Decoder Json IntegrationEvent := tagged "type" variants

end IntegrationEvent

namespace Event

def toJson : Event → Json
  | engine e => .obj [("domain", .str "cortex"), ("event", e.toJson)]
  | integration e => .obj [("domain", .str "integration"), ("event", e.toJson)]

/-- The tag and what it belongs to stand side by side, so the event is a field of its own. -/
def variants : List (String × Fields Json Event) := [
  ("cortex", (Fields.pure engine).also (.required "event" EngineEvent.ofJson)),
  ("integration", (Fields.pure integration).also (.required "event" IntegrationEvent.ofJson))]

/-- The tag may be a key with nothing under it, unless the event is given by position. -/
def ofJson : Decoder Json Event :=
  taggedBy "domain" .invalid (Json.choice? variants) (variant? variants)

end Event
end Motif
