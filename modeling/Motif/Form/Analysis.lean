import Motif.Analysis
import Motif.Form.Fragment
import Motif.Form.Pattern

/-!
The JSON forms of what an analysis finds and of what the engine has seen.
-/

namespace Motif

open Document

namespace Match

def toJson (m : Match) : Json :=
  .obj [("pattern", .str m.pattern), ("confidence", .float m.confidence),
    ("indicators_found", .nat m.found), ("indicators_total", .nat m.total),
    ("matched_indicators", .strings m.indicators), ("description", .str m.description)]

def fields : Fields Json Match :=
  Fields.pure Match.mk
    |>.also (.required "pattern" text)
    |>.also (.required "confidence" real)
    |>.also (.required "indicators_found" word)
    |>.also (.required "indicators_total" word)
    |>.also (.required "matched_indicators" (Json.list? text))
    |>.also (.required "description" text)

def ofJson : Decoder Json Match := fields.read

end Match

namespace Tier

def name : Tier → String
  | trigger => "trigger"
  | structural => "structural"

def all : List Tier := [trigger, structural]

def toJson (t : Tier) : Json := .str t.name

def options : List (String × Tier) := all.map fun t => (t.name, t)

def ofJson : Decoder Json Tier := Json.choice? options

end Tier

namespace Proposal

def toJson (p : Proposal) : Json :=
  .obj [("name", .str p.name), ("description", .str p.description),
    ("confidence", .float p.confidence), ("tier", p.tier.toJson),
    ("evidence", .strings p.evidence)]

def fields (tier : Decoder Json Tier) : Fields Json Proposal :=
  Fields.pure Proposal.mk
    |>.also (.required "name" text)
    |>.also (.required "description" text)
    |>.also (.required "confidence" real)
    |>.also (.required "tier" tier)
    |>.also (.required "evidence" (Json.list? text))

def ofJson : Decoder Json Proposal := (fields Tier.ofJson).read

/-- Reads a proposal inside a record with a tag. -/
def ofInnerJson : Decoder Json Proposal := (fields (Json.innerChoice? Tier.options)).read

end Proposal

namespace Record

def toJson (r : Record) : Json :=
  .obj [("timestamp", Json.ofTime r.time), ("fragment_id", Json.ofUuid r.fragment),
    ("matches", .strings r.matched), ("novel_patterns", .strings r.proposed),
    ("confidence", .float r.confidence)]

def fields : Fields Json Record :=
  Fields.pure Record.mk
    |>.also (.required "timestamp" Json.time?)
    |>.also (.required "fragment_id" Json.uuid?)
    |>.also (.required "matches" (Json.list? text))
    |>.also (.required "novel_patterns" (Json.list? text))
    |>.also (.required "confidence" real)

def ofJson : Decoder Json Record := fields.read

end Record

namespace Emerging

def toJson (e : Emerging) : Json :=
  .obj [("pattern", .str e.name), ("occurrences", .nat e.occurrences),
    ("confidence", .float e.confidence)]

def fields : Fields Json Emerging :=
  Fields.pure Emerging.mk
    |>.also (.required "pattern" text)
    |>.also (.required "occurrences" word)
    |>.also (.required "confidence" real)

def ofJson : Decoder Json Emerging := fields.read

end Emerging

namespace Insights

def toJson (i : Insights) : Json :=
  .obj [("total_fragments", .nat i.totalFragments), ("total_analyses", .nat i.totalAnalyses),
    ("retained_records", .nat i.retainedRecords),
    ("emerging_patterns", Json.ofList Emerging.toJson i.emerging),
    ("average_confidence", .float i.averageConfidence), ("reliability", .float i.reliability)]

def fields : Fields Json Insights :=
  Fields.pure Insights.mk
    |>.also (.required "total_fragments" word)
    |>.also (.required "total_analyses" word)
    |>.also (.required "retained_records" word)
    |>.also (.required "emerging_patterns" (Json.list? Emerging.ofJson))
    |>.also (.required "average_confidence" real)
    |>.also (.required "reliability" real)

def ofJson : Decoder Json Insights := fields.read

end Insights

namespace Evaluation

def toJson (e : Evaluation) : Json :=
  .obj [("fragment", e.fragment.toJson), ("matches", Json.ofList Match.toJson e.matched),
    ("novel_patterns", Json.ofList Proposal.toJson e.proposed)]

def fields : Fields Json Evaluation :=
  Fields.pure Evaluation.mk
    |>.also (.required "fragment" Fragment.ofJson)
    |>.also (.required "matches" (Json.list? Match.ofJson))
    |>.also (.required "novel_patterns" (Json.list? Proposal.ofJson))

def ofJson : Decoder Json Evaluation := fields.read

end Evaluation

namespace Outcome

/-- The fields of an outcome, which a verdict adds its tag to. -/
def toFields (o : Outcome) : List (String × Json) :=
  [("fragment", o.fragment.toJson), ("matches", Json.ofList Match.toJson o.matched),
    ("novel_patterns", Json.ofList Proposal.toJson o.proposed),
    ("confidence", .float o.confidence), ("observation_count", .nat o.observationCount),
    ("collective_insights", o.insights.toJson)]

def toJson (o : Outcome) : Json := .obj o.toFields

def fields (proposal : Decoder Json Proposal) : Fields Json Outcome :=
  Fields.pure Outcome.mk
    |>.also (.required "fragment" Fragment.ofJson)
    |>.also (.required "matches" (Json.list? Match.ofJson))
    |>.also (.required "novel_patterns" (Json.list? proposal))
    |>.also (.required "confidence" real)
    |>.also (.required "observation_count" word)
    |>.also (.required "collective_insights" Insights.ofJson)

def ofJson : Decoder Json Outcome := (fields Proposal.ofJson).read

end Outcome

namespace Verdict

def toJson : Verdict → Json
  | success o => .obj (("status", .str "success") :: o.toFields)
  | failure error reason =>
    .obj ([("status", .str "failure"), ("error", .str error)] ++
      Json.optional "reason" (reason.map .str))

def failureFields : Fields Json Verdict :=
  Fields.pure failure
    |>.also (.required "error" text)
    |>.also (.defaulted "reason" (Document.optional text) none)

def ofJson : Decoder Json Verdict :=
  tagged "status"
    [("success", (Fields.pure success).also (Outcome.fields Proposal.ofInnerJson)),
      ("failure", failureFields)]

end Verdict

namespace Summary

def toJson (s : Summary) : Json :=
  .obj [("total_observations", .nat s.observations), ("known_patterns", .nat s.knownPatterns),
    ("candidate_archetypes", .nat s.candidates),
    ("top_candidates", Json.ofList Candidate.toJson s.topCandidates)]

def fields : Fields Json Summary :=
  Fields.pure Summary.mk
    |>.also (.required "total_observations" word)
    |>.also (.required "known_patterns" word)
    |>.also (.required "candidate_archetypes" word)
    |>.also (.required "top_candidates" (Json.list? Candidate.ofJson))

def ofJson : Decoder Json Summary := fields.read

end Summary
end Motif
