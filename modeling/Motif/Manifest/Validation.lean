import Motif.Decimal.Style
import Motif.Manifest.Basic

/-!
Which manifests are accepted.  The checks are made in a fixed order, and the first that fails is
reported.
-/

namespace Motif
namespace Manifest

inductive Fault where
  | version (found : String)
  | kind (found : String)
  | unnamed
  | outsideUnit (field : String) (value : Float)
  | capsOrder (candidate pattern : Float)
  | notPositive (fields : String)
deriving BEq, Inhabited

def Fault.message : Fault → String
  | .version v => "Invalid apiVersion: '" ++ v ++ "'. Must be '" ++ supportedVersion ++ "'"
  | .kind k => "Invalid kind: '" ++ k ++ "'. Must be '" ++ supportedKind ++ "'"
  | .unnamed => "metadata.name cannot be empty"
  | .outsideUnit field value =>
    field ++ " must be within [0, 1], got " ++ Decimal.plain.render value
  | .capsOrder candidate pattern =>
    "candidate_confidence_cap (" ++ Decimal.plain.render candidate ++
      ") must be below pattern_confidence_cap (" ++ Decimal.plain.render pattern ++ ")"
  | .notPositive fields => fields ++ " must be positive"

def isUnit (x : Float) : Bool := 0.0 ≤ x && x ≤ 1.0

/-- The settings that have to lie in the unit interval, in the order of their checks. -/
def unitFields (m : Manifest) : List (String × Float) :=
  let e := m.spec.engine
  [("fragment_reinforcement", e.fragmentReinforcement),
   ("pattern_reinforcement", e.patternReinforcement),
   ("pattern_confidence_cap", e.patternCap),
   ("candidate_confidence_cap", e.candidateCap),
   ("candidate_nudge", e.candidateNudge),
   ("trigger_confidence", e.triggerConfidence),
   ("confidence_floor", e.confidenceFloor),
   ("recommendation_threshold", m.spec.integration.recommendationThreshold),
   ("trend_epsilon", m.spec.integration.trendEpsilon)]

/-- Each check, with the fault that it finds when it does not hold. -/
def checks (m : Manifest) : List (Bool × Fault) :=
  let e := m.spec.engine
  let i := m.spec.integration
  [(m.apiVersion == supportedVersion, .version m.apiVersion),
   (m.kind == supportedKind, .kind m.kind),
   (!m.metadata.name.isEmpty, .unnamed)] ++
  m.unitFields.map (fun (field, value) => (isUnit value, .outsideUnit field value)) ++
  [(!(e.patternCap ≤ e.candidateCap : Bool), .capsOrder e.candidateCap e.patternCap),
   (0 < e.minFragmentLength, .notPositive "min_fragment_length"),
   (0 < e.retentionWindow, .notPositive "retention_window"),
   (0 < i.historyLimit && 0 < i.trendWindow, .notPositive "history_limit and trend_window"),
   (0 < i.timeout, .notPositive "collaborator_timeout_ms")]

def fault? (m : Manifest) : Option Fault := (m.checks.find? (!·.1)).map (·.2)

def isValid (m : Manifest) : Bool := m.fault?.isNone

end Manifest
end Motif
