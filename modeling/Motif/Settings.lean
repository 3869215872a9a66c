import Motif.Analysis

/-!
Settings of the engine and of the integration.
-/

namespace Motif

structure EngineSettings where
  /-- Least length of an accepted fragment. -/
  minFragmentLength : Nat
  /-- Gain of a fragment for each match. -/
  fragmentReinforcement : Float
  /-- Gain of a known pattern for each match. -/
  patternReinforcement : Float
  patternCap : Float
  candidateCap : Float
  /-- Gain of a candidate for each further sighting. -/
  candidateNudge : Float
  triggerConfidence : Float
  /-- Confidence of an analysis that found nothing. -/
  confidenceFloor : Float
  retentionWindow : Nat
deriving BEq, Inhabited

def EngineSettings.standard : EngineSettings :=
  { minFragmentLength := Fragment.defaultLeastLength
    fragmentReinforcement := 0.1
    patternReinforcement := 0.01
    patternCap := Pattern.defaultCap
    candidateCap := Candidate.defaultCap
    candidateNudge := 0.05
    triggerConfidence := Detector.defaultTriggerConfidence
    confidenceFloor := 0.1
    retentionWindow := History.defaultWindow }

structure IntegrationSettings where
  /-- How many integrated results are retained. -/
  historyLimit : Nat
  /-- How many of the latest results count for trend and health. -/
  trendWindow : Nat
  trendEpsilon : Float
  /-- Least confidence of a match that gets a recommendation of its own. -/
  recommendationThreshold : Float
  /-- Deadline of each analyzer, in milliseconds. -/
  timeout : Nat
deriving BEq, Inhabited

def IntegrationSettings.standard : IntegrationSettings :=
  { historyLimit := 100
    trendWindow := 10
    trendEpsilon := 0.05
    recommendationThreshold := 0.6
    timeout := 5000 }

end Motif
