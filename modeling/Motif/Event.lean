import Motif.Timestamp
import Motif.Uuid

/-!
What the engine and the integration tell the outside world.  Each change of the engine's state has
an event of its own.
-/

namespace Motif

/-- Something that happened in the engine. -/
inductive EngineEvent where
  /-- A known pattern matched and its base confidence was raised. -/
  | patternReinforced (pattern : String) (fragment : Uuid) (before after : Float) (time : Timestamp)
  /-- A candidate was proposed for the first time. -/
  | candidateDiscovered (candidate : String) (fragment : Uuid) (confidence : Float)
      (time : Timestamp)
  /-- A candidate was proposed again. -/
  | candidateObserved (candidate : String) (fragment : Uuid) (occurrences : Nat)
      (confidence : Float) (time : Timestamp)
  /-- An analysis was added to the history. -/
  | analysisRecorded (fragment : Uuid) (matched proposed : Nat) (confidence : Float)
      (time : Timestamp)
  /-- The oldest records were dropped. -/
  | historyTrimmed (removed retained : Nat) (time : Timestamp)
  /-- Code was refused before anything changed. -/
  | fragmentRejected (reason : String) (time : Timestamp)
deriving BEq, Inhabited

namespace EngineEvent

def time : EngineEvent → Timestamp
  | patternReinforced _ _ _ _ t | candidateDiscovered _ _ _ t | candidateObserved _ _ _ _ t
  | analysisRecorded _ _ _ _ t | historyTrimmed _ _ t | fragmentRejected _ t => t

def kind : EngineEvent → String
  | patternReinforced .. => "pattern_reinforced"
  | candidateDiscovered .. => "candidate_discovered"
  | candidateObserved .. => "candidate_observed"
  | analysisRecorded .. => "analysis_recorded"
  | historyTrimmed .. => "history_trimmed"
  | fragmentRejected .. => "fragment_rejected"

/-- The fragment that the event is about. -/
def fragment? : EngineEvent → Option Uuid
  | patternReinforced _ f _ _ _ | candidateDiscovered _ f _ _ | candidateObserved _ f _ _ _
  | analysisRecorded f _ _ _ _ => some f
  | historyTrimmed .. | fragmentRejected .. => none

end EngineEvent

/-- Something that happened in an integrated analysis. -/
inductive IntegrationEvent where
  /-- An analyzer failed, timed out or was cancelled. -/
  | fellBack (analysis : Uuid) (layer reason : String) (time : Timestamp)
  /-- An integrated analysis finished. -/
  | completed (analysis : Uuid) (confidence : Float) (correlations fallbacks : Nat)
      (time : Timestamp)
deriving BEq, Inhabited

namespace IntegrationEvent

def time : IntegrationEvent → Timestamp
  | fellBack _ _ _ t | completed _ _ _ _ t => t

def analysis : IntegrationEvent → Uuid
  | fellBack a _ _ _ | completed a _ _ _ _ => a

def kind : IntegrationEvent → String
  | fellBack .. => "collaborator_fell_back"
  | completed .. => "integrated_analysis_completed"

end IntegrationEvent

inductive Event where
  | engine (e : EngineEvent)
  | integration (e : IntegrationEvent)
deriving BEq, Inhabited

namespace Event

def kind : Event → String
  | engine e => e.kind
  | integration e => e.kind

end Event
end Motif
