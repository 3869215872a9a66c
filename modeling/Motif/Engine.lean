import Motif.Analysis
import Motif.Event
import Motif.Novelty.Rules
import Motif.Settings

/-!
The engine.  An analysis has two halves: evaluating reads the catalog and changes nothing,
committing learns from an evaluation.  Committing raises the base confidence of every matched
pattern, counts a sighting of every proposed candidate, and adds to the history.
-/

namespace Motif

structure Engine where
  settings : EngineSettings
  catalog : Catalog
  watchlist : Watchlist
  history : History
  matcher : Matcher
  detector : Detector
  observations : Nat

/-! ## Learning from the parts of an evaluation -/

/-- Raises the base confidence of each matched pattern that the catalog has. -/
def Catalog.learn (delta : Float) (fragment : Uuid) (now : Timestamp) (c : Catalog) :
    List Match → Catalog × List EngineEvent
  | [] => (c, [])
  | m :: rest =>
    match c.reinforce m.pattern delta with
    | (c, none) => c.learn delta fragment now rest
    | (c, some r) =>
      let (c, events) := c.learn delta fragment now rest
      (c, .patternReinforced r.pattern fragment r.before r.after now :: events)

def Watchlist.Sighting.event (fragment : Uuid) (now : Timestamp) :
    Watchlist.Sighting → EngineEvent
  | .discovered c => .candidateDiscovered c.name fragment c.confidence now
  | .repeated c => .candidateObserved c.name fragment c.occurrences c.confidence now

/-- Counts a sighting of each proposal. -/
def Watchlist.learn (fragment : Uuid) (now : Timestamp) (w : Watchlist) :
    List Proposal → Watchlist × List EngineEvent
  | [] => (w, [])
  | p :: rest =>
    let (w, sighting) := w.observe p.name p.description p.confidence fragment now
    let (w, events) := w.learn fragment now rest
    (w, sighting.event fragment now :: events)

namespace Engine

/-- How many candidates a summary names. -/
def topCandidates : Nat := 5

def make (s : EngineSettings) : Engine :=
  { settings := s
    catalog := Catalog.seeded.withCap s.patternCap
    watchlist := (Watchlist.empty s.candidateNudge).withCap s.candidateCap
    history := History.empty s.retentionWindow
    matcher := ⟨s.fragmentReinforcement, s.patternCap⟩
    detector := Detector.builtIn.withTriggerConfidence s.triggerConfidence
    observations := 0 }

/-- Takes another catalog, under the cap of the settings. -/
def withCatalog (e : Engine) (c : Catalog) : Engine :=
  { e with catalog := c.withCap e.settings.patternCap }

def withDetector (e : Engine) (d : Detector) : Engine :=
  { e with detector := d.withTriggerConfidence e.settings.triggerConfidence }

/-- What a request comes to: the engine after it, the answer, and the events it gave rise to. -/
structure Step (α : Type) where
  engine : Engine
  answer : α
  events : List EngineEvent

/-! ## The two halves of an analysis -/

def evaluate (e : Engine) (stamp : Stamp) (code : String) (context : Context) :
    Except Fragment.Refusal Evaluation :=
  match Fragment.make stamp code context e.settings.minFragmentLength with
  | .error why => .error why
  | .ok fragment =>
    let (fragment, matched) := e.matcher.apply e.catalog fragment
    .ok { fragment, matched, proposed := e.detector.detect fragment matched }

def rejection (why : Fragment.Refusal) (now : Timestamp) : EngineEvent :=
  .fragmentRejected why.message now

def trimming (removed retained : Nat) (now : Timestamp) : List EngineEvent :=
  if removed = 0 then [] else [.historyTrimmed removed retained now]

def commit (e : Engine) (now : Timestamp) (v : Evaluation) : Step Outcome :=
  let id := v.fragment.id
  let distinct := Proposal.distinct v.proposed
  let (catalog, reinforced) :=
    e.catalog.learn e.settings.patternReinforcement id now v.matched
  let (watchlist, sighted) := e.watchlist.learn id now distinct
  let confidence := callConfidence v.matched v.proposed e.settings.confidenceFloor
  let record := Record.make id now (v.matched.map (·.pattern)) (distinct.map (·.name)) confidence
  let (history, removed) := e.history.add v.fragment record
  let observations := e.observations + 1
  { engine := { e with catalog, watchlist, history, observations }
    answer :=
      { fragment := v.fragment, matched := v.matched, proposed := v.proposed, confidence
        observationCount := observations, insights := history.insights }
    events := reinforced ++ sighted ++
      .analysisRecorded id v.matched.length distinct.length confidence now ::
        trimming removed history.size now }

def analyze (e : Engine) (stamp : Stamp) (code : String) (context : Context) : Step Verdict :=
  match e.evaluate stamp code context with
  | .error why => ⟨e, .refused why, [rejection why stamp.time]⟩
  | .ok v =>
    let step := e.commit stamp.time v
    ⟨step.engine, .success step.answer, step.events⟩

/-! ## What the engine knows -/

def summary (e : Engine) : Summary :=
  { observations := e.observations, knownPatterns := e.catalog.size
    candidates := e.watchlist.size, topCandidates := e.watchlist.top topCandidates }

def insights (e : Engine) : Insights := e.history.insights

def emerging (e : Engine) : List Emerging := e.history.emerging

/-- The share of the retained analyses that found the name. -/
def share (e : Engine) (name : String) : Float := e.history.share name

def candidate? (e : Engine) (name : String) : Option Candidate := e.watchlist.get? name

def candidates (e : Engine) : List Candidate := e.watchlist.ranked

def pattern? (e : Engine) (name : String) : Option Pattern := e.catalog.get? name

def patterns (e : Engine) : List Pattern := e.catalog.patterns

end Engine
end Motif
