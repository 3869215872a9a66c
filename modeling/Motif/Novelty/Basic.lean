import Motif.Matching

/-!
Proposing candidates.  Only code that matches no known pattern is looked at.  Each heuristic works
in two tiers: enough trigger words give a proposal of a set confidence, and a structural check that
holds gives a stronger one.  Both may fire for one name.
-/

namespace Motif

inductive Tier where
  | trigger
  | structural
deriving DecidableEq, Inhabited

structure Proposal where
  name : String
  description : String
  confidence : Float
  tier : Tier
  evidence : List String
deriving BEq, Inhabited

/-- Code as the heuristics see it: as written, and in lower case. -/
structure View where
  code : List Char
  lowered : List Char
  features : Features

def View.ofFragment (f : Fragment) : View :=
  { code := f.code.toList, lowered := Text.lower f.code.toList, features := f.features }

structure Heuristic where
  name : String
  description : String
  /-- The trigger words that occur, when there are enough of them. -/
  triggered : View → Option (List String)
  /-- What the structural check found, when it holds. -/
  structural : View → Option (List String)
  strength : Float

/-- A heuristic given by a table of trigger words and a check. -/
structure Rule where
  name : String
  description : String
  triggers : List String
  threshold : Nat
  strength : Float
  check : View → Option (List String)

namespace Rule

def triggered (r : Rule) (v : View) : Option (List String) :=
  let found := r.triggers.filter fun t => Text.includes v.lowered t.toList
  if 0 < r.threshold ∧ r.threshold ≤ found.length then some found else none

def toHeuristic (r : Rule) : Heuristic :=
  { name := r.name, description := r.description, triggered := r.triggered
    structural := r.check, strength := r.strength }

end Rule

namespace Heuristic

/-- The proposals of one heuristic, given the confidence of a trigger. -/
def proposals (h : Heuristic) (confidence : Float) (v : View) : List Proposal :=
  ((h.triggered v).map fun evidence =>
    { name := h.name, description := h.description, confidence, tier := .trigger
      evidence : Proposal }).toList ++
  ((h.structural v).map fun evidence =>
    { name := h.name, description := "Strong candidate: " ++ h.description
      confidence := Confidence.clamp 0.0 1.0 h.strength, tier := .structural
      evidence : Proposal }).toList

end Heuristic

structure Detector where
  heuristics : List Heuristic
  triggerConfidence : Float

namespace Detector

def defaultTriggerConfidence : Float := 0.4

def make (heuristics : List Heuristic) : Detector := ⟨heuristics, defaultTriggerConfidence⟩

def withTriggerConfidence (d : Detector) (confidence : Float) : Detector :=
  { d with triggerConfidence := Confidence.clamp 0.0 1.0 confidence }

def names (d : Detector) : List String := d.heuristics.map (·.name)

def detect (d : Detector) (f : Fragment) (existing : List Match) : List Proposal :=
  if existing.isEmpty then
    let v := View.ofFragment f
    d.heuristics.flatMap (·.proposals d.triggerConfidence v)
  else []

end Detector
end Motif
