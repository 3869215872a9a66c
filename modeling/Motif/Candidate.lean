import Motif.Confidence
import Motif.Sequence
import Motif.Timestamp
import Motif.Uuid

/-!
Candidates: patterns that were proposed but are not in the catalog.  A candidate gathers sightings,
gains confidence with each up to a cap, and remembers the fragments of the latest.
-/

namespace Motif

structure Candidate where
  name : String
  description : String
  confidence : Float
  occurrences : Nat
  firstSeen : Timestamp
  lastSeen : Timestamp
  fragments : List Uuid
deriving BEq, Inhabited

namespace Candidate

/-- Upper bound of a candidate's confidence unless configured otherwise. -/
def defaultCap : Float := 0.7

/-- How many fragments are remembered. -/
def memory : Nat := 64

/-- The first sighting. -/
def propose (name description : String) (confidence : Float) (fragment : Uuid) (now : Timestamp)
    (cap : Float) : Candidate :=
  { name, description
    confidence := Confidence.least (Confidence.clampUnit confidence) cap
    occurrences := 1, firstSeen := now, lastSeen := now, fragments := [fragment] }

/-- A further sighting. -/
def observe (c : Candidate) (fragment : Uuid) (now : Timestamp) (nudge cap : Float) : Candidate :=
  { c with
    occurrences := c.occurrences + 1
    confidence := Confidence.least (Confidence.raised c.confidence nudge) cap
    lastSeen := now
    fragments := Sequence.latest memory (c.fragments ++ [fragment]) }

/-- Most sightings first, then highest confidence, then by name. -/
def rank (a b : Candidate) : Ordering :=
  (compare b.occurrences a.occurrences).then
    ((Confidence.order b.confidence a.confidence).then (compare a.name b.name))

end Candidate
end Motif
