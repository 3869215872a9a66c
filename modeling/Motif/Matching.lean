import Motif.Catalog
import Motif.Fragment
import Motif.Text.Part

/-!
Matching code against the catalog.  An indicator counts when it occurs anywhere in the code in
lower case.  A pattern of which `k` out of `n` indicators occur, `k` not zero, matches with its base
confidence times `k / n`, at most the cap.
-/

namespace Motif

structure Match where
  pattern : String
  confidence : Float
  found : Nat
  total : Nat
  /-- The indicators that occur, in ascending order. -/
  indicators : List String
  description : String
deriving BEq, Inhabited

namespace Match

/-- Highest confidence first, then most indicators, then by name. -/
def rank (a b : Match) : Ordering :=
  (Confidence.order b.confidence a.confidence).then
    ((compare b.found a.found).then (compare a.pattern b.pattern))

end Match

structure Matcher where
  /-- What a fragment gains for each match. -/
  reinforcement : Float
  cap : Float
deriving BEq, Inhabited

namespace Matcher

def make (reinforcement : Float) : Matcher := ⟨reinforcement, Pattern.defaultCap⟩

/-- The match of one pattern with a text in lower case. -/
def match? (m : Matcher) (text : List Char) (p : Pattern) : Option Match :=
  let found := p.indicators.words.filter fun i => Text.includes text i.toList
  if found.isEmpty then none
  else some
    { pattern := p.name
      confidence :=
        Confidence.least (p.baseConfidence * Confidence.ratio found.length p.indicators.size) m.cap
      found := found.length, total := p.indicators.size
      indicators := found, description := p.description }

def score (m : Matcher) (c : Catalog) (code : String) : List Match :=
  let text := Text.lower code.toList
  (c.patterns.filterMap (m.match? text)).mergeSort fun a b => Match.rank a b != .gt

/-- Scores a fragment and reinforces it once for each match. -/
def apply (m : Matcher) (c : Catalog) (f : Fragment) : Fragment × List Match :=
  let found := m.score c f.code
  (f.reinforceTimes m.reinforcement found.length, found)

end Matcher
end Motif
