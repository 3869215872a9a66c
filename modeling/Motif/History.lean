import Motif.Candidate
import Motif.Fragment
import Motif.Ordered.WordSet

/-!
The history of analyses.  Each analysis adds its fragment and a record; beyond the retention window
the oldest of both are dropped.  All statistics are computed from what is retained.
-/

namespace Motif

/-- What one analysis found. -/
structure Record where
  time : Timestamp
  fragment : Uuid
  /-- Names of the matched patterns. -/
  matched : List String
  /-- Names of the proposed candidates, each once. -/
  proposed : List String
  confidence : Float
deriving BEq, Inhabited

namespace Record

def make (fragment : Uuid) (now : Timestamp) (matched proposed : List String)
    (confidence : Float) : Record :=
  { time := now, fragment, matched, proposed := Sequence.distinct proposed, confidence }

def mentions (r : Record) (name : String) : Bool :=
  r.matched.contains name || r.proposed.contains name

/-- Whether anything was found. -/
def isProductive (r : Record) : Bool := !r.matched.isEmpty || !r.proposed.isEmpty

end Record

/-- A candidate proposed by several retained analyses. -/
structure Emerging where
  name : String
  occurrences : Nat
  confidence : Float
deriving BEq, Inhabited

namespace Emerging

/-- In how many records a name has to be proposed. -/
def threshold : Nat := 2

def step : Float := 0.2

def cap : Float := 0.8

def make (name : String) (occurrences : Nat) : Emerging :=
  ⟨name, occurrences, Confidence.least (Confidence.ofNat occurrences * step) cap⟩

/-- Most occurrences first, then by name. -/
def rank (a b : Emerging) : Ordering :=
  (compare b.occurrences a.occurrences).then (compare a.name b.name)

end Emerging

/-- The statistics of a history. -/
structure Insights where
  totalFragments : Nat
  totalAnalyses : Nat
  retainedRecords : Nat
  emerging : List Emerging
  averageConfidence : Float
  reliability : Float
deriving BEq, Inhabited

structure History where
  fragments : List Fragment
  records : List Record
  window : Nat
  totalAnalyses : Nat
deriving BEq, Inhabited

namespace History

def defaultWindow : Nat := 1000

/-- A window of zero counts as one. -/
def empty (window : Nat) : History := ⟨[], [], max window 1, 0⟩

def size (h : History) : Nat := h.records.length

/-- Adds an analysis and says how many records were dropped. -/
def add (h : History) (fragment : Fragment) (record : Record) : History × Nat :=
  let records := h.records ++ [record]
  ({ h with
      fragments := Sequence.latest h.window (h.fragments ++ [fragment])
      records := Sequence.latest h.window records
      totalAnalyses := h.totalAnalyses + 1 },
    records.length - h.window)

def fragment? (h : History) (id : Uuid) : Option Fragment := h.fragments.find? (·.id == id)

/-- The share of the records that mention a name. -/
def share (h : History) (name : String) : Float :=
  if h.records.isEmpty then 0.0
  else Confidence.ratio (h.records.filter (·.mentions name)).length h.records.length

/-- Counts the names, in ascending order. -/
def tally (names : List String) : List (String × Nat) :=
  (WordSet.ofList names).words.map fun n => (n, names.count n)

def emerging (h : History) : List Emerging :=
  let counts := tally (h.records.flatMap (·.proposed))
  let often := (counts.filter (Emerging.threshold ≤ ·.2)).map fun (n, k) => Emerging.make n k
  often.mergeSort fun a b => Emerging.rank a b != .gt

def insights (h : History) : Insights :=
  { totalFragments := h.fragments.length
    totalAnalyses := h.totalAnalyses
    retainedRecords := h.records.length
    emerging := h.emerging
    averageConfidence := Confidence.average (h.records.map (·.confidence))
    reliability :=
      if h.records.isEmpty then 0.0
      else Confidence.ratio (h.records.filter (·.isProductive)).length h.records.length }

end History
end Motif
