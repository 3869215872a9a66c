/-!
What the analyzers beside discovery report, and what stands in for a report that is missing.
-/

namespace Motif

structure PurposeReport where
  purpose : String
  description : String
  confidence : Float
deriving BEq, Inhabited

inductive Severity where
  | low
  | medium
  | high
deriving DecidableEq, Inhabited

structure Anomaly where
  kind : String
  severity : Severity
  message : String
  line : Option Nat
deriving DecidableEq, Inhabited

structure AnomalyReport where
  anomalies : List Anomaly
  summary : String
  confidence : Float
deriving BEq, Inhabited

/-- The pattern that the code is expected to turn into. -/
structure Prediction where
  label : String
  confidence : Float
deriving BEq, Inhabited

/-- A review of the whole fragment. -/
structure Review where
  summary : Option String
  confidence : Float
  recommendations : List String
deriving BEq, Inhabited

def PurposeReport.fallback : PurposeReport := ⟨"unknown", "Purpose analysis unavailable", 0.0⟩

def AnomalyReport.fallback : AnomalyReport := ⟨[], "Anomaly analysis unavailable", 0.0⟩

/-- The intuition score of code that could not be scored. -/
def fallbackIntuition : Float := 0.0

def Prediction.fallback : Prediction := ⟨"unknown", 0.0⟩

def Review.fallback : Review := ⟨none, 0.0, []⟩

/-- What went wrong in an analyzer. -/
inductive Trouble where
  | failed (message : String)
  | timedOut (milliseconds : Nat)
  | cancelled
  | panicked (message : String)
deriving DecidableEq, Inhabited

/-- Trouble together with the analyzer that it is blamed on. -/
structure LayerError where
  layer : String
  trouble : Trouble
deriving DecidableEq, Inhabited

def LayerError.message (e : LayerError) : String :=
  e.layer ++ " analyzer " ++ match e.trouble with
    | .failed message => "failed: " ++ message
    | .timedOut ms => "timed out after " ++ toString ms ++ " ms"
    | .cancelled => "was cancelled"
    | .panicked message => "panicked: " ++ message

end Motif
