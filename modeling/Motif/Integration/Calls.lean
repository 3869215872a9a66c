import Motif.Integration.Call
import Motif.Lexical.Anomaly
import Motif.Lexical.Prediction
import Motif.Lexical.Purpose
import Motif.Lexical.Review

/-!
The calls of the five analyzers beside discovery on one piece of code.  The built-in analyzers work
on keywords and lines and answer at once.
-/

namespace Motif

structure Calls where
  purpose : Call PurposeReport
  anomalies : Call AnomalyReport
  intuition : Call Float
  prediction : Call Prediction
  review : Call Review
deriving Inhabited

namespace Calls

def lexical (code : String) : Calls :=
  { purpose := .instant (Lexical.purpose Lexical.Profile.builtIn code)
    anomalies := .instant (Lexical.anomalies Lexical.Limits.standard code)
    intuition := .instant (Lexical.intuition Lexical.Limits.standard code)
    prediction := .instant (Lexical.prediction Lexical.Label.builtIn code)
    review := .instant (Lexical.review code) }

def durations (c : Calls) : List Nat :=
  [c.purpose.duration, c.anomalies.duration, c.intuition.duration, c.prediction.duration,
    c.review.duration]

end Calls
end Motif
