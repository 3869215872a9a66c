import Motif.Confidence
import Motif.Features
import Motif.Ordered.Dictionary
import Motif.Timestamp
import Motif.Uuid

/-!
Fragments of code submitted for analysis.  A fragment is refused when nothing but white space is in
it, or when what is left between the white space at its ends is shorter than the least length.  All
of it but the confidence is fixed when it is made.
-/

namespace Motif

/-- When something happened, and the identifier that it got. -/
structure Stamp where
  id : Uuid
  time : Timestamp
deriving DecidableEq, Inhabited

/-- Where a fragment came from, as given by the caller. -/
abbrev Context := Dictionary

structure Fragment where
  id : Uuid
  code : String
  features : Features
  context : Context
  confidence : Float
  time : Timestamp
deriving BEq, Inhabited

namespace Fragment

def defaultLeastLength : Nat := 10

def initialConfidence : Float := 0.1

inductive Refusal where
  | empty
  | tooShort (length least : Nat)
deriving DecidableEq, Inhabited

def Refusal.message : Refusal → String
  | .empty => "fragment is empty"
  | .tooShort length least =>
    "fragment has " ++ toString length ++ " characters, minimum is " ++ toString least

/-- The number of characters that count. -/
def measure (code : String) : Nat := (Text.trim code.toList).length

def make (stamp : Stamp) (code : String) (context : Context) (least : Nat) :
    Except Refusal Fragment :=
  let length := measure code
  if length = 0 then .error .empty
  else if length < least then .error (.tooShort length least)
  else .ok
    { id := stamp.id, code, features := Features.ofText code, context
      confidence := initialConfidence, time := stamp.time }

def reinforce (f : Fragment) (delta : Float) : Fragment :=
  { f with confidence := Confidence.clampUnit (Confidence.raised f.confidence delta) }

/-- Reinforces `count` times. -/
def reinforceTimes (f : Fragment) (delta : Float) : Nat → Fragment
  | 0 => f
  | count + 1 => reinforceTimes (f.reinforce delta) delta count

end Fragment
end Motif
