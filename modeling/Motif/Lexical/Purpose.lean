import Motif.Confidence
import Motif.Report
import Motif.Text.LowerCase
import Motif.Text.Part

/-!
Guessing the purpose of code by keywords: the profile with most keywords in the code wins, the
first of those that tie.
-/

namespace Motif
namespace Lexical

/-- How many of the keywords occur in a text in lower case. -/
def hits (text : List Char) (keywords : List String) : Nat :=
  (keywords.filter fun k => Text.includes text k.toList).length

def lowered (s : String) : String := String.ofList (Text.lower s.toList)

/-- A purpose and the keywords, in lower case, that suggest it. -/
structure Profile where
  purpose : String
  description : String
  keywords : List String
deriving DecidableEq, Inhabited

namespace Profile

def make (purpose description : String) (keywords : List String) : Profile :=
  ⟨purpose, description, keywords.map lowered⟩

def builtIn : List Profile := [
  make "object-construction" "Object construction (builder, factory, singleton)"
    ["build", "create", "construct", "new ", "instance"],
  make "data-access" "Data access and persistence (repository, query)"
    ["repository", "query", "save(", "find", "insert", "delete("],
  make "event-handling" "Event handling (observer, listener, subscription)"
    ["subscribe", "emit", "listener", "notify", "event"],
  make "resource-management" "Resource pooling and lifecycle (pool, acquire, release)"
    ["pool", "acquire", "release", "dispose", "close("],
  make "request-processing" "Request processing pipeline (middleware, handler)"
    ["request", "response", "next(", "handler", "middleware"],
  make "caching" "Result caching (memoization, lookup tables)" ["cache", "memo"]]

/-- The better of the leader so far and a challenger, each with its hits. -/
def lead (best : Option (Profile × Nat)) (challenger : Profile × Nat) : Option (Profile × Nat) :=
  match best with
  | some b => if challenger.2 ≤ b.2 then some b else some challenger
  | none => some challenger

def leader (profiles : List Profile) (text : List Char) : Option (Profile × Nat) :=
  ((profiles.map fun p => (p, hits text p.keywords)).filter (0 < ·.2)).foldl lead none

end Profile

def purpose (profiles : List Profile) (code : String) : PurposeReport :=
  match Profile.leader profiles (Text.lower code.toList) with
  | some (p, n) =>
    ⟨p.purpose, p.description, Confidence.least (0.3 + 0.15 * Confidence.ofNat n) 0.9⟩
  | none => ⟨"computation", "General computation", 0.2⟩

end Lexical
end Motif
