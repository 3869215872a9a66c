import Motif.Lexical.Purpose

/-!
Predicting a pattern by keywords: a vote over a table of labels that has nothing to do with the
catalog.
-/

namespace Motif
namespace Lexical

/-- A label and the keywords, in lower case, that vote for it. -/
structure Label where
  name : String
  keywords : List String
deriving DecidableEq, Inhabited

namespace Label

def make (name : String) (keywords : List String) : Label := ⟨name, keywords.map lowered⟩

def builtIn : List Label := [
  make "builder" ["builder", "build()", "return this", "return self"],
  make "factory" ["factory", "create", "switch", "case "],
  make "observer" ["subscribe", "notify", "listener", "emit"],
  make "singleton" ["singleton", "getinstance", "static instance"],
  make "strategy" ["strategy", "algorithm", "setstrategy"],
  make "decorator" ["decorator", "wrap"],
  make "repository" ["repository", "findbyid", "save("],
  make "object pool" ["pool", "acquire", "release"],
  make "middleware" ["middleware", "next(", ".use("],
  make "memoization" ["memo", "cache"]]

/-- The label elected by the rest of the table, when `most` is what has to be beaten. -/
def elect (text : List Char) (most : Nat) (elected : Option Label) :
    List Label → Option (Label × Nat)
  | [] => elected.map (·, most)
  | l :: rest =>
    if most < hits text l.keywords then elect text (hits text l.keywords) (some l) rest
    else elect text most elected rest

end Label

def prediction (labels : List Label) (code : String) : Prediction :=
  match Label.elect (Text.lower code.toList) 0 none labels with
  | some (l, n) => ⟨l.name, Confidence.least (Confidence.ratio n l.keywords.length) 0.9⟩
  | none => ⟨"unknown", 0.1⟩

end Lexical
end Motif
