import Motif.Confidence
import Motif.Features
import Motif.Report

/-!
Reviewing a fragment as a whole, from its features and the number of its branches.
-/

namespace Motif
namespace Lexical

open Regex

def branch : Regex := word ["if", "case", "elif"]

def errorHandling : Regex :=
  either (word ["try", "catch", "except", "Result", "Err"])
    (either (literal ".catch" ++ call) (literal "?;"))

def longFragment : Nat := 50

def manyBranches : Nat := 5

def recommendations (code : List Char) (f : Features) : List String :=
  let branches := branch.count code
  (if longFragment < f.nonBlankLines then
    ["Split this unit into smaller functions with a single responsibility"] else []) ++
  (if f.hasAsync && !errorHandling.occursIn code then
    ["Handle failures on asynchronous paths explicitly"] else []) ++
  (if manyBranches < branches then
    [toString branches ++
      " branches in one unit; consider a lookup table or polymorphic dispatch"] else [])

def review (code : String) : Review :=
  let f := Features.ofText code
  let advice := recommendations code.toList f
  { summary := some
      (toString f.nonBlankLines ++ " non-blank lines, " ++ f.category ++ " structure")
    confidence := Confidence.least (0.5 + 0.1 * Confidence.ofNat advice.length) 0.8
    recommendations := advice }

end Lexical
end Motif
