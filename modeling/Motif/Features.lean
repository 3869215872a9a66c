import Motif.Text.Line
import Motif.Regex.Search

/-!
What a piece of code shows at a glance: five kinds of construct, each found by a regular
expression, two line counts, and a category made of the names of the constructs that are there.
-/

namespace Motif

structure Features where
  hasDeclarations : Bool
  hasAsync : Bool
  hasChaining : Bool
  hasConditionals : Bool
  hasLoops : Bool
  lineCount : Nat
  nonBlankLines : Nat
  category : String
deriving DecidableEq, Inhabited

namespace Features

open Regex

def declaration : Regex :=
  word ["class", "struct", "interface", "trait", "enum", "impl", "function", "fn", "def", "type"]

def asynchronous : Regex :=
  either (word ["async", "await", "Promise", "Future"]) (literal ".then" ++ call)

/-- A call on the result of a call, or a line that goes on with a call on what came before. -/
def chained : Regex :=
  either (char ')' ++ blanks ++ char '.' ++ blanks ++ identifier ++ call)
    (lineStart ++ blanks ++ char '.' ++ identifier ++ call)

def conditional : Regex := word ["if", "else", "switch", "match", "case"]

def iterative : Regex := either (word ["for", "while", "loop"]) (literal ".forEach" ++ call)

/-- The names of the constructs found, joined by bars. -/
def categoryOf (tags : List (Bool × String)) : String :=
  match (tags.filter (·.1)).map (·.2) with
  | [] => "plain"
  | names => String.intercalate "|" names

def ofText (code : String) : Features :=
  let cs := code.toList
  let hasDeclarations := declaration.occursIn cs
  let hasAsync := asynchronous.occursIn cs
  let hasChaining := chained.occursIn cs
  let hasConditionals := conditional.occursIn cs
  let hasLoops := iterative.occursIn cs
  let lines := Text.lines cs
  { hasDeclarations, hasAsync, hasChaining, hasConditionals, hasLoops
    lineCount := lines.length
    nonBlankLines := (lines.filter fun l => !Text.isAllBlank l).length
    category := categoryOf [(hasDeclarations, "declaration"), (hasAsync, "asynchronous"),
      (hasChaining, "chained"), (hasConditionals, "conditional"), (hasLoops, "iterative")] }

end Features
end Motif
