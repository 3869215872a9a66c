import Motif.Confidence
import Motif.Regex.Search
import Motif.Report
import Motif.Text.Line

/-!
Looking for anomalies line by line: long lines, deep nesting, debug output, work markers, errors
that are caught and dropped, and fragments of too many lines.
-/

namespace Motif
namespace Lexical

structure Limits where
  lineLength : Nat
  nesting : Nat
  lines : Nat
deriving DecidableEq, Inhabited

def Limits.standard : Limits := ⟨120, 4, 80⟩

namespace Limits

open Regex

def emptyCatch : Regex :=
  either
    (literal "catch" ++ blanks ++ maybe (char '(' ++ many (noneOf [')']) ++ char ')') ++ blanks ++
      char '\x7b' ++ blanks ++ char '\x7d')
    (literal "except" ++ many (noneOf [':', '\n']) ++ char ':' ++ blanks ++ literal "pass" ++
      wordEdge)

def debugOutput : Regex :=
  either (literal "console.log" ++ call)
    (either (wordEdge ++ literal "dbg!" ++ call)
      (either (wordEdge ++ literal "println!" ++ call)
        (wordEdge ++ literal "System.out.print")))

def marker : Regex := word ["TODO", "FIXME", "XXX", "HACK"]

/-! ## Single lines -/

def longLine (l : Limits) (number : Nat) (line : List Char) : List Anomaly :=
  if l.lineLength < line.length then
    [⟨"long_line", .low, "Line exceeds " ++ toString l.lineLength ++ " characters", some number⟩]
  else []

def debugLine (number : Nat) (line : List Char) : List Anomaly :=
  if debugOutput.occursIn line then
    [⟨"debug_output", .low, "Debug output left in code", some number⟩]
  else []

def markedLine (number : Nat) (line : List Char) : List Anomaly :=
  if marker.occursIn line then
    [⟨"unfinished_work", .low, "Unresolved work marker", some number⟩]
  else []

/-! ## Nesting -/

/-- The depth after one character, which never falls below zero. -/
def depthAfter (depth : Nat) (c : Char) : Nat :=
  if c = '\x7b' then depth + 1 else if c = '\x7d' then depth - 1 else depth

/-- Reports a depth beyond the limit, unless that was done before. -/
def deepLine (l : Limits) (number depth : Nat) (reported : Bool) : List Anomaly :=
  if l.nesting < depth ∧ reported = false then
    [⟨"deep_nesting", .medium, "Nesting deeper than " ++ toString l.nesting ++ " levels",
      some number⟩]
  else []

/-- Goes through the lines, counted from `number`, with the depth at the end of the line before. -/
def scanLines (l : Limits) (number depth : Nat) (reported : Bool) :
    List (List Char) → List Anomaly
  | [] => []
  | line :: rest =>
    let depth := line.foldl depthAfter depth
    let deep := l.deepLine number depth reported
    l.longLine number line ++ deep ++ debugLine number line ++ markedLine number line ++
      scanLines l (number + 1) depth (reported || !deep.isEmpty) rest

/-! ## Whole texts -/

/-- The line of a match, as the number of lines of the text before it, at least one: a line for each
line feed, and one for what follows the last. -/
def lineOf (m : Span) : Nat :=
  match m.before with
  | '\n' :: earlier => earlier.count '\n' + 1
  | earlier => earlier.count '\n' + 1

def swallowed (code : List Char) : List Anomaly :=
  (emptyCatch.findAll code).map fun m =>
    ⟨"swallowed_error", .high, "Error is caught and silently ignored", some (lineOf m)⟩

def oversized (l : Limits) (lines : List (List Char)) : List Anomaly :=
  let count := (lines.filter fun line => !Text.isAllBlank line).length
  if l.lines < count then
    [⟨"oversized_fragment", .medium, toString count ++ " non-blank lines in one unit", none⟩]
  else []

def scan (l : Limits) (code : String) : List Anomaly :=
  let cs := code.toList
  let lines := Text.lines cs
  l.scanLines 1 0 false lines ++ swallowed cs ++ l.oversized lines

end Limits

def penalty : Severity → Float
  | .low => 0.05
  | .medium => 0.15
  | .high => 0.3

def anomalies (l : Limits) (code : String) : AnomalyReport :=
  let found := l.scan code
  { anomalies := found
    summary := match found.length with
      | 0 => "No anomalies found"
      | 1 => "1 anomaly found"
      | n => toString n ++ " anomalies found"
    confidence := Confidence.least (0.5 + 0.1 * Confidence.ofNat found.length) 0.9 }

/-- One for clean code, less for each anomaly by its severity. -/
def intuition (l : Limits) (code : String) : Float :=
  Confidence.clamp 0.0 1.0
    (1.0 - Confidence.total ((l.scan code).map fun a => penalty a.severity))

end Lexical
end Motif
