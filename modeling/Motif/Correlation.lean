import Motif.Analysis
import Motif.Decimal.Style
import Motif.Report
import Motif.Text.Letter

/-!
Comparing the verdict of discovery with the other reports.  An alignment joins a match to a purpose
that shares a token with its name, a mismatch tells of anomalies in code that matches nothing, and a
validation joins a match to a predicted label that overlaps its name.
-/

namespace Motif

inductive Correlation where
  | alignment (purpose pattern sharedToken : String) (confidence : Float)
  | mismatch (anomalies : Nat) (message : String) (confidence : Float)
  | validation (prediction pattern : String) (confidence : Float)
deriving BEq, Inhabited

namespace Correlation

def confidence : Correlation → Float
  | alignment _ _ _ c | mismatch _ _ c | validation _ _ c => c

def kind : Correlation → String
  | alignment .. => "purpose_pattern_alignment"
  | mismatch .. => "pattern_mismatch"
  | validation .. => "prediction_validation"

/-! ## Tokens -/

def stopwords : List String := ["pattern", "the", "and", "for", "with", "code"]

/-- Walks the text with the current piece backwards and the finished pieces backwards. -/
def piecesFrom (piece : List Char) (done : List (List Char)) : List Char → List (List Char)
  | [] => (piece.reverse :: done).reverse
  | c :: rest =>
    if Text.isAlphanumeric c then piecesFrom (c :: piece) done rest
    else piecesFrom [] (piece.reverse :: done) rest

/-- The pieces between the characters that are neither letters nor numbers. -/
def pieces (s : String) : List (List Char) := piecesFrom [] [] s.toList

/-- At least three bytes, and not a stopword. -/
def isSignificant (t : String) : Bool := 3 ≤ t.utf8ByteSize && !stopwords.contains t

def tokens (s : String) : WordSet :=
  WordSet.ofList (((pieces s).map fun p => String.ofList (Text.lower p)).filter isSignificant)

/-- The least word of both sets. -/
def shared? (a b : WordSet) : Option String := a.words.find? (· ∈ b)

def mean (a b : Float) : Float := (a + b) / 2.0

/-! ## The three rules -/

def purposeTokens (p : PurposeReport) : WordSet := tokens (p.purpose ++ " " ++ p.description)

def align? (p : PurposeReport) (m : Match) : Option Correlation :=
  (shared? (tokens m.pattern) (purposeTokens p)).map fun t =>
    alignment p.purpose m.pattern t (mean p.confidence m.confidence)

def mismatchMessage : String :=
  "Quality anomalies found with no recognised archetype; possible architectural pattern violation"

def mismatch? (v : Verdict) (a : AnomalyReport) : Option Correlation :=
  if !a.anomalies.isEmpty && v.isSuccess && v.matched.isEmpty then
    some (mismatch a.anomalies.length mismatchMessage a.confidence)
  else none

/-- Whether the label, which is in lower case, overlaps the name of a pattern. -/
def overlaps (label : List Char) (pattern : String) : Bool :=
  let name := Text.lower pattern.toList
  let labelTokens := tokens (String.ofList label)
  (!labelTokens.words.isEmpty && (Text.includes name label || Text.includes label name)) ||
    (shared? (tokens (String.ofList name)) labelTokens).isSome

def validate? (p : Prediction) (m : Match) : Option Correlation :=
  if overlaps (Text.lower p.label.toList) m.pattern then
    some (validation p.label m.pattern (mean p.confidence m.confidence))
  else none

def correlate (v : Verdict) (purpose : PurposeReport) (anomalies : AnomalyReport)
    (prediction : Prediction) : List Correlation :=
  v.matched.filterMap (align? purpose) ++ (mismatch? v anomalies).toList ++
    v.matched.filterMap (validate? prediction)

end Correlation

/-! ## Recommendations -/

namespace Recommendation

def suggestion (pattern : String) (confidence : Float) : String :=
  match pattern with
  | "Builder Pattern" => "Builder Pattern: validate required fields inside build() so partially configured objects never escape"
  | "Factory Pattern" => "Factory Pattern: register product types in a lookup table instead of growing the switch"
  | "Observer Pattern" => "Observer Pattern: pair every subscribe with an unsubscribe to avoid leaked listeners"
  | "Singleton Pattern" => "Singleton Pattern: inject the shared instance where possible to keep callers testable"
  | "Strategy Pattern" => "Strategy Pattern: keep strategies stateless so they can be swapped freely"
  | "Decorator Pattern" => "Decorator Pattern: keep each wrapper focused on a single added behaviour"
  | "Repository Pattern" => "Repository Pattern: keep query logic inside the repository rather than its callers"
  | other => other ++ ": matched with " ++ Decimal.rounded (confidence * 100.0) ++
      "% confidence, keep its responsibilities cohesive"

def novelty (proposed : List Proposal) : List String :=
  match Sequence.distinct (proposed.map (·.name)) with
  | [] => []
  | names => ["Novel pattern discovered: " ++ String.intercalate ", " names ++
      ". Consider documenting it as a project archetype"]

/-- Those of the review, one for each match that is confident enough, and one for all proposals. -/
def synthesize (v : Verdict) (review : Review) (threshold : Float) : List String :=
  Sequence.distinct <|
    review.recommendations ++
    (v.matched.filter fun m => threshold ≤ m.confidence).map (fun m =>
      suggestion m.pattern m.confidence) ++
    novelty v.proposed

end Recommendation

/-! ## Trends -/

inductive Trend where
  | improving
  | stable
  | declining
  | insufficientData
deriving DecidableEq, Inhabited

namespace Trend

/-- Compares the oldest with the newest of at least two confidences, the oldest first. -/
def classify (confidences : List Float) (epsilon : Float) : Trend :=
  match confidences with
  | oldest :: next :: rest =>
    let delta := (next :: rest).getLast (by simp) - oldest
    if epsilon < delta then improving
    else if delta < -epsilon then declining
    else stable
  | _ => insufficientData

end Trend

end Motif
