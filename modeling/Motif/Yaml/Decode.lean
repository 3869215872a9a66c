import Motif.Document.Basic
import Motif.Yaml.Node
import Motif.Yaml.Scalar

/-!
YAML nodes as documents.  Every scalar is a text.  Numbers and nothing are read from scalars without
quotes; a literal scalar can be a number if its tag says so.  Records are mappings, or nothing at
all, and never sequences.
-/

namespace Motif
namespace Yaml

open Document

/-- A node, and the nodes that aliases in it may refer to. -/
structure Value where
  anchored : Anchored
  node : Node
  /-- Whether an alias stands in the place of its key. -/
  isAliased : Bool

namespace Value

/-- The node itself, or the one that an alias stands for. -/
def target (v : Value) : Node :=
  match v.node with
  | .reference number => (v.anchored.node? number).getD .cut
  | node => node

def nullTag : String := "tag:yaml.org,2002:null"

def wordTag : String := "tag:yaml.org,2002:int"

def realTag : String := "tag:yaml.org,2002:float"

def text? (v : Value) : Except Cause String :=
  match v.target with
  | .scalar _ _ text => .ok text
  | .cut => .error .broken
  | _ => .error .invalid

/-- A scalar that may be a number, according to its style and tag. -/
def number? {α : Type} (expected : String) (read : String → Option α) (v : Value) :
    Except Cause α :=
  match v.target with
  | .scalar style tag text =>
    if style = .plain || (style = .literal && tag = some expected) then
      ((read text).map .ok).getD (.error .invalid)
    else .error .invalid
  | .cut => .error .broken
  | _ => .error .invalid

def word? (v : Value) : Except Cause Nat :=
  v.number? wordTag fun s => (Scalar.natural? s).filter (· ≤ Decimal.word64)

def real? (v : Value) : Except Cause Float := v.number? realTag Scalar.real?

def isAbsent? (v : Value) : Except Cause Bool :=
  match v.target with
  | .scalar .plain none text => .ok (text.isEmpty || Scalar.isNull text)
  | .scalar .plain (some tag) text =>
    if tag != nullTag then .ok false else if Scalar.isNull text then .ok true else .error .invalid
  | .cut => .error .broken
  | _ => .ok false

/-- The entries up to the first key that is no text, with what is wrong there. -/
def entries? (anchored : Anchored) :
    List (Node × Node) → List (String × Value) × Option Cause
  | [] => ([], none)
  | (key, node) :: rest =>
    match (⟨anchored, key, false⟩ : Value).text? with
    | .error c => ([], some c)
    | .ok text =>
      let (entries, ending) := entries? anchored rest
      ((text, ⟨anchored, node, key.isReference⟩) :: entries, ending)

def parts? (v : Value) : Except Cause (Parts Value) :=
  match v.target with
  | .mapping entries isWhole =>
    let (entries, ending) := entries? v.anchored entries
    .ok (.named entries (if ending.isNone && !isWhole then some .broken else ending))
  | .scalar .plain _ text => if text.isEmpty then .ok (.named [] none) else .error .invalid
  | .cut => .error .broken
  | _ => .error .invalid

/-- In paths a question mark stands for a key that is given by an alias. -/
def label (key : String) (v : Value) : String := if v.isAliased then "?" else key

instance : Format Value :=
  { text := text?, word := word?, real := real?, isAbsent := isAbsent?, parts := parts?, label }

end Value

/-- Why a text is not accepted. -/
inductive Fault where
  /-- It is no single YAML document. -/
  | malformed
  | content (f : Failure)
deriving DecidableEq, Inhabited

def Fault.message : Fault → String
  | .malformed => "malformed YAML"
  | .content f => f.message

/-- Reads a text that holds one document.  What is wrong with its content is reported before what is
wrong with the text behind. -/
def read {α : Type} (decode : Decoder Value α) (s : String) : Except Fault α :=
  let t := Tree.ofText s
  match decode ⟨t.anchored, t.root, false⟩ with
  | .error f => .error (if f.cause = .broken then .malformed else .content f)
  | .ok a => if t.closing = .final then .ok a else .error .malformed

end Yaml
end Motif
