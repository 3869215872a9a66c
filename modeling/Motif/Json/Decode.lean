import Motif.Document.Record
import Motif.Json.Basic
import Motif.Decimal.Numeral
import Motif.Ordered.Dictionary
import Motif.Ordered.WordSet
import Motif.Timestamp.Reader
import Motif.Uuid

/-!
JSON values as documents.  A whole number is a number too, a fraction is no whole number.
-/

namespace Motif
namespace Json

open Document

def text? : Json → Except Cause String
  | str s => .ok s
  | _ => .error .invalid

def word? : Json → Except Cause Nat
  | int n => if 0 ≤ n ∧ n ≤ Decimal.word64 then .ok n.toNat else .error .invalid
  | _ => .error .invalid

def real? : Json → Except Cause Float
  | int n => .ok (Float.ofInt n)
  | float x => .ok x
  | _ => .error .invalid

def isNull : Json → Bool
  | null => true
  | _ => false

def parts? : Json → Except Cause (Parts Json)
  | obj fields => .ok (.named fields none)
  | arr items => .ok (.placed items)
  | _ => .error .invalid

instance : Format Json :=
  { text := text?, word := word?, real := real?
    isAbsent := fun v => .ok v.isNull, parts := parts? }

def bool? : Decoder Json Bool
  | bool b => .ok b
  | _ => .error (.here .invalid)

def list? {α : Type} (decode : Decoder Json α) : Decoder Json (List α)
  | arr items => items.mapM decode
  | _ => .error (.here .invalid)

def uuid? : Decoder Json Uuid
  | str s => ((Uuid.parse? s).map .ok).getD (.error (.here .unreadable))
  | _ => .error (.here .invalid)

def time? : Decoder Json Timestamp
  | str s => ((Timestamp.parse? s).map .ok).getD (.error (.here .unreadable))
  | _ => .error (.here .invalid)

def wordSet? : Decoder Json WordSet := fun v => WordSet.ofList <$> list? text v

/-- The option that a name stands for. -/
def option? {α : Type} (options : List (String × α)) (name : String) : Except Failure α :=
  match options.lookup name with
  | some a => .ok a
  | none => .error (.here (.unknown name (options.map (·.1))))

/-- One of several names, bare or as the only key of an object, with a value that `isNothing`. -/
def choiceOver? {α : Type} (isNothing : Json → Bool) (options : List (String × α)) :
    Decoder Json α
  | str name => option? options name
  | obj [(name, v)] => (option? options name).bind fun a =>
    if isNothing v then .ok a else .error (.here .invalid)
  | _ => .error (.here .invalid)

def choice? {α : Type} (options : List (String × α)) : Decoder Json α :=
  choiceOver? isNull options

/-- Inside a record with a tag an empty object counts as nothing, too. -/
def innerChoice? {α : Type} (options : List (String × α)) : Decoder Json α :=
  choiceOver? (fun v => match v with
    | null | obj [] => true
    | _ => false) options

/-! ## Writing -/

def ofDictionary (d : Dictionary) : Json := obj (d.entries.map fun e => (e.1, str e.2))

def ofUuid (u : Uuid) : Json := str u.render

def ofTime (t : Timestamp) : Json := str t.render

def ofList {α : Type} (encode : α → Json) (as : List α) : Json := arr (as.map encode)

end Json
end Motif
