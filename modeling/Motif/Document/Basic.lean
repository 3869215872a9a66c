/-!
Documents as readers of records see them, whatever format they are written in: a document can be
asked for a text, a number or a list of fields.  What stands in the way is a cause, and a failure is
a cause with the path to where it arose.
-/

namespace Motif
namespace Document

inductive Cause where
  | missing (field : String)
  | duplicate (field : String)
  | unknown (variant : String) (expected : List String)
  /-- A value of the wrong kind or out of range. -/
  | invalid
  /-- A text that is no identifier or no time where there should be one. -/
  | unreadable
  /-- The document itself is broken. -/
  | broken
deriving DecidableEq, Inhabited

def quote (s : String) : String := "\x60" ++ s ++ "\x60"

def Cause.message : Cause → String
  | .missing field => "missing field " ++ quote field
  | .duplicate field => "duplicate field " ++ quote field
  | .unknown variant expected =>
    "unknown variant " ++ quote variant ++ ", expected " ++ match expected with
      | [a, b] => quote a ++ " or " ++ quote b
      | many => "one of " ++ String.intercalate ", " (many.map quote)
  | .invalid => "invalid"
  | .unreadable => "unreadable"
  | .broken => "broken document"

structure Failure where
  path : List String
  cause : Cause
deriving DecidableEq, Inhabited

namespace Failure

def here (cause : Cause) : Failure := ⟨[], cause⟩

def under (key : String) (f : Failure) : Failure := { f with path := key :: f.path }

/-- The path with points between its parts, and the cause. -/
def message (f : Failure) : String :=
  match f.path with
  | [] => f.cause.message
  | path => String.intercalate "." path ++ ": " ++ f.cause.message

end Failure

/-- The parts of a record: by name, up to what stopped the reading, or by position. -/
inductive Parts (ν : Type) where
  | named (entries : List (String × ν)) (ending : Option Cause)
  | placed (items : List ν)

/-- What a format offers to the readers of records. -/
class Format (ν : Type) where
  text : ν → Except Cause String
  word : ν → Except Cause Nat
  real : ν → Except Cause Float
  /-- Whether an optional value is not there. -/
  isAbsent : ν → Except Cause Bool
  parts : ν → Except Cause (Parts ν)
  /-- What paths call the entry of a record with a key and a value. -/
  label : String → ν → String := fun key _ => key

abbrev Decoder (ν α : Type) := ν → Except Failure α

variable {ν α : Type}

def lift (f : ν → Except Cause α) : Decoder ν α := fun v => (f v).mapError Failure.here

def text [Format ν] : Decoder ν String := lift Format.text

def word [Format ν] : Decoder ν Nat := lift Format.word

def real [Format ν] : Decoder ν Float := lift Format.real

def optional [Format ν] (decode : Decoder ν α) : Decoder ν (Option α) := fun v =>
  match Format.isAbsent v with
  | .error c => .error (.here c)
  | .ok true => .ok none
  | .ok false => (decode v).map some

/-- Reads the value of an entry. -/
def entry [Format ν] (key : String) (decode : Decoder ν α) : Decoder ν α := fun v =>
  (decode v).mapError (.under (Format.label key v))

/-- Reads the value of an entry that may be absent.  Where that cannot be told, the record is at
fault and not the entry. -/
def optionalEntry [Format ν] (key : String) (decode : Decoder ν α) : Decoder ν (Option α) :=
  fun v =>
    match Format.isAbsent v with
    | .error c => .error (.here c)
    | .ok true => .ok none
    | .ok false => (entry key decode v).map some

end Document
end Motif
