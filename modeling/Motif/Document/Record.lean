import Motif.Document.Basic
import Motif.Ordered.Dictionary

/-!
Reading records.  The parts of a record are read in the order in which the document has them, so of
several faults the one that comes first is reported, and missing fields only after all others, in
the order of their declaration.  A record may also be given by position.
-/

namespace Motif
namespace Document

/-- A failure and the number of the part where it arose. -/
structure Fault where
  position : Nat
  failure : Failure
deriving Inhabited

/-- The earlier of two faults, the first of those at one position. -/
def Fault.earlier (a b : Fault) : Fault := if b.position < a.position then b else a

/-- Reads some fields of a record. -/
structure Fields (ν α : Type) where
  arity : Nat
  named : List (String × ν) → Except Fault α
  placed : List ν → Except Failure α

namespace Fields

variable {ν α β : Type}

def pure (a : α) : Fields ν α := ⟨0, fun _ => .ok a, fun _ => .ok a⟩

/-- Reads further fields, and joins what was read. -/
def also (f : Fields ν (α → β)) (x : Fields ν α) : Fields ν β :=
  { arity := f.arity + x.arity
    named := fun entries =>
      match f.named entries, x.named entries with
      | .ok g, .ok a => .ok (g a)
      | .error e, .ok _ => .error e
      | .ok _, .error e => .error e
      | .error d, .error e => .error (d.earlier e)
    placed := fun items =>
      match f.placed items with
      | .error e => .error e
      | .ok g => (x.placed (items.drop f.arity)).map g }

/-- The numbers of the entries with a key, with their values. -/
def occurrences (key : String) (entries : List (String × ν)) : List (Nat × ν) :=
  (entries.zipIdx.filter (·.1.1 == key)).map fun e => (e.2, e.1.2)

/-- A field, how it is read as an entry and as an item, and what it means when it is not there: by
name, and by position. -/
def field (key : String) (decodeEntry decodeItem : Decoder ν α)
    (unnamed unplaced : Except Cause α) : Fields ν α :=
  { arity := 1
    named := fun entries =>
      match occurrences key entries with
      | [] => unnamed.mapError fun c => ⟨entries.length, .here c⟩
      | (i, v) :: rest =>
        match decodeEntry v, rest with
        | .error e, _ => .error ⟨i, e⟩
        | .ok a, [] => .ok a
        | .ok _, (j, _) :: _ => .error ⟨j, .here (.duplicate key)⟩
    placed := fun items =>
      match items with
      | [] => unplaced.mapError Failure.here
      | v :: _ => decodeItem v }

def required [Format ν] (key : String) (decode : Decoder ν α) : Fields ν α :=
  field key (entry key decode) decode (.error (.missing key)) (.error .invalid)

/-- A field that may be left out by name and may be absent. -/
def possible [Format ν] (key : String) (decode : Decoder ν α) : Fields ν (Option α) :=
  field key (optionalEntry key decode) (optional decode) (.ok none) (.error .invalid)

/-- A field that may be left out. -/
def defaulted [Format ν] (key : String) (decode : Decoder ν α) (value : α) : Fields ν α :=
  field key (entry key decode) decode (.ok value) (.ok value)

/-- Reads a record from its parts. -/
def readParts (f : Fields ν α) : Parts ν → Except Failure α
  | .named entries ending =>
    match f.named entries, ending with
    | .ok a, none => .ok a
    | .ok _, some c => .error (.here c)
    | .error e, none => .error e.failure
    | .error e, some c =>
      if e.position < entries.length then .error e.failure else .error (.here c)
  | .placed items =>
    match f.placed items with
    | .error e => .error e
    | .ok a => if items.length ≤ f.arity then .ok a else .error (.here .invalid)

def read [Format ν] (f : Fields ν α) : Decoder ν α := fun v =>
  match Format.parts v with
  | .error c => .error (.here c)
  | .ok parts => f.readParts parts

end Fields

variable {ν α : Type}

/-! ## Dictionaries -/

def entries [Format ν] : List (String × ν) → Except Failure (List (String × String))
  | [] => .ok []
  | (key, v) :: rest =>
    match entry key text v with
    | .error e => .error e
    | .ok value => (entries rest).map ((key, value) :: ·)

/-- Reads texts under any keys.  Of two entries with the same key the later one stays. -/
def dictionary [Format ν] : Decoder ν Dictionary := fun v =>
  match Format.parts v with
  | .error c => .error (.here c)
  | .ok (.placed _) => .error (.here .invalid)
  | .ok (.named es ending) =>
    match entries es, ending with
    | .error e, _ => .error e
    | .ok _, some c => .error (.here c)
    | .ok es, none => .ok (Dictionary.ofList es)

/-! ## Records with a tag -/

/-- The variant that a tag names. -/
def variant? [Format ν] (variants : List (String × Fields ν α)) : Decoder ν (Fields ν α) := fun t =>
  match text t with
  | .error e => .error e
  | .ok name =>
    match variants.find? (·.1 == name) with
    | some (_, f) => .ok f
    | none => .error (.here (.unknown name (variants.map (·.1))))

/-- Reads a record whose other fields depend on a tag among them.  How the tag is read, and what is
wrong where it is left out, depends on whether the record is given by name or by position. -/
def taggedBy [Format ν] (tag : String) (unplaced : Cause) (named placed : Decoder ν (Fields ν α)) :
    Decoder ν α :=
  fun v =>
    match Format.parts v with
    | .error c => .error (.here c)
    | .ok (.named entries ending) =>
      match Fields.occurrences tag entries with
      | [] => .error (.here (.missing tag))
      | (_, t) :: rest =>
        match named t, rest with
        | .error e, _ => .error e
        | .ok _, _ :: _ => .error (.here (.duplicate tag))
        | .ok f, [] => f.readParts (.named (entries.filter (·.1 != tag)) ending)
    | .ok (.placed []) => .error (.here unplaced)
    | .ok (.placed (t :: rest)) =>
      match placed t with
      | .error e => .error e
      | .ok f => f.readParts (.placed rest)

/-- Reads a record whose tag is a text. -/
def tagged [Format ν] (tag : String) (variants : List (String × Fields ν α)) : Decoder ν α :=
  taggedBy tag (.missing tag) (variant? variants) (variant? variants)

end Document
end Motif
