import Motif.Json.Basic
import Motif.Decimal.Numeral

/-!
Reading JSON text.  Each step of the reader takes at least one character or closes a bracket, so
the length of the text bounds the number of steps.
-/

namespace Motif
namespace Json

def isSpace (c : Char) : Bool := c == ' ' || c == '\n' || c == '\t' || c == '\r'

def skipSpace (s : List Char) : List Char := s.dropWhile isSpace

def hex4? : List Char → Option (Nat × List Char)
  | a :: b :: c :: d :: rest => (Decimal.natOfDigits? 16 [a, b, c, d]).map (·, rest)
  | _ => none

/-- The character of a `\u` escape, two escapes making one character beyond the first plane. -/
def escapedUnit? (s : List Char) : Option (Char × List Char) :=
  match hex4? s with
  | none => none
  | some (n, rest) =>
    if 0xD800 ≤ n ∧ n < 0xDC00 then
      match rest with
      | '\\' :: 'u' :: more =>
        match hex4? more with
        | some (m, rest) =>
          if 0xDC00 ≤ m ∧ m < 0xE000 then
            some (Char.ofNat (0x10000 + (n - 0xD800) * 0x400 + (m - 0xDC00)), rest)
          else none
        | none => none
      | _ => none
    else if 0xDC00 ≤ n ∧ n < 0xE000 then none
    else some (Char.ofNat n, rest)

def simpleEscape? (c : Char) : Option Char :=
  match c with
  | '"' => some '"'
  | '\\' => some '\\'
  | '/' => some '/'
  | 'b' => some (Char.ofNat 8)
  | 'f' => some (Char.ofNat 12)
  | 'n' => some '\n'
  | 'r' => some '\r'
  | 't' => some '\t'
  | _ => none

/-- The rest of a string, its opening quote already read. -/
def string? : Nat → List Char → List Char → Option (String × List Char)
  | 0, _, _ => none
  | _ + 1, _, [] => none
  | fuel + 1, acc, c :: rest =>
    if c = '"' then some (String.ofList acc.reverse, rest)
    else if c = '\\' then
      match rest with
      | 'u' :: rest =>
        match escapedUnit? rest with
        | some (d, rest) => string? fuel (d :: acc) rest
        | none => none
      | e :: rest =>
        match simpleEscape? e with
        | some d => string? fuel (d :: acc) rest
        | none => none
      | [] => none
    else if c.toNat < 32 then none
    else string? fuel (c :: acc) rest

def isNumberChar (c : Char) : Bool :=
  Decimal.isDigit c || c == '-' || c == '+' || c == '.' || c == 'e' || c == 'E'

/-- A whole number of at most 64 bits stays whole; every other numeral is read as a fraction. -/
def number? (s : List Char) : Option Json :=
  let (negative, digits) := match s with
    | '-' :: rest => (true, rest)
    | _ => (false, s)
  match Decimal.natOfDigits? 10 digits with
  | some n =>
    if negative then
      if n = 0 then some (.float (-0.0))
      else if n ≤ Nat.pow 2 63 then some (.int (-n))
      else some (.float (-(Decimal.nearest n 0)))
    else if n ≤ Decimal.word64 then some (.int n)
    else some (.float (Decimal.nearest n 0))
  | none => (Decimal.signedFraction? s).map .float

mutual

def value? : Nat → List Char → Option (Json × List Char)
  | 0, _ => none
  | fuel + 1, s =>
    match skipSpace s with
    | [] => none
    | 'n' :: 'u' :: 'l' :: 'l' :: rest => some (.null, rest)
    | 't' :: 'r' :: 'u' :: 'e' :: rest => some (.bool true, rest)
    | 'f' :: 'a' :: 'l' :: 's' :: 'e' :: rest => some (.bool false, rest)
    | '"' :: rest => (string? (rest.length + 1) [] rest).map fun (t, rest) => (.str t, rest)
    | '[' :: rest =>
      match skipSpace rest with
      | ']' :: rest => some (.arr [], rest)
      | rest => items? fuel [] rest
    | '\x7b' :: rest =>
      match skipSpace rest with
      | '\x7d' :: rest => some (.obj [], rest)
      | rest => fields? fuel [] rest
    | s => (number? (s.takeWhile isNumberChar)).map fun v => (v, s.dropWhile isNumberChar)

def items? : Nat → List Json → List Char → Option (Json × List Char)
  | 0, _, _ => none
  | fuel + 1, acc, s =>
    match value? fuel s with
    | none => none
    | some (v, rest) =>
      match skipSpace rest with
      | ',' :: rest => items? fuel (v :: acc) rest
      | ']' :: rest => some (.arr (v :: acc).reverse, rest)
      | _ => none

def fields? : Nat → List (String × Json) → List Char → Option (Json × List Char)
  | 0, _, _ => none
  | fuel + 1, acc, s =>
    match skipSpace s with
    | '"' :: rest =>
      match string? (rest.length + 1) [] rest with
      | none => none
      | some (key, rest) =>
        match skipSpace rest with
        | ':' :: rest =>
          match value? fuel rest with
          | none => none
          | some (v, rest) =>
            match skipSpace rest with
            | ',' :: rest => fields? fuel ((key, v) :: acc) rest
            | '\x7d' :: rest => some (.obj ((key, v) :: acc).reverse, rest)
            | _ => none
        | _ => none
    | _ => none

end

/-- A whole text that holds one value. -/
def parse? (s : String) : Option Json :=
  let cs := s.toList
  match value? (2 * cs.length + 2) cs with
  | some (v, rest) => if (skipSpace rest).isEmpty then some v else none
  | none => none

end Json
end Motif
