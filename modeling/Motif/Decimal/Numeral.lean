/-!
Reading numerals: digits to natural numbers in any base up to sixteen, and decimal fractions with an
exponent to the nearest double.
-/

namespace Motif
namespace Decimal

def digitValue? (c : Char) : Option Nat :=
  if '0' ≤ c ∧ c ≤ '9' then some (c.toNat - '0'.toNat)
  else if 'a' ≤ c ∧ c ≤ 'f' then some (c.toNat - 'a'.toNat + 10)
  else if 'A' ≤ c ∧ c ≤ 'F' then some (c.toNat - 'A'.toNat + 10)
  else none

/-- At least one digit of the base, and nothing else. -/
def natOfDigits? (base : Nat) (s : List Char) : Option Nat :=
  if s.isEmpty then none
  else s.foldl (fun acc c =>
    match acc, digitValue? c with
    | some n, some d => if d < base then some (n * base + d) else none
    | _, _ => none) (some 0)

/-- The greatest natural number of 64 bits. -/
def word64 : Nat := Nat.pow 2 64 - 1

/-- Digits, a plus sign before them allowed, of a number of 64 bits. -/
def word64? (s : List Char) : Option Nat :=
  let digits := match s with
    | '+' :: rest => rest
    | _ => s
  (natOfDigits? 10 digits).filter (· ≤ word64)

/-- The double nearest to `m * 10 ^ e`.  Magnitudes far outside the range of doubles are decided by
their number of digits, which keeps the powers of ten small. -/
def nearest (m : Nat) (e : Int) : Float :=
  let point : Int := (Nat.toDigits 10 m).length + e
  if m = 0 then 0.0
  else if 310 < point then 1.0 / 0.0
  else if point < -330 then 0.0
  else if 0 ≤ e then Float.ofScientific m false e.toNat
  else Float.ofScientific m true (-e).toNat

/-- A sign and digits after the letter that starts an exponent. -/
def exponent? (s : List Char) : Option Int :=
  match s with
  | '-' :: rest => (natOfDigits? 10 rest).map fun n => -(n : Int)
  | '+' :: rest => (natOfDigits? 10 rest).map Int.ofNat
  | _ => (natOfDigits? 10 s).map Int.ofNat

def isDigit (c : Char) : Bool := '0' ≤ c && c ≤ '9'

/-- A fraction without sign: digits on at least one side of an optional point, and an optional
exponent. -/
def fraction? (s : List Char) : Option Float :=
  let whole := s.takeWhile isDigit
  let rest := s.dropWhile isDigit
  let (places, rest) := match rest with
    | '.' :: rest => (rest.takeWhile isDigit, rest.dropWhile isDigit)
    | _ => ([], rest)
  let power := match rest with
    | [] => some 0
    | c :: rest => if c = 'e' ∨ c = 'E' then exponent? rest else none
  match natOfDigits? 10 (whole ++ places), power with
  | some m, some e => some (nearest m (e - places.length))
  | _, _ => none

/-- A fraction with an optional sign. -/
def signedFraction? : List Char → Option Float
  | '-' :: rest => (fraction? rest).map fun x => -x
  | '+' :: rest => fraction? rest
  | s => fraction? s

end Decimal
end Motif
