import Motif.Decimal.Numeral

/-!
What scalars without quotes stand for: nothing, a truth value, a whole number, a fraction, or else
just a text.
-/

namespace Motif
namespace Yaml
namespace Scalar

def isNull (s : String) : Bool := ["null", "Null", "NULL", "~"].contains s

def isTruth (s : String) : Bool :=
  ["true", "True", "TRUE", "false", "False", "FALSE"].contains s

/-- Whether there are only digits, a sign before them allowed, with a zero too many in front. -/
def isPadded (s : List Char) : Bool :=
  let digits := match s with
    | '+' :: rest => rest
    | '-' :: rest => rest
    | _ => s
  1 < digits.length && digits.head? == some '0' && digits.all Decimal.isDigit

/-- A number without sign, in the base that its first two characters state. -/
def magnitude? : List Char → Option Nat
  | '0' :: 'x' :: digits => Decimal.natOfDigits? 16 digits
  | '0' :: 'o' :: digits => Decimal.natOfDigits? 8 digits
  | '0' :: 'b' :: digits => Decimal.natOfDigits? 2 digits
  | digits => if isPadded digits then none else Decimal.natOfDigits? 10 digits

/-- A whole number that is not negative. -/
def natural? (s : String) : Option Nat :=
  match s.toList with
  | '+' :: digits => magnitude? digits
  | digits => magnitude? digits

/-- Whole numbers are told from texts up to 128 bits. -/
def isInteger (s : String) : Bool :=
  match s.toList with
  | '-' :: digits => (magnitude? digits).any (· ≤ Nat.pow 2 127)
  | _ => (natural? s).any (· < Nat.pow 2 128)

def infinity : Float := 1.0 / 0.0

def notNumber : Float := 0.0 / 0.0

def real? (s : String) : Option Float :=
  if [".inf", ".Inf", ".INF", "+.inf", "+.Inf", "+.INF"].contains s then some infinity
  else if ["-.inf", "-.Inf", "-.INF"].contains s then some (-infinity)
  else if [".nan", ".NaN", ".NAN"].contains s then some notNumber
  else (Decimal.signedFraction? s.toList).filter Float.isFinite

/-- Whether a text without quotes would stand for something else. -/
def isAmbiguous (s : String) : Bool :=
  s.isEmpty || isNull s || isTruth s || isInteger s || isPadded s.toList || (real? s).isSome

end Scalar
end Yaml
end Motif
