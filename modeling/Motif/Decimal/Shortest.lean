/-!
The fewest decimal digits that read back as a given double.  A finite double is `mantissa * 2 ^
exponent`, and the reals that round to it form an interval whose ends belong to it when the
mantissa is even.  For one digit, two digits and so on, the two neighbours of the value on that
decimal grid are tested by exact comparison of natural numbers.  The first grid with a neighbour in
the interval wins, and of two such neighbours the nearer, at a tie the even one.
-/

namespace Motif
namespace Decimal

/-- The magnitude of a finite double. -/
structure Dyadic where
  mantissa : Nat
  exponent : Int

/-- A sign and a magnitude, or one of the values that are no number. -/
inductive Shape where
  | nan
  | infinite (negative : Bool)
  | finite (negative : Bool) (magnitude : Dyadic)

def isNegative (x : Float) : Bool := x.toBits >>> 63 == 1

def Shape.ofFloat (x : Float) : Shape :=
  let bits := x.toBits.toNat
  let fraction := bits % Nat.pow 2 52
  let biased : Nat := bits / Nat.pow 2 52 % Nat.pow 2 11
  if biased = 2047 then
    if fraction = 0 then .infinite (isNegative x) else .nan
  else if biased = 0 then .finite (isNegative x) ⟨fraction, -1074⟩
  else .finite (isNegative x) ⟨Nat.pow 2 52 + fraction, (biased : Int) - 1075⟩

/-- The value `digits * 10 ^ exponent`. -/
structure Digits where
  digits : Nat
  exponent : Int
deriving DecidableEq

def countDigits (n : Nat) : Nat := (Nat.toDigits 10 n).length

namespace Dyadic

def numerator (d : Dyadic) : Nat := d.mantissa * Nat.pow 2 d.exponent.toNat

def denominator (d : Dyadic) : Nat := Nat.pow 2 (-d.exponent).toNat

/-- The power of ten just above the value, for a value that is not zero. -/
def magnitude (d : Dyadic) : Int :=
  if d.denominator ≤ d.numerator then countDigits (d.numerator / d.denominator)
  else 1 - countDigits (d.denominator / d.numerator)

/-- Compares `x * 2 ^ (d.exponent - 2)` with `c * 10 ^ e`. -/
def compareQuarters (d : Dyadic) (x c : Nat) (e : Int) : Ordering :=
  let u := d.exponent - 2
  compare (x * (Nat.pow 2 u.toNat * Nat.pow 10 (-e).toNat))
    (c * (Nat.pow 2 (-u).toNat * Nat.pow 10 e.toNat))

/-- Whether `c * 10 ^ e` rounds to the value.  The gap below a power of two is half as wide. -/
def accepts (d : Dyadic) (c : Nat) (e : Int) : Bool :=
  let low := 4 * d.mantissa - (if d.mantissa = Nat.pow 2 52 ∧ -1074 < d.exponent then 1 else 2)
  let high := 4 * d.mantissa + 2
  let even := d.mantissa % 2 = 0
  (match d.compareQuarters low c e with
    | .lt => true
    | .eq => even
    | .gt => false) &&
  (match d.compareQuarters high c e with
    | .gt => true
    | .eq => even
    | .lt => false)

/-- The largest multiple of `10 ^ e` that is not above the value, counted in that unit. -/
def floorAt (d : Dyadic) (e : Int) : Nat :=
  d.numerator * Nat.pow 10 (-e).toNat / (d.denominator * Nat.pow 10 e.toNat)

/-- Of two neighbours on a grid, both in the interval, the nearer one. -/
def nearer (d : Dyadic) (c : Nat) (e : Int) : Nat :=
  match d.compareQuarters (8 * d.mantissa) (2 * c + 1) e with
  | .lt => c
  | .gt => c + 1
  | .eq => if c % 2 = 0 then c else c + 1

def onGrid (d : Dyadic) (e : Int) : Option Digits :=
  let c := d.floorAt e
  match d.accepts c e && c != 0, d.accepts (c + 1) e with
  | true, true => some ⟨d.nearer c e, e⟩
  | true, false => some ⟨c, e⟩
  | false, true => some ⟨c + 1, e⟩
  | false, false => none

end Dyadic

/-- Moves the zeros at the end of the digits into the exponent, at most `fuel` of them. -/
def Digits.trim : Nat → Digits → Digits
  | 0, d => d
  | fuel + 1, d =>
    if d.digits ≠ 0 ∧ d.digits % 10 = 0 then trim fuel ⟨d.digits / 10, d.exponent + 1⟩ else d

/-- The shortest digits of a value that is not zero; seventeen digits always suffice. -/
def Dyadic.shortest (d : Dyadic) : Digits :=
  let k := d.magnitude
  let grids := (List.range 17).map fun n => k - (n + 1 : Nat)
  match grids.findSome? d.onGrid with
  | some r => r.trim 18
  | none => ⟨d.floorAt (k - 17), k - 17⟩

end Decimal
end Motif
