import Motif.Decimal.Shortest

/-!
Doubles as text.  A style says which magnitudes are written positionally and how the values that
are no number are spelled; the digits are always the shortest ones that read back.
-/

namespace Motif
namespace Decimal

structure Style where
  /-- Least and greatest place of the point, counted from before the first digit, that are written
  positionally.  Outside, an exponent is written. -/
  leastPoint : Option Int
  greatestPoint : Option Int
  /-- What follows a whole number. -/
  wholeMark : String
  nan : String
  infinity : String

def zeros (n : Nat) : String := String.ofList (List.replicate n '0')

/-- Digits with a point, without exponent. -/
def positional (mark : String) (d : Digits) : String :=
  let text := toString d.digits
  let point : Int := text.length + d.exponent
  if 0 ≤ d.exponent then text ++ zeros d.exponent.toNat ++ mark
  else if 0 < point then
    String.ofList (text.toList.take point.toNat) ++ "." ++
      String.ofList (text.toList.drop point.toNat)
  else "0." ++ zeros (-point).toNat ++ text

/-- One digit, a point if more follow, and a power of ten. -/
def scientific (d : Digits) : String :=
  let text := (toString d.digits).toList
  let power : Int := text.length + d.exponent - 1
  let fraction := text.drop 1
  String.ofList (text.take 1) ++ (if fraction.isEmpty then "" else "." ++ String.ofList fraction) ++
    "e" ++ toString power

namespace Style

def isPositional (s : Style) (point : Int) : Bool :=
  (match s.leastPoint with
    | some a => decide (a ≤ point)
    | none => true) &&
  (match s.greatestPoint with
    | some b => decide (point ≤ b)
    | none => true)

def digits (s : Style) (d : Digits) : String :=
  if s.isPositional ((toString d.digits).length + d.exponent) then positional s.wholeMark d
  else scientific d

def render (s : Style) (x : Float) : String :=
  match Shape.ofFloat x with
  | .nan => s.nan
  | .infinite negative => (if negative then "-" else "") ++ s.infinity
  | .finite negative m =>
    (if negative then "-" else "") ++
      (if m.mantissa = 0 then "0" ++ s.wholeMark else s.digits m.shortest)

end Style

/-- Numbers in running text: positional whatever the magnitude. -/
def plain : Style := ⟨none, none, "", "NaN", "inf"⟩

/-- `x` rounded to a whole number, a half to the even neighbour. -/
def rounded (x : Float) : String :=
  match Shape.ofFloat x with
  | .nan => "NaN"
  | .infinite negative => (if negative then "-" else "") ++ "inf"
  | .finite negative m =>
    let q := m.numerator / m.denominator
    let twice := 2 * (m.numerator % m.denominator)
    let up := m.denominator < twice || (twice == m.denominator && q % 2 == 1)
    (if negative then "-" else "") ++ toString (if up then q + 1 else q)

end Decimal
end Motif
