/-!
Arithmetic of confidences, which are doubles.  The lesser and the greater of two numbers ignore an
operand that is no number, a clamp lets it through, and the unit clamp turns it into zero.
-/

namespace Motif
namespace Confidence

/-- The lesser of two numbers, or the one that is a number. -/
def least (a b : Float) : Float :=
  if a.isNaN then b else if b < a then b else a

/-- The greater of two numbers, or the one that is a number. -/
def greatest (a b : Float) : Float :=
  if a.isNaN then b else if a < b then b else a

def clamp (lo hi x : Float) : Float :=
  if x < lo then lo else if hi < x then hi else x

def clampUnit (x : Float) : Float := if x.isNaN then 0.0 else clamp 0.0 1.0 x

/-- `x` raised by `delta`, which counts as zero when it is negative or no number. -/
def raised (x delta : Float) : Float := x + greatest delta 0.0

/-- The sum from left to right, from negative zero, which addition leaves alone. -/
def total (xs : List Float) : Float := xs.foldl (· + ·) (-0.0)

/-- Ascending order.  What is no number counts as equal to everything. -/
def order (a b : Float) : Ordering :=
  if a < b then .lt else if b < a then .gt else .eq

def ofNat (n : Nat) : Float := Float.ofNat n

/-- `k` out of `n`. -/
def ratio (k n : Nat) : Float := ofNat k / ofNat n

/-- The mean, zero for no values. -/
def average (xs : List Float) : Float :=
  if xs.isEmpty then 0.0 else total xs / ofNat xs.length

end Confidence
end Motif
