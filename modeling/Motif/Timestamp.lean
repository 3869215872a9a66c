import Motif.Date

/-!
Points in time to the nanosecond, kept in universal time.  They are written with the letter Z and as
many groups of three fraction digits as are needed.
-/

namespace Motif

/-- A minute of a day. -/
structure Minute where
  date : Date
  hour : Nat
  minute : Nat
deriving DecidableEq

namespace Minute

def isValid (m : Minute) : Bool := m.date.isValid && m.hour < 24 && m.minute < 60

/-- The minute `offset` minutes earlier, where an offset is less than a day. -/
def minus (m : Minute) (offset : Int) : Minute :=
  let t : Int := m.hour * 60 + m.minute - offset
  let at' (d : Date) (t : Int) : Minute := ⟨d, t.toNat / 60, t.toNat % 60⟩
  if t < 0 then at' m.date.previous (t + 1440)
  else if t < 1440 then at' m.date t
  else at' m.date.next (t - 1440)

end Minute

/-- The second 60 is a leap second. -/
structure Timestamp where
  clock : Minute
  second : Nat
  nanos : Nat
  valid : (clock.isValid && second ≤ 60 && nanos < 1000000000) = true
deriving DecidableEq

namespace Timestamp

def ofParts? (clock : Minute) (second nanos : Nat) : Option Timestamp :=
  if h : (clock.isValid && second ≤ 60 && nanos < 1000000000) = true then
    some ⟨clock, second, nanos, h⟩
  else none

def epoch : Timestamp := ⟨⟨⟨1970, 1, 1⟩, 0, 0⟩, 0, 0, by decide⟩

instance : Inhabited Timestamp := ⟨epoch⟩

/-- The point in time that is `n` nanoseconds after the epoch, while there are days. -/
def ofNanos (n : Nat) : Timestamp :=
  let seconds := n / 1000000000
  let clock : Minute := ⟨.ofDays (seconds / 86400), seconds / 3600 % 24, seconds / 60 % 60⟩
  (ofParts? clock (seconds % 60) (n % 1000000000)).getD epoch

/-- The last `count` decimal digits of a number. -/
def padded (n : Nat) : Nat → List Char
  | 0 => []
  | count + 1 => padded (n / 10) count ++ [Nat.digitChar (n % 10)]

/-- Four digits, or a sign and as many as are needed, four at least. -/
def year (y : Int) : List Char :=
  if 0 ≤ y ∧ y ≤ 9999 then padded y.toNat 4
  else (if y < 0 then '-' else '+') :: padded y.natAbs (max 4 (Nat.toDigits 10 y.natAbs).length)

def fraction (nanos : Nat) : List Char :=
  if nanos = 0 then []
  else if nanos % 1000000 = 0 then '.' :: padded (nanos / 1000000) 3
  else if nanos % 1000 = 0 then '.' :: padded (nanos / 1000) 6
  else '.' :: padded nanos 9

def render (t : Timestamp) : String :=
  let d := t.clock.date
  String.ofList <|
    year d.year ++ '-' :: padded d.month 2 ++ '-' :: padded d.day 2 ++
    'T' :: padded t.clock.hour 2 ++ ':' :: padded t.clock.minute 2 ++ ':' :: padded t.second 2 ++
    fraction t.nanos ++ ['Z']

end Timestamp
end Motif
