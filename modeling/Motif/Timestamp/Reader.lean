import Motif.Decimal.Numeral
import Motif.Text.Blank
import Motif.Timestamp

/-!
Reading points in time: a date, a time of day and an offset from universal time.  Every number but a
year with a sign may have fewer digits than when it is written, and blank space may stand before
every number, before the marks between numbers, and around the offset.
-/

namespace Motif
namespace Timestamp

/-- The digits at the start of the text, at least one and at most `most`. -/
def digits? (most : Nat) (s : List Char) : Option (Nat × List Char) :=
  let digits := (s.take most).takeWhile Decimal.isDigit
  (Decimal.natOfDigits? 10 digits).map (·, s.drop digits.length)

/-- A number of one or two digits. -/
def number? (s : List Char) : Option (Nat × List Char) := digits? 2 (Text.trimStart s)

/-- A year has four digits at most, unless it has a sign. -/
def year? (s : List Char) : Option (Int × List Char) :=
  match Text.trimStart s with
  | '-' :: rest => (digits? rest.length rest).map fun (n, rest) => (-(n : Int), rest)
  | '+' :: rest => (digits? rest.length rest).map fun (n, rest) => ((n : Int), rest)
  | rest => (digits? 4 rest).map fun (n, rest) => ((n : Int), rest)

/-- The number behind a mark. -/
def behind? (mark : Char) (s : List Char) : Option (Nat × List Char) :=
  match Text.trimStart s with
  | c :: rest => if c = mark then number? rest else none
  | [] => none

def date? (s : List Char) : Option (Date × List Char) := do
  let (year, s) ← year? s
  let (month, s) ← behind? '-' s
  let (day, s) ← behind? '-' s
  some (⟨year, month, day⟩, s)

/-- What stands between the date and the time of day. -/
def isDivider (c : Char) : Bool := c == 'T' || c == 't' || c == ' '

/-- Nine digits of a fraction, filled up with zeros or cut off. -/
def nanosOf (places : List Char) : Option Nat :=
  Decimal.natOfDigits? 10 ((places ++ List.replicate 9 '0').take 9)

def fraction? : List Char → Option (Nat × List Char)
  | '.' :: rest =>
    let places := rest.takeWhile Decimal.isDigit
    if places.isEmpty then none else (nanosOf places).map (·, rest.drop places.length)
  | s => some (0, s)

/-- A number of two digits. -/
def pair? : List Char → Option (Nat × List Char)
  | a :: b :: rest => (Decimal.natOfDigits? 10 [a, b]).map (·, rest)
  | _ => none

def sign? (c : Char) : Option Int :=
  if c = '+' then some 1 else if c = '-' ∨ c = '\u2212' then some (-1) else none

/-- The offset from universal time in minutes.  Between hours and minutes may stand any colons. -/
def offset? (s : List Char) : Option (Int × List Char) :=
  if (s.take 3).map Char.toUpper = ['U', 'T', 'C'] then some (0, s.drop 3)
  else match s with
  | [] => none
  | c :: rest =>
    if c = 'Z' ∨ c = 'z' then some (0, rest)
    else do
      let sign ← sign? c
      let (hours, rest) ← pair? rest
      let (minutes, rest) ← pair? (rest.dropWhile fun c => c == ':' || Text.isBlank c)
      if hours < 24 ∧ minutes < 60 then some (sign * (hours * 60 + minutes), rest) else none

def parse? (s : String) : Option Timestamp := do
  let (date, s) ← date? s.toList
  let (hour, s) ← if (s.head?.map isDivider).getD false then number? (s.drop 1) else none
  let (minute, s) ← behind? ':' s
  let (second, s) ← behind? ':' s
  let (nanos, s) ← fraction? s
  let (offset, s) ← offset? (Text.trimStart s)
  let clock : Minute := ⟨date, hour, minute⟩
  if clock.isValid ∧ Text.isAllBlank s then ofParts? (clock.minus offset) second nanos else none

end Timestamp
end Motif
