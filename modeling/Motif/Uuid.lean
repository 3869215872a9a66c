import Motif.Decimal.Numeral

/-!
Identifiers of 32 hexadecimal digits.  They are written in small letters, in groups of 8, 4, 4, 4
and 12 with hyphens between.
-/

namespace Motif

structure Uuid where
  digits : List (Fin 16)
  size : digits.length = 32
deriving DecidableEq

namespace Uuid

def zero : Uuid := ⟨List.replicate 32 0, by simp⟩

instance : Inhabited Uuid := ⟨zero⟩

/-- The last `count` hexadecimal digits of a number. -/
def lastDigits (n : Nat) : Nat → List (Fin 16)
  | 0 => []
  | count + 1 => lastDigits (n / 16) count ++ [⟨n % 16, Nat.mod_lt _ (by decide)⟩]

theorem length_lastDigits (n count : Nat) : (lastDigits n count).length = count := by
  induction count generalizing n with
  | zero => rfl
  | succ count ih => simp [lastDigits, ih]

def ofNat (n : Nat) : Uuid := ⟨lastDigits n 32, length_lastDigits n 32⟩

/-- An identifier of version 4, made of random bits: the thirteenth digit states the version, and
two bits of the seventeenth are fixed. -/
def random (n : Nat) : Uuid :=
  let u := ofNat n
  ⟨(u.digits.set 12 4).modify 16 fun d => 8 + d % 4, by simp [u.size]⟩

def digitChar (d : Fin 16) : Char := Nat.digitChar d

/-- Sets hyphens between groups of the given sizes, the rest being the last group. -/
def grouped : List Nat → List Char → List Char
  | [], s => s
  | n :: sizes, s => s.take n ++ '-' :: grouped sizes (s.drop n)

def groups : List Nat := [8, 4, 4, 4]

def render (u : Uuid) : String := String.ofList (grouped groups (u.digits.map digitChar))

/-- Takes hyphens out again, if they stand where they should. -/
def ungrouped? : List Nat → List Char → Option (List Char)
  | [], s => some s
  | n :: sizes, s =>
    match s.drop n with
    | '-' :: rest => (ungrouped? sizes rest).map (s.take n ++ ·)
    | _ => none

def digit? (c : Char) : Option (Fin 16) :=
  match Decimal.digitValue? c with
  | some n => if h : n < 16 then some ⟨n, h⟩ else none
  | none => none

def ofDigits? (s : List Char) : Option Uuid :=
  match s.mapM digit? with
  | some ds => if h : ds.length = 32 then some ⟨ds, h⟩ else none
  | none => none

/-- With hyphens, without them, or with hyphens and in braces or behind a URN prefix. -/
def parse? (s : String) : Option Uuid :=
  let cs := s.toList
  let hyphenated (t : List Char) := (ungrouped? groups t).bind ofDigits?
  if cs.length = 32 then ofDigits? cs
  else if cs.length = 36 then hyphenated cs
  else if cs.length = 38 ∧ cs.head? = some '\x7b' ∧ cs.getLast? = some '\x7d' then
    hyphenated (cs.drop 1).dropLast
  else if cs.length = 45 ∧ cs.take 9 = "urn:uuid:".toList then hyphenated (cs.drop 9)
  else none

end Uuid
end Motif
