import Motif.Yaml.Stream

/-!
Places in a YAML stream: what is ahead, and where in its line the place is.  Readers look at some
characters ahead before they decide, and fail where these are not there because the stream is cut.
-/

namespace Motif
namespace Yaml

structure Place where
  ahead : List Char
  line : Nat
  column : Nat
  index : Nat
  /-- Whether what follows `ahead` was refused. -/
  isCut : Bool
  /-- The number of characters of the stream. -/
  size : Nat
  ahead_le_size : ahead.length ≤ size

namespace Place

def start (s : Stream) : Place :=
  { ahead := s.text, line := 0, column := 0, index := 0, isCut := s.isCut
    size := s.text.length, ahead_le_size := Nat.le_refl _ }

/-- More than there are characters ahead, whatever the place. -/
def bound (p : Place) : Nat := p.size + 1

theorem length_ahead_lt_bound (p : Place) : p.ahead.length < p.bound :=
  Nat.lt_succ_of_le p.ahead_le_size

/-- Looks at `n` characters ahead, or at all up to the end of the stream. -/
def look (p : Place) (n : Nat) : Option Place :=
  if p.isCut && (p.ahead.take n).length < n then none else some p

/-- Passes `n` characters of the line. -/
def skip (p : Place) (n : Nat) : Place :=
  { p with
    ahead := p.ahead.drop n, column := p.column + n, index := p.index + n
    ahead_le_size := Nat.le_trans (by simp) p.ahead_le_size }

/-- The line break ahead, as it is kept in text, and the number of its characters. -/
def breakAhead? (p : Place) : Option (Char × Nat) :=
  match p.ahead with
  | '\r' :: '\n' :: _ => some ('\n', 2)
  | c :: _ => if isSeparator c then some (c, 1) else if isBreak c then some ('\n', 1) else none
  | [] => none

/-- Passes a line break of `n` characters. -/
def nextLine (p : Place) (n : Nat) : Place :=
  { p with
    ahead := p.ahead.drop n, line := p.line + 1, column := 0, index := p.index + n
    ahead_le_size := Nat.le_trans (by simp) p.ahead_le_size }

/-- Passes the characters of the line that satisfy `f`. -/
def skipWhile (p : Place) (f : Char → Bool) : Place := p.skip (p.ahead.takeWhile f).length

def taken (p : Place) (f : Char → Bool) : List Char := p.ahead.takeWhile f

/-- Passes the rest of the line. -/
def skipLine (p : Place) : Place := p.skipWhile (!isBreak ·)

/-- The character `n` places ahead. -/
def peek (p : Place) (n : Nat) : Option Char := p.ahead[n]?

def isAt (p : Place) (c : Char) : Bool := p.ahead.head? == some c

/-- Passes the line break ahead, if there is one. -/
def skipBreak (p : Place) : Option Place :=
  match p.breakAhead? with
  | some (_, n) => (p.look 2).map (·.nextLine n)
  | none => some p

/-- Passes blank space and a comment up to the end of the line, and the line break. -/
def endLine (p : Place) : Option Place := do
  let p ← (p.skipWhile isGap).look 1
  let p ← (if p.isAt '#' then p.skipLine else p).look 1
  if atBreakOrEnd p.ahead then p.skipBreak else none

end Place

/-! ## Blank space inside scalars -/

/-- Blank space inside a scalar: spaces of one line, or line breaks and the spaces around them. -/
structure Gap where
  /-- The spaces, backwards. -/
  spaces : List Char
  /-- Whether the line has ended. -/
  isBroken : Bool
  /-- The first line break, unless it was escaped. -/
  first : Option Char
  /-- The further line breaks, backwards. -/
  more : List Char

namespace Gap

/-- Blank space at the start, the line having ended already if `isBroken`. -/
def start (isBroken : Bool) : Gap := ⟨[], isBroken, none, []⟩

/-- What is left of the blank space: spaces stay, a single line break becomes a space, and of
several line breaks the first is dropped. -/
def text (g : Gap) : List Char :=
  if !g.isBroken then g.spaces.reverse
  else match g.first with
    | some '\n' => if g.more.isEmpty then [' '] else g.more.reverse
    | some c => c :: g.more.reverse
    | none => g.more.reverse

/-- Reads blank space, fewer than `fuel` characters.  A tab before column `least` of a new line is
refused. -/
def read (least : Nat) : Nat → Gap → Place → Option (Gap × Place)
  | 0, _, _ => none
  | fuel + 1, g, p => do
    let p ← p.look 1
    match p.breakAhead? with
    | some (c, n) =>
      let p ← p.look 2
      if g.isBroken then read least fuel { g with more := c :: g.more } (p.nextLine n)
      else read least fuel ⟨[], true, some c, g.more⟩ (p.nextLine n)
    | none =>
      match p.ahead with
      | c :: _ =>
        if !isGap c then some (g, p)
        else if g.isBroken then
          if c == '\t' && p.column < least then none else read least fuel g (p.skip 1)
        else read least fuel { g with spaces := c :: g.spaces } (p.skip 1)
      | [] => some (g, p)

end Gap
end Yaml
end Motif
