import Motif.Yaml.Place

/-!
Block scalars.  Their lines are indented alike, by an amount that the first line shows or that the
header states.  A literal scalar keeps its line breaks, a folded one turns single breaks between
lines that start without blank space into spaces.  The header also says what happens to the line
breaks at the end.
-/

namespace Motif
namespace Yaml
namespace Block

/-- What happens to the line breaks at the end: none stays, one stays, or all stay. -/
inductive Chomping where
  | strip
  | clip
  | keep
deriving DecidableEq

structure Header where
  chomping : Chomping
  /-- The indentation beyond the parent's, if it is stated. -/
  increment : Option Nat

def chomping? (p : Place) : Option Chomping :=
  if p.isAt '+' then some .keep else if p.isAt '-' then some .strip else none

/-- A digit that states an indentation, none if there is no digit.  Zero is refused. -/
def increment? (p : Place) : Option (Option Nat) :=
  match p.ahead.head? with
  | some c => if c == '0' then none else if c.isDigit then some (some (c.toNat - 48)) else some none
  | none => some none

/-- Reads the indicators behind the first one, in either order. -/
def readHeader (p : Place) : Option (Header × Place) := do
  let p ← p.look 1
  match chomping? p with
  | some chomping =>
    let p ← (p.skip 1).look 1
    match ← increment? p with
    | none => some (⟨chomping, none⟩, p)
    | increment => some (⟨chomping, increment⟩, p.skip 1)
  | none =>
    match ← increment? p with
    | none => some (⟨.clip, none⟩, p)
    | increment =>
      let p ← (p.skip 1).look 1
      match chomping? p with
      | some chomping => some (⟨chomping, increment⟩, p.skip 1)
      | none => some (⟨.clip, increment⟩, p)

/-- The spaces that belong to the indentation, which is not known while `indent` is none. -/
def indentation (indent : Option Nat) (p : Place) : Nat :=
  let spaces := (p.taken (· == ' ')).length
  match indent with
  | some n => min spaces (n - p.column)
  | none => spaces

/-- Whether the place is before the text of the line. -/
def isIndenting (indent : Option Nat) (p : Place) : Bool :=
  match indent with
  | some n => p.column < n
  | none => true

/-- Empty lines, as their line breaks and the greatest indentation among them. -/
structure EmptyLines where
  breaks : List Char
  widest : Nat
  place : Place

/-- Reads empty lines and the indentation of the line behind them.  A tab there is refused.  The
line breaks so far are given backwards. -/
def readEmptyLines (indent : Option Nat) :
    Nat → List Char → Nat → Place → Option EmptyLines
  | 0, breaks, widest, p => some ⟨breaks.reverse, widest, p⟩
  | fuel + 1, breaks, widest, p => do
    let p ← (p.skip (indentation indent p)).look 1
    let widest := max widest p.column
    if isIndenting indent p && p.isAt '\t' then none
    else match p.breakAhead? with
      | some (c, n) =>
        let p ← p.look 2
        readEmptyLines indent fuel (c :: breaks) widest (p.nextLine n)
      | none => some ⟨breaks.reverse, widest, p⟩

/-- The line break between two lines of text, with the empty lines that follow it. -/
def joint (isLiteral startsBlank : Bool) (leading : Option Char) (trailing : List Char) :
    List Char :=
  match leading with
  | none => trailing
  | some c =>
    if !isLiteral && c == '\n' && !startsBlank then
      if trailing.isEmpty then [' '] else trailing
    else c :: trailing

/-- The text so far, given backwards, and what stands behind its last line. -/
structure Lines where
  text : List Char
  /-- The break at the end of the last line. -/
  leading : Option Char
  trailing : List Char
  /-- Whether the last line starts with blank space. -/
  startsBlank : Bool

/-- Reads the lines that are indented by `indent`. -/
def readLines (isLiteral : Bool) (indent : Nat) : Nat → Lines → Place → Option (Lines × Place)
  | 0, l, p => some (l, p)
  | fuel + 1, l, p => do
    if p.column != indent || p.ahead.isEmpty then some (l, p)
    else
      let blank := (p.ahead.head?.map isGap).getD false
      let line := p.taken (!isBreak ·)
      let text := joint isLiteral (l.startsBlank || blank) l.leading l.trailing
      let text := line.reverse ++ (text.reverse ++ l.text)
      let p ← p.skipLine.look 2
      let (leading, p) := match p.breakAhead? with
        | some (c, n) => (some c, p.nextLine n)
        | none => (none, p)
      match readEmptyLines (some indent) p.bound [] 0 p with
      | none => none
      | some e => readLines isLiteral indent fuel ⟨text, leading, e.breaks, blank⟩ e.place

def chomped (c : Chomping) (l : Lines) : List Char :=
  let text := l.text.reverse
  match c with
  | .strip => text
  | .clip => text ++ l.leading.toList
  | .keep => text ++ l.leading.toList ++ l.trailing

/-- Reads a scalar behind its first indicator, inside a collection that is indented by `parent`,
or by nothing. -/
def read (isLiteral : Bool) (parent : Option Nat) (p : Place) : Option (List Char × Place) := do
  let (header, p) ← readHeader p
  let p ← p.endLine
  let stated := header.increment.map (parent.getD 0 + ·)
  let e ← readEmptyLines stated p.bound [] 0 p
  let least := match parent with
    | some n => n + 1
    | none => 1
  let indent := stated.getD (max e.widest least)
  let (l, p) ← readLines isLiteral indent p.bound ⟨[], none, e.breaks, false⟩ e.place
  some (chomped header.chomping l, p)

end Block
end Yaml
end Motif
