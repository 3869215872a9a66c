import Motif.Yaml.Block
import Motif.Yaml.Plain
import Motif.Yaml.Quoted
import Motif.Yaml.Tag

/-!
The tokens of a YAML stream.  Whether a scalar or a flow collection is a key shows only at the colon
behind it, on the same line and at most 1024 characters later.  Until then its place among the
tokens is remembered, and the tokens from that place on are not handed out.  Where the stream breaks
off in error, the tokens held back for the sake of a key are lost with it.
-/

namespace Motif
namespace Yaml

inductive Style where
  | plain
  | singleQuoted
  | doubleQuoted
  | literal
  | folded
deriving DecidableEq, Inhabited

inductive Token where
  | streamEnd
  | directive (d : Directive)
  | documentStart
  | documentEnd
  | blockSequenceStart
  | blockMappingStart
  | blockEnd
  | flowSequenceStart
  | flowSequenceEnd
  | flowMappingStart
  | flowMappingEnd
  | blockEntry
  | flowEntry
  | key
  | value
  | reference (name : String)
  | anchor (name : String)
  | tag (t : Tag)
  | scalar (text : String) (style : Style)
deriving DecidableEq

/-- A place where a key may turn out to have started. -/
structure Mark where
  /-- How many tokens come before it. -/
  number : Nat
  line : Nat
  column : Nat
  index : Nat
  /-- Whether nothing but a key can start there. -/
  isRequired : Bool

structure Scanner where
  place : Place
  /-- The tokens so far, backwards. -/
  tokens : List Token
  count : Nat
  /-- The number of open flow collections. -/
  depth : Nat
  /-- For each open flow collection, and for the block around them, where a key may have started;
  the innermost first.  Those at the end that have no such place may be missing. -/
  marks : List (Option Mark)
  /-- The columns of the open block collections, the innermost first. -/
  indents : List Nat
  /-- Whether a key may start here. -/
  allowsKey : Bool

namespace Scanner

def start (s : Stream) : Scanner :=
  { place := .start s, tokens := [], count := 0, depth := 0, marks := [], indents := []
    allowsKey := true }

def isFlow (s : Scanner) : Bool := 0 < s.depth

def column (s : Scanner) : Nat := s.place.column

def push (s : Scanner) (t : Token) : Scanner :=
  { s with tokens := t :: s.tokens, count := s.count + 1 }

/-- Puts tokens in behind the first `number`. -/
def insert (s : Scanner) (number : Nat) (ts : List Token) : Scanner :=
  let behind := s.count - number
  { s with
    tokens := s.tokens.take behind ++ ts.reverse ++ s.tokens.drop behind
    count := s.count + ts.length }

def move (s : Scanner) (place : Place) : Scanner := { s with place }

def allow (s : Scanner) (allowsKey : Bool) : Scanner := { s with allowsKey }

/-- Takes an indicator of `n` characters. -/
def take (s : Scanner) (n : Nat) (t : Token) : Scanner := (s.move (s.place.skip n)).push t

/-! ## Marks -/

/-- Marks with a place in front where no key may have started. -/
def unmarked : List (Option Mark) → List (Option Mark)
  | [] => []
  | marks => none :: marks

/-- Forgets where a key may have started, which is an error where there has to be one. -/
def unmark (s : Scanner) : Option Scanner :=
  match s.marks with
  | some m :: rest => if m.isRequired then none else some { s with marks := unmarked rest }
  | _ => some s

/-- Remembers that a key may start here. -/
def mark (s : Scanner) : Option Scanner :=
  if s.allowsKey then
    s.unmark.map fun s =>
      let m : Mark :=
        { number := s.count, line := s.place.line, column := s.column, index := s.place.index
          isRequired := !s.isFlow && s.indents.head? == some s.column }
      { s with marks := some m :: s.marks.tail }
  else some s

/-- Whether a key that started at the mark would have had to end by now. -/
def isStale (p : Place) (m : Mark) : Bool := m.line < p.line || m.index + 1024 < p.index

/-- The marks that satisfy `keep`, where those further out are missing. -/
def marksThat (keep : Mark → Bool) (marks : List (Option Mark)) : List (Option Mark) :=
  marks.foldr (fun m rest =>
    match m.filter keep with
    | some m => some m :: rest
    | none => unmarked rest) []

/-- Forgets all marks that are stale, which is an error where there has to be a key. -/
def unmarkStale (s : Scanner) : Option Scanner :=
  if s.marks.any fun m => m.any fun m => m.isRequired && isStale s.place m then none
  else if s.marks.any fun m => m.any (isStale s.place) then
    some { s with marks := marksThat (!isStale s.place ·) s.marks }
  else some s

/-- How many tokens come before the first place where a key may have started. -/
def settled (s : Scanner) : Nat :=
  s.marks.foldl (fun n m => match m with
    | some m => min n m.number
    | none => n) s.count

/-! ## Indentation -/

/-- Closes the block collections that are indented more than `column`, or all of them. -/
def unindent (s : Scanner) (column : Option Nat) : Scanner :=
  if s.isFlow then s
  else
    let closed := s.indents.takeWhile fun n => match column with
      | some c => c < n
      | none => true
    { s with
      tokens := List.replicate closed.length .blockEnd ++ s.tokens
      count := s.count + closed.length
      indents := s.indents.drop closed.length }

/-- Whether a block collection has to be opened at `column`. -/
def opensAt (s : Scanner) (column : Nat) : Bool :=
  !s.isFlow && match s.indents with
    | n :: _ => n < column
    | [] => true

/-- Opens a block collection at this column, if it is not open. -/
def indent (s : Scanner) (t : Token) : Scanner :=
  if s.opensAt s.column then { s with indents := s.column :: s.indents }.push t else s

/-! ## Single tokens -/

/-- The end of the stream counts as the end of its last line. -/
def streamEnd (s : Scanner) : Option Scanner :=
  let s := if s.column == 0 then s else s.move (s.place.nextLine 0)
  (s.unindent none).unmark.map fun s => (s.allow false).push .streamEnd

def directive (s : Scanner) : Option Scanner := do
  let s ← (s.unindent none).unmark
  let (d, p) ← Directive.read s.place
  some (((s.allow false).move p).push (.directive d))

def documentMarker (s : Scanner) (t : Token) : Option Scanner :=
  (s.unindent none).unmark.map fun s => (s.allow false).take 3 t

def openFlow (s : Scanner) (t : Token) : Option Scanner :=
  s.mark.map fun s =>
    ({ s with depth := s.depth + 1, marks := unmarked s.marks }.allow true).take 1 t

def closeFlow (s : Scanner) (t : Token) : Option Scanner :=
  s.unmark.map fun s =>
    let s := if s.isFlow then { s with depth := s.depth - 1, marks := s.marks.tail } else s
    (s.allow false).take 1 t

def flowEntry (s : Scanner) : Option Scanner :=
  s.unmark.map fun s => (s.allow true).take 1 .flowEntry

def blockEntry (s : Scanner) : Option Scanner :=
  if s.isFlow || s.allowsKey then
    (s.indent .blockSequenceStart).unmark.map fun s => (s.allow true).take 1 .blockEntry
  else none

def key (s : Scanner) : Option Scanner :=
  if s.isFlow || s.allowsKey then
    (s.indent .blockMappingStart).unmark.map fun s => (s.allow (!s.isFlow)).take 1 .key
  else none

/-- A colon makes a key of what started at the mark, or else stands behind a key of its own. -/
def value (s : Scanner) : Option Scanner :=
  match s.marks with
  | some m :: rest =>
    let s := { s with marks := unmarked rest }
    let s :=
      if s.opensAt m.column then
        { s with indents := m.column :: s.indents }.insert m.number [.blockMappingStart, .key]
      else s.insert m.number [.key]
    some ((s.allow false).take 1 .value)
  | _ =>
    if s.isFlow || s.allowsKey then
      some (((s.indent .blockMappingStart).allow (!s.isFlow)).take 1 .value)
    else none

/-- A name behind an asterisk or an ampersand. -/
def name (s : Scanner) (make : String → Token) : Option Scanner :=
  s.mark.bind fun s =>
    let name := (s.place.skip 1).taken isNameChar
    ((s.place.skip (1 + name.length)).look 1).bind fun p =>
      let isEnded := atGapOrEnd p.ahead || ['?', ':', ',', ']', '\x7d', '%', '@', '\x60'].any p.isAt
      if name.isEmpty || !isEnded then none
      else some (((s.allow false).move p).push (make (String.ofList name)))

def tag (s : Scanner) : Option Scanner :=
  s.mark.bind fun s =>
    (Tag.read s.isFlow s.place).map fun (t, p) => ((s.allow false).move p).push (.tag t)

def block (s : Scanner) (isLiteral : Bool) : Option Scanner :=
  s.unmark.bind fun s =>
    (Block.read isLiteral s.indents.head? (s.place.skip 1)).map fun (text, p) =>
      ((s.allow true).move p).push
        (.scalar (String.ofList text) (if isLiteral then .literal else .folded))

def quoted (s : Scanner) (quote : Char) : Option Scanner :=
  s.mark.bind fun s =>
    (Quoted.read quote s.place).map fun (text, p) =>
      ((s.allow false).move p).push
        (.scalar (String.ofList text) (if quote == '"' then .doubleQuoted else .singleQuoted))

def plain (s : Scanner) : Option Scanner :=
  s.mark.bind fun s =>
    let least := match s.indents with
      | n :: _ => n + 1
      | [] => 0
    (Plain.read s.isFlow least s.place).map fun r =>
      ((s.allow r.endsLine).move r.place).push (.scalar (String.ofList r.text) .plain)

/-! ## Between the tokens -/

/-- Passes blank space, comments and line breaks.  Tabs count as blank space only where no key may
start.  Fewer than `fuel` lines are passed. -/
def skipBlank : Nat → Scanner → Option Scanner
  | 0, _ => none
  | fuel + 1, s => do
    let p ← s.place.look 1
    let p := if p.column == 0 && p.isAt '\ufeff' then p.skip 1 else p
    let p ← (p.skipWhile fun c => c == ' ' || ((s.isFlow || !s.allowsKey) && c == '\t')).look 1
    let p ← (if p.isAt '#' then p.skipLine else p).look 1
    match p.breakAhead? with
    | some (_, n) =>
      let p ← p.look 2
      skipBlank fuel ((s.move (p.nextLine n)).allow (!s.isFlow || s.allowsKey))
    | none => some (s.move p)

/-- Whether a scalar without quotes can start here. -/
def startsPlain (isFlow : Bool) : List Char → Bool
  | [] => false
  | c :: rest =>
    !(isGap c || isBreak c || indicators.contains c) ||
      (c == '-' && !(rest.head?.map isGap).getD false) ||
      (!isFlow && (c == '?' || c == ':') && !atGapOrEnd rest)

/-- The next token, behind blank space. -/
def next (s : Scanner) : Option Scanner :=
  match s.place.ahead with
  | [] => s.streamEnd
  | c :: rest =>
    let starts := s.column == 0
    let ends := atGapOrEnd rest
    if starts && c == '%' then s.directive
    else if starts && isMarker '-' s.place.ahead then s.documentMarker .documentStart
    else if starts && isMarker '.' s.place.ahead then s.documentMarker .documentEnd
    else if c == '[' then s.openFlow .flowSequenceStart
    else if c == '\x7b' then s.openFlow .flowMappingStart
    else if c == ']' then s.closeFlow .flowSequenceEnd
    else if c == '\x7d' then s.closeFlow .flowMappingEnd
    else if c == ',' then s.flowEntry
    else if c == '-' && ends then s.blockEntry
    else if c == '?' && (s.isFlow || ends) then s.key
    else if c == ':' && (s.isFlow || ends) then s.value
    else if c == '*' then s.name .reference
    else if c == '&' then s.name .anchor
    else if c == '!' then s.tag
    else if c == '|' && !s.isFlow then s.block true
    else if c == '>' && !s.isFlow then s.block false
    else if c == '\'' || c == '"' then s.quoted c
    else if startsPlain s.isFlow s.place.ahead then s.plain
    else none

/-- Reads one more token.  What may be no key any more is sorted out before and after.  The longest
indicator with the blank space behind it takes four characters. -/
def step (s : Scanner) : Option Scanner := do
  let s ← s.skipBlank s.place.bound
  let s ← s.unmarkStale
  let p ← s.place.look 4
  let s ← ((s.move p).unindent (some s.column)).next
  s.unmarkStale

end Scanner

/-- The tokens of a stream, and whether it breaks off in error. -/
structure Tokens where
  tokens : List Token
  isBroken : Bool

namespace Tokens

/-- The first `n` tokens of a stream that breaks off. -/
def brokenOff (s : Scanner) (n : Nat) : Tokens := ⟨s.tokens.reverse.take n, true⟩

/-- Reads on to the end.  Every token takes a character, so `fuel` need not exceed their number. -/
def scanFrom : Nat → Scanner → Tokens
  | 0, s => brokenOff s s.settled
  | fuel + 1, s =>
    match s.step with
    | none => brokenOff s s.settled
    | some t =>
      if t.tokens.head? = some .streamEnd then ⟨t.tokens.reverse, false⟩ else scanFrom fuel t

def scan (s : Stream) : Tokens := scanFrom (s.text.length + 1) (.start s)

end Tokens
end Yaml
end Motif
