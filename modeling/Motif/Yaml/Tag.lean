import Motif.Decimal.Numeral
import Motif.Yaml.Place

/-!
Tags and directives.  A tag is written in full between angle brackets, or as a handle that a
directive declares and a suffix.
-/

namespace Motif
namespace Yaml

structure Tag where
  handle : String
  suffix : String
deriving DecidableEq, Inhabited

inductive Directive where
  | version (major minor : Nat)
  | handle (name replacement : String)
deriving DecidableEq

namespace Tag

/-- A character of a URI, flow indicators apart. -/
def isUriChar (c : Char) : Bool :=
  isNameChar c || [';', '/', '?', ':', '@', '&', '=', '+', '$', '.', '%', '!', '~', '*', '\'', '(',
    ')'].contains c

/-- The number of bytes of a character, by its first byte. -/
def byteCount? (b : Nat) : Option Nat :=
  if b < 0x80 then some 1
  else if b / 0x20 = 0x6 then some 2
  else if b / 0x10 = 0xE then some 3
  else if b / 0x8 = 0x1E then some 4
  else none

/-- A byte that is written as a percent sign and two hexadecimal digits. -/
def escapedByte? : List Char → Option (Nat × List Char)
  | '%' :: a :: b :: rest => (Decimal.natOfDigits? 16 [a, b]).map (·, rest)
  | _ => none

/-- Reads `count` bytes behind the first one of a character. -/
def moreBytes? : Nat → Nat → List Char → Option (Nat × List Char)
  | 0, value, s => some (value, s)
  | count + 1, value, s =>
    match escapedByte? s with
    | some (b, rest) =>
      if b / 0x40 = 0x2 then moreBytes? count (value * 0x40 + b % 0x40) rest else none
    | none => none

/-- The character with a number that takes `count` bytes, or else the replacement character. -/
def charOf (count value : Nat) : Char :=
  let c := Char.ofNat value
  if c.toNat = value ∧ c.utf8Size = count then c else '\ufffd'

/-- A character written by its bytes. -/
def escapedChar? (s : List Char) : Option (Char × List Char) := do
  let (b, rest) ← escapedByte? s
  let count ← byteCount? b
  let first := if count = 1 then b else b % Nat.pow 2 (7 - count)
  let (value, rest) ← moreBytes? (count - 1) first rest
  some (charOf count value, rest)

/-- Reads a URI.  The text so far is given backwards. -/
def readUri (isVerbatim : Bool) : Nat → List Char → Place → Option (List Char × Place)
  | 0, _, _ => none
  | fuel + 1, text, p => do
    let p ← p.look 1
    match p.ahead with
    | '%' :: _ =>
      match escapedChar? p.ahead with
      | some (c, rest) =>
        readUri isVerbatim fuel (c :: text) (p.skip (p.ahead.length - rest.length))
      | none => none
    | c :: _ =>
      if isUriChar c || (isVerbatim && [',', '[', ']'].contains c) then
        readUri isVerbatim fuel (c :: text) (p.skip 1)
      else some (text.reverse, p)
    | [] => some (text.reverse, p)

def uri? (isVerbatim : Bool) (text : List Char) (p : Place) : Option (List Char × Place) :=
  readUri isVerbatim p.bound text.reverse p

/-- The part of a URI that counts, which is up to the first character with the number zero. -/
def effective (uri : List Char) : String := String.ofList (uri.takeWhile (· != '\x00'))

/-- A handle: an exclamation mark, and a name with another one if that is there. -/
def handle? (p : Place) : Option (List Char × Place) := do
  let p ← p.look 1
  if p.isAt '!' then
    let name := (p.skip 1).taken isNameChar
    let p ← (p.skip (1 + name.length)).look 1
    if p.isAt '!' then some ('!' :: name ++ ['!'], p.skip 1) else some ('!' :: name, p)
  else none

/-- Behind a tag has to be blank space, or a comma inside a flow collection. -/
def isEnded (isFlow : Bool) (p : Place) : Bool := atGapOrEnd p.ahead || (isFlow && p.isAt ',')

def readVerbatim (p : Place) : Option (Tag × Place) := do
  let (suffix, q) ← uri? true [] (p.skip 2)
  if suffix.isEmpty || !q.isAt '>' then none else some (⟨"", effective suffix⟩, q.skip 1)

def readShort (p : Place) : Option (Tag × Place) := do
  let (name, q) ← handle? p
  if 1 < name.length && name.getLast? = some '!' then
    let (suffix, q) ← uri? false [] q
    if suffix.isEmpty then none else some (⟨String.ofList name, effective suffix⟩, q)
  else
    let (suffix, q) ← uri? false (name.drop 1) q
    let suffix := effective suffix
    some (if suffix.isEmpty then ⟨"", "!"⟩ else ⟨"!", suffix⟩, q)

def read (isFlow : Bool) (p : Place) : Option (Tag × Place) := do
  let p ← p.look 2
  let (tag, q) ← if p.peek 1 = some '<' then readVerbatim p else readShort p
  let q ← q.look 1
  if isEnded isFlow q then some (tag, q) else none

end Tag

namespace Directive

/-- A number of at most nine digits. -/
def number? (p : Place) : Option (Nat × Place) := do
  let digits := p.taken Decimal.isDigit
  let q ← (p.skip digits.length).look 1
  if digits.length ≤ 9 then (Decimal.natOfDigits? 10 digits).map (·, q) else none

def readVersion (p : Place) : Option (Directive × Place) := do
  let p ← (p.skipWhile isGap).look 1
  let (major, p) ← number? p
  if p.isAt '.' then
    let (minor, p) ← number? (p.skip 1)
    some (version major minor, p)
  else none

def readHandle (p : Place) : Option (Directive × Place) := do
  let p ← (p.skipWhile isGap).look 1
  let (name, p) ← Tag.handle? p
  let p ← p.look 1
  let isHandle := name.length = 1 || name.getLast? = some '!'
  if isHandle && (p.ahead.head?.map isGap).getD false then
    let p ← (p.skipWhile isGap).look 1
    let (replacement, p) ← Tag.uri? true [] p
    if !replacement.isEmpty && atGapOrEnd p.ahead then
      some (handle (String.ofList name) (Tag.effective replacement), p)
    else none
  else none

/-- Reads a directive from its percent sign to the end of its line. -/
def read (p : Place) : Option (Directive × Place) := do
  let name := (p.skip 1).taken isNameChar
  let p ← (p.skip (1 + name.length)).look 1
  if !atGapOrEnd p.ahead then none
  else
    let (d, p) ←
      if name = "YAML".toList then readVersion p
      else if name = "TAG".toList then readHandle p
      else none
    let p ← p.endLine
    some (d, p)

end Directive
end Yaml
end Motif
