import Motif.Decimal.Numeral
import Motif.Yaml.Place

/-!
Quoted scalars.  Between single quotes a quote is written twice, between double quotes there are
escapes.  Line breaks are folded.
-/

namespace Motif
namespace Yaml
namespace Quoted

/-- The character of an escape of one letter. -/
def escape? (c : Char) : Option Char :=
  [('0', '\x00'), ('a', '\x07'), ('b', '\x08'), ('t', '\t'), ('\t', '\t'), ('n', '\n'),
    ('v', '\x0b'), ('f', '\x0c'), ('r', '\r'), ('e', '\x1b'), (' ', ' '), ('"', '"'), ('/', '/'),
    ('\\', '\\'), ('N', '\u0085'), ('_', '\u00a0'), ('L', '\u2028'), ('P', '\u2029')].lookup c

/-- How many hexadecimal digits follow. -/
def codeLength? (c : Char) : Option Nat := [('x', 2), ('u', 4), ('U', 8)].lookup c

def ofCode? (digits : List Char) : Option Char :=
  match Decimal.natOfDigits? 16 digits with
  | some n => if n.isValidChar then some (Char.ofNat n) else none
  | none => none

/-- The character that an escape stands for, behind the backslash, and the length of the escape. -/
def escaped? : List Char → Option (Char × Nat)
  | [] => none
  | c :: rest =>
    match codeLength? c with
    | some n =>
      if (rest.take n).length = n then (ofCode? (rest.take n)).map (·, n + 2) else none
    | none => (escape? c).map (·, 2)

/-- Reads up to blank space or to the closing quote, or past an escaped line break; says whether
there was one. -/
def readWord (quote : Char) : Nat → List Char → Place → Option (List Char × Bool × Place)
  | 0, _, _ => none
  | fuel + 1, text, p => do
    let p ← p.look 2
    if atGapOrEnd p.ahead then some (text, false, p)
    else if quote == '\'' && p.isAt '\'' && p.peek 1 == some '\'' then
      readWord quote fuel ('\'' :: text) (p.skip 2)
    else if p.isAt quote then some (text, false, p)
    else if quote == '"' && p.isAt '\\' then
      match (p.skip 1).breakAhead? with
      | some (_, n) => (p.look 3).map fun p => (text, true, (p.skip 1).nextLine n)
      | none =>
        let length := ((p.peek 1).bind codeLength?).getD 0
        let p ← p.look (2 + length)
        match escaped? (p.skip 1).ahead with
        | some (c, n) => readWord quote fuel (c :: text) (p.skip n)
        | none => none
    else
      match p.ahead with
      | c :: _ => readWord quote fuel (c :: text) (p.skip 1)
      | [] => none

/-- Reads the rest of a scalar behind its opening quote.  The text so far is given backwards. -/
def readFrom (quote : Char) : Nat → List Char → Place → Option (List Char × Place)
  | 0, _, _ => none
  | fuel + 1, text, p => do
    let p ← p.look 4
    if (p.column == 0 && atDocumentMarker p.ahead) || p.ahead.isEmpty then none
    else
      match readWord quote p.bound text p with
      | none => none
      | some (text, isBroken, p) =>
        let p ← p.look 1
        if p.isAt quote then some (text.reverse, p.skip 1)
        else
          match Gap.read 0 p.bound (Gap.start isBroken) p with
          | none => none
          | some (g, p) => readFrom quote fuel (g.text.reverse ++ text) p

/-- Reads a quoted scalar from its opening quote. -/
def read (quote : Char) (p : Place) : Option (List Char × Place) :=
  readFrom quote p.bound [] (p.skip 1)

end Quoted
end Yaml
end Motif
