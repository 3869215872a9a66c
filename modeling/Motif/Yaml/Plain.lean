import Motif.Yaml.Place

/-!
Scalars without quotes.  They end before a comment, before a colon that blank space follows, inside
flow collections before the characters of those, and outside them where a line is indented too
little.
-/

namespace Motif
namespace Yaml
namespace Plain

/-- Reads up to blank space or to what ends the scalar.  Inside flow collections a colon just before
one of their characters is refused. -/
def readWord (isFlow : Bool) : Nat → List Char → Place → Option (List Char × Place)
  | 0, _, _ => none
  | fuel + 1, word, p =>
    match p.ahead with
    | [] => some (word, p)
    | c :: rest =>
      if atGapOrEnd p.ahead then some (word, p)
      else if isFlow && c == ':' && rest.head?.any ('?' :: flowIndicators).contains then
        none
      else if (c == ':' && atGapOrEnd rest) || (isFlow && flowIndicators.contains c) then
        some (word, p)
      else ((p.skip 1).look 2).bind fun p => readWord isFlow fuel (c :: word) p

structure Scalar where
  text : List Char
  /-- Whether the blank space behind the text has a line break in it. -/
  endsLine : Bool
  place : Place

/-- Reads on behind `text`, which is given backwards, and the blank space `g`. -/
def readFrom (isFlow : Bool) (least : Nat) : Nat → List Char → Gap → Place → Option Scalar
  | 0, _, _, _ => none
  | fuel + 1, text, g, p => do
    let p ← p.look 4
    if (p.column == 0 && atDocumentMarker p.ahead) || p.isAt '#' then
      some ⟨text.reverse, g.isBroken, p⟩
    else
      match readWord isFlow p.bound [] p with
      | none => none
      | some ([], _) => some ⟨text.reverse, g.isBroken, p⟩
      | some (word, p) =>
        let text := word ++ (g.text.reverse ++ text)
        if p.ahead.isEmpty || !atGapOrEnd p.ahead then some ⟨text.reverse, false, p⟩
        else
          match Gap.read least p.bound (Gap.start false) p with
          | none => none
          | some (g, p) =>
            if !isFlow && p.column < least then some ⟨text.reverse, g.isBroken, p⟩
            else readFrom isFlow least fuel text g p

/-- Reads a scalar whose further lines have to start at column `least` or later. -/
def read (isFlow : Bool) (least : Nat) (p : Place) : Option Scalar :=
  readFrom isFlow least p.bound [] (Gap.start false) p

end Plain
end Yaml
end Motif
