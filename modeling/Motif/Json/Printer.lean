import Motif.Json.Basic
import Motif.Decimal.Style

/-!
JSON text, on one line or indented by two spaces a level.
-/

namespace Motif
namespace Json

/-- Fractions keep a place after the point and turn to an exponent below `10 ^ -5` and from
`10 ^ 16` on.  What is no number is written as null. -/
def numberStyle : Decimal.Style :=
  { leastPoint := some (-4), greatestPoint := some 16, wholeMark := ".0", nan := "null",
    infinity := "null" }

def numberText (x : Float) : String :=
  if x.isFinite then numberStyle.render x else "null"

def hexDigit (n : Nat) : Char := Nat.digitChar n

def escapeChar (c : Char) : String :=
  if c = '"' then "\\\""
  else if c = '\\' then "\\\\"
  else if c = '\n' then "\\n"
  else if c = '\r' then "\\r"
  else if c = '\t' then "\\t"
  else if c.toNat = 8 then "\\b"
  else if c.toNat = 12 then "\\f"
  else if c.toNat < 32 then
    "\\u00" ++ String.ofList [hexDigit (c.toNat / 16), hexDigit (c.toNat % 16)]
  else String.singleton c

def quoted (s : String) : String :=
  s.toList.foldl (fun acc c => acc ++ escapeChar c) "\"" ++ "\""

def openBrace : String := "\x7b"

def closeBrace : String := "\x7d"

def indentation (level : Nat) : String := String.ofList (List.replicate (2 * level) ' ')

/-- The text of a list, one item a line when `level` is given. -/
def enclosed (first last : String) (level : Option Nat) (items : List String) : String :=
  match items, level with
  | [], _ => first ++ last
  | _, none => first ++ String.intercalate "," items ++ last
  | _, some n =>
    let gap := "\n" ++ indentation (n + 1)
    first ++ gap ++ String.intercalate ("," ++ gap) items ++ "\n" ++ indentation n ++ last

mutual

/-- The text of a value that stands at `level`, or on one line. -/
def render (level : Option Nat) : Json → String
  | .null => "null"
  | .bool b => if b then "true" else "false"
  | .int n => toString n
  | .float x => numberText x
  | .str s => quoted s
  | .arr items => enclosed "[" "]" level (renderItems (level.map (· + 1)) items)
  | .obj fields => enclosed openBrace closeBrace level (renderFields (level.map (· + 1)) fields)

def renderItems (level : Option Nat) : List Json → List String
  | [] => []
  | v :: rest => v.render level :: renderItems level rest

def renderFields (level : Option Nat) : List (String × Json) → List String
  | [] => []
  | (key, v) :: rest =>
    (quoted key ++ (if level.isSome then ": " else ":") ++ v.render level) ::
      renderFields level rest

end

def compact (v : Json) : String := v.render none

def pretty (v : Json) : String := v.render (some 0)

end Json
end Motif
