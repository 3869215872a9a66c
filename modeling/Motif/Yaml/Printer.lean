import Motif.Json.Printer
import Motif.Yaml.Char
import Motif.Yaml.Scalar
import Motif.Yaml.Token

/-!
YAML text.  Values are those of JSON: objects become block mappings, texts are quoted only as far as
they have to be, and a list stands on one line in its JSON form.
-/

namespace Motif
namespace Yaml
namespace Printer

/-! ## The style of a text -/

/-- Whether one character that satisfies `f` stands just before one that satisfies `g`. -/
def hasPair (f g : Char → Bool) (s : List Char) : Bool :=
  (s.zip s.tail).any fun (a, b) => f a && g b

def isSpace (c : Char) : Bool := c == ' '

def isBlank (c : Char) : Bool := isGap c || isBreak c

/-- Whether the text holds what can only be written between double quotes. -/
def needsEscapes (s : List Char) : Bool :=
  !s.all isPrintable || hasPair isSpace isBreak s

/-- Whether the start of the text would be taken for something else than a text. -/
def startsOddly (s : List Char) : Bool :=
  let isMark := s.take 3 == ['-', '-', '-'] || s.take 3 == ['.', '.', '.']
  isMark || match s with
    | [] => true
    | c :: rest =>
      if ['-', '?', ':'].contains c then atGapOrEnd rest else indicators.contains c

/-- Whether a colon or a number sign inside the text would end it. -/
def endsEarly (s : List Char) : Bool :=
  hasPair (· == ':') isBlank s || s.getLast? == some ':' || hasPair isBlank (· == '#') s

def isEdge (c : Option Char) : Bool := (c.map fun c => isSpace c || isBreak c).getD true

def canBePlain (s : List Char) : Bool :=
  !(needsEscapes s || s.any isBreak || isEdge s.head? || isEdge s.getLast? || startsOddly s ||
    endsEarly s)

def canBeSingleQuoted (s : List Char) : Bool := !(needsEscapes s || hasPair isBreak isSpace s)

def canBeLiteral (s : List Char) : Bool := !(needsEscapes s || s.getLast? == some ' ')

def style (text : String) : Style :=
  let s := text.toList
  if s.contains '\n' then if canBeLiteral s then .literal else .doubleQuoted
  else if canBePlain s && !Scalar.isAmbiguous text then .plain
  else if canBeSingleQuoted s then .singleQuoted
  else .doubleQuoted

/-! ## Texts -/

/-- Appends `s`, writing each character by `write`, with `indent` before the lines that are not
empty; says whether the last line is empty. -/
def lines (indent : String) (write : Char → String) (start : String × Bool) (s : List Char) :
    String × Bool :=
  s.foldl (fun (text, isEmpty) c =>
    if isBreak c then (text.push c, true)
    else ((if isEmpty then text ++ indent else text) ++ write c, false)) start

def hexDigits (width n : Nat) : String :=
  let digits := (Nat.toDigits 16 n).map Char.toUpper
  String.ofList (List.replicate (width - digits.length) '0' ++ digits)

def escape (c : Char) : String :=
  let n := c.toNat
  match [(0, '0'), (7, 'a'), (8, 'b'), (9, 't'), (10, 'n'), (11, 'v'), (12, 'f'), (13, 'r'),
      (27, 'e'), (34, '"'), (92, '\\'), (0x85, 'N'), (0x2028, 'L'), (0x2029, 'P')].lookup n with
  | some letter => "\\".push letter
  | none =>
    if n ≤ 0xFF then "\\x" ++ hexDigits 2 n
    else if n ≤ 0xFFFF then "\\u" ++ hexDigits 4 n
    else "\\U" ++ hexDigits 8 n

def needsEscape (c : Char) : Bool := !isPrintable c || isBreak c || c == '"' || c == '\\'

def doubleQuoted (s : List Char) : String :=
  s.foldl (fun text c => if needsEscape c then text ++ escape c else text.push c) "\"" ++ "\""

def singleQuoted (indent : String) (s : List Char) : String :=
  let write c := if c == '\'' then "''" else String.singleton c
  let (text, isEmpty) := lines indent write ("'", false) s
  (if isEmpty then text ++ indent else text) ++ "'"

/-- What the header of a literal says about the line breaks at the end. -/
def chomping (s : List Char) : String :=
  match s.reverse with
  | [] => "-"
  | c :: rest =>
    if !isBreak c then "-" else if (rest.head?.map isBreak).getD true then "+" else ""

def literal (indent : String) (s : List Char) : String :=
  let increment := if isEdge s.head? then "2" else ""
  (lines indent String.singleton ("|" ++ increment ++ chomping s ++ "\n", true) s).1

/-- A text in its style, with the lines behind the first one indented. -/
def text (indent : String) (s : String) : String :=
  match style s with
  | .literal => literal indent s.toList
  | .singleQuoted => singleQuoted indent s.toList
  | .doubleQuoted => doubleQuoted s.toList
  | _ => s

/-! ## Values -/

/-- Ends the line, if it has not ended. -/
def endLine (s : String) : String :=
  if (s.toList.getLast?.map isBreak).getD false then s else s.push '\n'

def numberStyle : Decimal.Style := { Json.numberStyle with nan := ".nan", infinity := ".inf" }

/-- A key of one line and of at most 128 bytes stands before its colon, any other one behind a
question mark. -/
def isShort (key : String) : Bool := key.utf8ByteSize ≤ 128 && !key.toList.any isBreak

def keyText (level : Nat) (key : String) : String :=
  let indent := Json.indentation level
  let key := text (Json.indentation (level + 1)) key
  indent ++ key ++ ":"

def longKeyText (level : Nat) (key : String) : String :=
  let indent := Json.indentation level
  let key := text (Json.indentation (level + 1)) key
  indent ++ "? " ++ endLine key ++ indent ++ ":"

mutual

/-- A value behind the colon of its key, in a mapping at `level`. -/
def value (level : Nat) : Json → String
  | .obj (f :: fields) => "\n" ++ entries (level + 1) (f :: fields)
  | .str s => " " ++ endLine (text (Json.indentation (level + 1)) s)
  | .float x => " " ++ numberStyle.render x ++ "\n"
  | v => " " ++ v.compact ++ "\n"

def entries (level : Nat) : List (String × Json) → String
  | [] => ""
  | (key, v) :: rest =>
    (if isShort key then keyText level key else longKeyText level key) ++ value level v ++
      entries level rest

end

/-- A document. -/
def document : Json → String
  | .obj (f :: fields) => entries 0 (f :: fields)
  | .str s => endLine (text (Json.indentation 1) s)
  | .float x => numberStyle.render x ++ "\n"
  | v => v.compact ++ "\n"

end Printer
end Yaml
end Motif
