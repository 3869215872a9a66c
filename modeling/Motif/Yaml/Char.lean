/-!
Classes of characters that matter to YAML.
-/

namespace Motif
namespace Yaml

/-- Space or tab. -/
def isGap (c : Char) : Bool := c == ' ' || c == '\t'

/-- The two separators of Unicode, which stay as they are when lines are folded. -/
def isSeparator (c : Char) : Bool := c == '\u2028' || c == '\u2029'

/-- A character that ends a line. -/
def isBreak (c : Char) : Bool := c == '\n' || c == '\r' || c == '\u0085' || isSeparator c

/-- Whether the text is at its end or goes on with blank space. -/
def atGapOrEnd : List Char → Bool
  | [] => true
  | c :: _ => isGap c || isBreak c

def atBreakOrEnd : List Char → Bool
  | [] => true
  | c :: _ => isBreak c

/-- A character that may stand in the name of an anchor. -/
def isNameChar (c : Char) : Bool := c.isAlphanum || c == '_' || c == '-'

/-- A character that may stand in a stream: no control character but tab and the line breaks, and
no character that Unicode reserves. -/
def isAllowed (c : Char) : Bool :=
  let n := c.toNat
  n == 0x9 || n == 0xA || n == 0xD || (0x20 ≤ n && n ≤ 0x7E) || n == 0x85 ||
    (0xA0 ≤ n && n ≤ 0xD7FF) || (0xE000 ≤ n && n ≤ 0xFFFD) || 0x10000 ≤ n

/-- A character that needs no escape.  The byte order mark does need one. -/
def isPrintable (c : Char) : Bool :=
  let n := c.toNat
  n == 0xA || (0x20 ≤ n && n ≤ 0x7E) || (0xA0 ≤ n && n ≤ 0xFFFD && n != 0xFEFF) || 0x10000 ≤ n

/-- The characters that have a meaning of their own where a scalar starts. -/
def indicators : List Char :=
  ['-', '?', ':', ',', '[', ']', '\x7b', '\x7d', '#', '&', '*', '!', '|', '>', '\'', '"', '%', '@',
    '\x60']

/-- The brackets and the comma of flow collections. -/
def flowIndicators : List Char := [',', '[', ']', '\x7b', '\x7d']

/-- Three times the same character, and blank space or the end behind. -/
def isMarker (c : Char) : List Char → Bool
  | x :: y :: z :: rest => x == c && y == c && z == c && atGapOrEnd rest
  | _ => false

/-- Whether a marker stands here that starts or ends a document. -/
def atDocumentMarker (s : List Char) : Bool := isMarker '-' s || isMarker '.' s

end Yaml
end Motif
