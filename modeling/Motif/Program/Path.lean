import Motif.Text.Visible

/-!
Paths of files, as they are given and shown.
-/

namespace Motif
namespace Path

/-- The parts between slashes that matter. -/
def parts (path : String) : List String :=
  (path.splitOn "/").filter fun part => !part.isEmpty && part != "."

/-- What follows the last point of a name, unless the name starts with that point. -/
def extensionOf (name : String) : Option String :=
  let chars := name.toList.reverse
  let last := chars.takeWhile (· != '.')
  match chars.drop last.length with
  | [] => none
  | [_] => none
  | _ => some (String.ofList last.reverse)

def extension? (path : String) : Option String :=
  match (parts path).getLast? with
  | some name => if name == ".." then none else extensionOf name
  | none => none

/-! ## Quoted paths -/

def codeText (c : Char) : String :=
  "\\u\x7b" ++ String.ofList (Nat.toDigits 16 c.toNat) ++ "\x7d"

def escape (c : Char) : String :=
  match [('"', '"'), ('\'', '\''), ('\\', '\\'), ('\n', 'n'), ('\r', 'r'), ('\t', 't'),
      ('\x00', '0')].lookup c with
  | some letter => "\\".push letter
  | none => if Text.isVisible c then String.singleton c else codeText c

/-- A path between quotes, with what does not show as itself escaped. -/
def quoted (path : String) : String :=
  path.toList.foldl (fun text c => text ++ escape c) "\"" ++ "\""

/-- A path below a directory. -/
def below (directory path : String) : String :=
  if directory.toList.getLast? == some '/' then directory ++ path else directory ++ "/" ++ path

end Path
end Motif
