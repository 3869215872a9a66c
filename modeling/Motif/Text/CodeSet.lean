/-!
Sets of characters, written as the sorted list of code points at which membership changes.  A code
point belongs to the set when an odd number of those bounds lie at or below it.
-/

namespace Motif
namespace Text

structure CodeSet where
  bounds : Array Nat

namespace CodeSet

def holds (s : CodeSet) (code : Nat) : Bool :=
  s.bounds.foldl (fun inside b => if b ≤ code then !inside else inside) false

def contains (s : CodeSet) (c : Char) : Bool := s.holds c.toNat

end CodeSet

end Text
end Motif
