import Motif.Text.CodeSet

/-!
White space of Unicode, and texts without it at their ends.
-/

namespace Motif
namespace Text

/-- The property White_Space beyond the first 128 code points. -/
def blank : CodeSet := ⟨#[
    0x85, 0x86, 0xA0, 0xA1, 0x1680, 0x1681, 0x2000, 0x200B, 0x2028, 0x202A,
    0x202F, 0x2030, 0x205F, 0x2060, 0x3000, 0x3001]⟩

def isBlank (c : Char) : Bool :=
  if c.toNat < 128 then c == ' ' || (9 ≤ c.toNat && c.toNat ≤ 13) else blank.contains c

def trimStart (s : List Char) : List Char := s.dropWhile isBlank

def trimEnd (s : List Char) : List Char := (s.reverse.dropWhile isBlank).reverse

def trim (s : List Char) : List Char := trimEnd (trimStart s)

/-- Nothing but white space. -/
def isAllBlank (s : List Char) : Bool := s.all isBlank

theorem trim_eq_nil_of_isAllBlank {s : List Char} (h : isAllBlank s = true) : trim s = [] := by
  have : s.dropWhile isBlank = [] := by
    induction s with
    | nil => rfl
    | cons c r ih =>
      simp only [isAllBlank, List.all_cons, Bool.and_eq_true] at h
      simp [List.dropWhile, h.1, ih h.2]
  simp [trim, trimStart, trimEnd, this]

end Text
end Motif
