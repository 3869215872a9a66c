import Motif.Text.Blank
import Motif.Text.Letter

/-!
Sets of code points by their ranges.  A set that is left at every second bound holds the code points
between the bounds of a pair, so a set of few code points is checked against another by evaluation.
No blank is a character of a word.
-/

namespace Motif
namespace Text

namespace CodeSet

/-- Whether a code point belongs to a set that changes at these bounds, when it does or does not at
the start. -/
def holdsFrom (inside : Bool) (bounds : List Nat) (code : Nat) : Bool :=
  bounds.foldl (fun inside b => if b ≤ code then !inside else inside) inside

theorem holds_eq_holdsFrom (s : CodeSet) (code : Nat) :
    s.holds code = holdsFrom false s.bounds.toList code := by
  rw [holds, holdsFrom, Array.foldl_toList]

theorem holdsFrom_cons (inside : Bool) (b : Nat) (rest : List Nat) (code : Nat) :
    holdsFrom inside (b :: rest) code = holdsFrom (if b ≤ code then !inside else inside) rest code :=
  rfl

/-- The ranges between one bound and the next at which the set is left again. -/
def ranges : List Nat → List (Nat × Nat)
  | first :: last :: rest => (first, last) :: ranges rest
  | _ => []

theorem exists_range_of_holdsFrom {bounds : List Nat} {code : Nat}
    (heven : bounds.length % 2 = 0) (hsorted : bounds.Pairwise (· ≤ ·))
    (h : holdsFrom false bounds code = true) : ∃ r ∈ ranges bounds, r.1 ≤ code ∧ code < r.2 := by
  induction bounds using ranges.induct with
  | case1 first last rest ih =>
    obtain ⟨hfirst, hrest⟩ := List.pairwise_cons.mp hsorted
    have hle : first ≤ last := hfirst last List.mem_cons_self
    rw [List.length_cons, List.length_cons] at heven
    rw [holdsFrom_cons, holdsFrom_cons] at h
    rw [ranges]
    by_cases hin : first ≤ code ∧ code < last
    · exact ⟨_, List.mem_cons_self, hin⟩
    · -- both bounds are passed or neither is
      have hsame : (if last ≤ code then !(if first ≤ code then !false else false)
          else if first ≤ code then !false else false) = false := by
        rcases Nat.lt_or_ge code first with hlt | hge
        · rw [if_neg (by omega), if_neg (by omega)]
        · rw [if_pos (by omega), if_pos hge]
          rfl
      rw [hsame] at h
      obtain ⟨r, hr, hbounds⟩ := ih (by omega) (List.pairwise_cons.mp hrest).2 h
      exact ⟨r, List.mem_cons_of_mem _ hr, hbounds⟩
  | case2 bounds hshort =>
    cases bounds with
    | nil => cases h
    | cons b rest =>
      cases rest with
      | nil => cases heven
      | cons b' rest => exact absurd rfl (hshort b b' rest)

end CodeSet

/-! ## Blanks and words -/

/-- Whether the tables put a code point beyond ASCII among the characters of words. -/
def isWordCode (code : Nat) : Bool :=
  CodeSet.holdsFrom false alphabetic.bounds.toList code ||
    CodeSet.holdsFrom false marks.bounds.toList code

theorem isWordCode_of_blank : ∀ r ∈ CodeSet.ranges blank.bounds.toList,
    ((List.range (r.2 - r.1)).all fun k => !isWordCode (r.1 + k)) = true := by
  decide +kernel

theorem isWordChar_of_isBlank {c : Char} (h : isBlank c = true) : isWordChar c = false := by
  by_cases hascii : c.toNat < 128
  · have htable : ∀ n < 128, isBlank (Char.ofNat n) = true → isWordChar (Char.ofNat n) = false := by
      decide +kernel
    have hc := htable c.toNat hascii
    rw [Char.ofNat_toNat] at hc
    exact hc h
  · rw [isBlank, if_neg hascii, CodeSet.contains, CodeSet.holds_eq_holdsFrom] at h
    obtain ⟨r, hr, hfirst, hlast⟩ := CodeSet.exists_range_of_holdsFrom (by decide) (by decide) h
    have hplace : c.toNat - r.1 ∈ List.range (r.2 - r.1) := by
      rw [List.mem_range]
      omega
    have hcode := List.all_eq_true.mp (isWordCode_of_blank r hr) _ hplace
    rw [Nat.add_sub_cancel' hfirst, Bool.not_eq_true', isWordCode, Bool.or_eq_false_iff] at hcode
    rw [isWordChar, isAscii, decide_eq_false hascii, if_neg Bool.false_ne_true, CodeSet.contains,
      CodeSet.contains, CodeSet.holds_eq_holdsFrom, CodeSet.holds_eq_holdsFrom, hcode.1, hcode.2]
    rfl

end Text
end Motif
