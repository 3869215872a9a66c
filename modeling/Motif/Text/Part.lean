/-!
Occurrences of one text inside another.
-/

namespace Motif
namespace Text

/-- Whether `part` stands somewhere in `s`. -/
def includes (s part : List Char) : Bool :=
  part.isPrefixOf s || match s with
    | [] => false
    | _ :: rest => includes rest part

theorem includes_iff {s part : List Char} : includes s part = true ↔ part <:+: s := by
  induction s with
  | nil =>
    rw [includes]
    simp
  | cons c rest ih =>
    rw [includes, Bool.or_eq_true, List.isPrefixOf_iff_prefix, ih, List.infix_cons_iff]

end Text
end Motif
