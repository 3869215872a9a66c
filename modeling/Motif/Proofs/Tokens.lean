import Mathlib
import Motif.Correlation
import Motif.Proofs.LowerCase

/-!
Tokens of texts.  What lower case gives stays as it is in lower case, so a token of a text in lower
case stands in the text itself.
-/

namespace Motif
namespace Correlation

/-! ## Tokens -/

theorem infix_of_mem_piecesFrom {p piece : List Char} {done : List (List Char)} {s : List Char}
    (h : p ∈ piecesFrom piece done s) : p ∈ done ∨ p <:+: piece.reverse ++ s := by
  induction s generalizing piece done with
  | nil =>
    rcases List.mem_cons.mp (List.mem_reverse.mp h) with rfl | h
    · exact .inr (List.prefix_append _ _).isInfix
    · exact .inl h
  | cons c rest ih =>
    rw [piecesFrom] at h
    split at h
    · have hp := ih h
      rwa [List.reverse_cons, List.append_assoc] at hp
    · have hrest : rest <:+: piece.reverse ++ c :: rest :=
        ((List.suffix_cons c rest).trans (List.suffix_append _ _)).isInfix
      rcases ih h with hp | hp
      · rcases List.mem_cons.mp hp with rfl | hp
        · exact .inr (List.prefix_append _ _).isInfix
        · exact .inl hp
      · exact .inr (hp.trans hrest)

theorem infix_of_mem_pieces {p : List Char} {s : String} (h : p ∈ pieces s) : p <:+: s.toList :=
  (infix_of_mem_piecesFrom h).resolve_left List.not_mem_nil

theorem mem_tokens {t s : String} :
    t ∈ tokens s ↔
      (∃ p ∈ pieces s, String.ofList (Text.lower p) = t) ∧ isSignificant t = true := by
  rw [tokens, WordSet.mem_ofList, List.mem_filter, List.mem_map]

theorem isSome_shared?_iff {a b : WordSet} : (shared? a b).isSome = true ↔ ∃ t ∈ a, t ∈ b := by
  rw [shared?, List.find?_isSome]
  simp only [decide_eq_true_eq]
  rfl

/-- A token of a text in lower case stands there. -/
theorem infix_of_mem_tokens_lower {t : String} {s : List Char}
    (h : t ∈ tokens (String.ofList (Text.lower s))) : t.toList <:+: Text.lower s := by
  obtain ⟨⟨p, hp, rfl⟩, -⟩ := mem_tokens.mp h
  have hstands : p <:+: Text.lower s := by
    rw [← String.toList_ofList (l := Text.lower s)]
    exact infix_of_mem_pieces hp
  have hkept : Text.lower p = p := Text.lowerFrom_eq_self_of_isSmall fun _ hc =>
    Text.isSmall_of_mem_lowerFrom (hstands.subset hc)
  rwa [String.toList_ofList, hkept]

/-- A label that is a single token overlaps the names that contain it, and those that it contains. -/
theorem overlaps_iff {label : List Char}
    (htoken : (tokens (String.ofList label)).words = [String.ofList label]) (pattern : String) :
    overlaps label pattern = true ↔
      label <:+: Text.lower pattern.toList ∨ Text.lower pattern.toList <:+: label := by
  have hshared : (shared? (tokens (String.ofList (Text.lower pattern.toList)))
      (tokens (String.ofList label))).isSome = true → label <:+: Text.lower pattern.toList := by
    intro h
    obtain ⟨t, ht, hlabel⟩ := isSome_shared?_iff.mp h
    rw [WordSet.mem_words, htoken, List.mem_singleton] at hlabel
    subst hlabel
    have hstands := infix_of_mem_tokens_lower ht
    rwa [String.toList_ofList] at hstands
  simp only [overlaps, htoken, List.isEmpty_cons, Bool.not_false, Bool.true_and, Bool.or_eq_true,
    Text.includes_iff]
  exact or_iff_left_of_imp fun h => .inl (hshared h)

end Correlation
end Motif
