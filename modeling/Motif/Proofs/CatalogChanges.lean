import Motif.Proofs.Spelling

/-!
Catalogs as they are built: patterns are registered, the cap is set, and base confidences are
raised, in any order.  No change takes a pattern away or touches its outline, so what was registered
under a new name stays there for good.
-/

namespace Motif
namespace Catalog

inductive Change where
  | register (p : Provider)
  | withCap (cap : Float)
  | reinforce (name : String) (delta : Float)

def change (c : Catalog) : Change → Catalog
  | .register p => (c.register p).1
  | .withCap cap => c.withCap cap
  | .reinforce name delta => (c.reinforce name delta).1

/-- The catalog that the changes make of an empty one. -/
def build (changes : List Change) : Catalog := changes.foldl change empty

theorem build_append (before after : List Change) :
    build (before ++ after) = after.foldl change (build before) :=
  List.foldl_append

theorem constructible_build (changes : List Change) : (build changes).Constructible := by
  induction changes using List.reverseRecOn with
  | nil => exact .empty
  | append_singleton changes x ih =>
    rw [build_append]
    cases x with
    | register p => exact ih.register p
    | withCap cap => exact ih.withCap cap
    | reinforce name delta => exact ih.reinforce name delta

theorem outlines_prefix_change (c : Catalog) (x : Change) :
    c.outlines <+: (c.change x).outlines := by
  cases x with
  | register p =>
    rw [change, register]
    split
    · exact List.prefix_rfl
    · rw [outlines, outlines, List.map_append]
      exact List.prefix_append _ _
  | withCap cap => rw [change, outlines_withCap]
  | reinforce name delta => rw [change, outlines_reinforce]

theorem outlines_prefix_foldl (c : Catalog) (changes : List Change) :
    c.outlines <+: (changes.foldl change c).outlines := by
  induction changes generalizing c with
  | nil => exact List.prefix_rfl
  | cons x rest ih => exact (outlines_prefix_change c x).trans (ih _)

/-- A provider that is registered under a new name stays, with its indicators as they are kept. -/
theorem exists_pattern_of_register {before : List Change} {p : Provider}
    (hnew : (build before).get? p.name = none) (after : List Change) :
    ∃ q ∈ (build (before ++ .register p :: after)).patterns,
      q.name = p.name ∧ q.indicators = Pattern.indicatorSet p.indicators := by
  have hadded : ((build before).change (.register p)).patterns =
      (build before).patterns ++ [(build before).adopt p] := by
    rw [change, register, hnew]
    rfl
  have hstays := outlines_prefix_foldl ((build before).change (.register p)) after
  have hin : ((build before).adopt p).outline ∈
      (build (before ++ .register p :: after)).outlines := by
    rw [build_append, List.foldl_cons]
    refine hstays.subset (List.mem_map_of_mem ?_)
    rw [hadded]
    exact List.mem_append_right _ List.mem_cons_self
  obtain ⟨q, hq, houtline⟩ := List.mem_map.mp hin
  obtain ⟨hname, hrest⟩ := Prod.mk.inj houtline
  refine ⟨q, hq, hname.trans (name_adopt _ p), ?_⟩
  exact (Prod.mk.inj hrest).1.trans (indicators_adopt _ p)

end Catalog
end Motif
