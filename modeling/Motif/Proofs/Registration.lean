import Motif.Proofs.CatalogChanges

/-!
What a catalog keeps of what is registered.  A name belongs to the first provider that comes under
it.  The pattern stays at its place with the description and the indicators of that provider,
whatever else is registered under the name, whatever caps are set and however often the pattern is
reinforced.  Only its base confidence moves.
-/

namespace Motif

/-- The outline in which a provider is kept. -/
def Provider.outline (p : Provider) : String × WordSet × String :=
  (p.name, Pattern.indicatorSet p.indicators, p.description)

namespace Catalog

variable {c d : Catalog} {offered : List Provider} {p : Provider} {name : String} {delta : Float}

theorem get?_eq_none_iff (c : Catalog) (name : String) :
    c.get? name = none ↔ name ∉ c.patterns.map (·.name) := by
  rw [get?, List.find?_eq_none, List.mem_map]
  simp only [beq_iff_eq, not_exists, not_and]

/-! ## Registering -/

theorem register_of_known (h : p.name ∈ c.patterns.map (·.name)) : c.register p = (c, false) := by
  refine if_pos ?_
  rw [Option.isSome_iff_ne_none, Ne, get?_eq_none_iff, not_not]
  exact h

theorem register_of_new (h : p.name ∉ c.patterns.map (·.name)) :
    c.register p = ({ c with patterns := c.patterns ++ [c.adopt p] }, true) := by
  refine if_neg ?_
  rw [(get?_eq_none_iff c p.name).mpr h]
  exact Bool.false_ne_true

/-- Also a pattern that is made once more, for its weight, has the outline of its provider. -/
theorem outline_adopt (c : Catalog) (p : Provider) : (c.adopt p).outline = p.outline := by
  have hdescription : (c.adopt p).description = p.description := by
    rw [adopt]
    split <;> rfl
  rw [Pattern.outline, name_adopt, indicators_adopt, hdescription, Provider.outline]

/-- What a catalog holds of the providers that were offered to it in turn. -/
structure Keeps (c : Catalog) (offered : List Provider) : Prop where
  names : c.patterns.map (·.name) = (offered.map (·.name)).eraseDups
  first : ∀ q ∈ c.patterns, ∃ p, offered.find? (·.name == q.name) = some p ∧
    q.outline = p.outline

namespace Keeps

theorem mem_names_iff (h : c.Keeps offered) (name : String) :
    name ∈ c.patterns.map (·.name) ↔ name ∈ offered.map (·.name) := by
  rw [h.names, List.mem_eraseDups]

theorem of_outlines_eq (h : c.Keeps offered) (houtlines : d.outlines = c.outlines) :
    d.Keeps offered := by
  refine ⟨?_, fun q hq => ?_⟩
  · rw [names_eq, houtlines, ← names_eq]
    exact h.names
  · have hin : q.outline ∈ c.outlines := houtlines ▸ List.mem_map_of_mem hq
    obtain ⟨r, hr, hsame⟩ := List.mem_map.mp hin
    obtain ⟨p, hp, houtline⟩ := h.first r hr
    have hname : r.name = q.name := congrArg Prod.fst hsame
    exact ⟨p, hname ▸ hp, hsame.symm.trans houtline⟩

/-- What is offered behind the others is never the first of a name that is kept. -/
theorem first_append (h : c.Keeps offered) (more : List Provider) :
    ∀ q ∈ c.patterns, ∃ p, (offered ++ more).find? (·.name == q.name) = some p ∧
      q.outline = p.outline := by
  intro q hq
  obtain ⟨p, hp, houtline⟩ := h.first q hq
  refine ⟨p, ?_, houtline⟩
  rw [List.find?_append, hp, Option.some_or]

theorem find?_eq_none (h : c.Keeps offered) (hnew : name ∉ c.patterns.map (·.name)) :
    offered.find? (·.name == name) = none := by
  rw [List.find?_eq_none]
  intro p hp hname
  refine hnew ((h.mem_names_iff name).mpr ?_)
  exact List.mem_map.mpr ⟨p, hp, beq_iff_eq.mp hname⟩

theorem register (h : c.Keeps offered) (p : Provider) :
    (c.register p).1.Keeps (offered ++ [p]) := by
  by_cases hknown : p.name ∈ c.patterns.map (·.name)
  · rw [register_of_known hknown]
    refine ⟨?_, h.first_append [p]⟩
    rw [List.map_append, List.map_singleton, Sequence.eraseDups_concat,
      if_pos ((h.mem_names_iff p.name).mp hknown), h.names]
  · have hnew : p.name ∉ offered.map (·.name) := fun hin =>
      hknown ((h.mem_names_iff p.name).mpr hin)
    rw [register_of_new hknown]
    refine ⟨?_, fun q hq => ?_⟩
    · rw [List.map_append, List.map_singleton, List.map_append, List.map_singleton, name_adopt,
        Sequence.eraseDups_concat, if_neg hnew, h.names]
    rcases List.mem_append.mp hq with hq | hq
    · exact h.first_append [p] q hq
    · obtain rfl := List.mem_singleton.mp hq
      refine ⟨p, ?_, c.outline_adopt p⟩
      rw [name_adopt, List.find?_append, h.find?_eq_none hknown, Option.none_or,
        List.find?_singleton, if_pos]
      exact beq_self_eq_true p.name

end Keeps

/-- The provider that a change offers, if it offers one. -/
def Change.provider? : Change → Option Provider
  | .register p => some p
  | .withCap _ | .reinforce _ _ => none

/-- The providers that the changes offer, in their order. -/
def registered (changes : List Change) : List Provider := changes.filterMap Change.provider?

theorem keeps_build (changes : List Change) : (build changes).Keeps (registered changes) := by
  induction changes using List.reverseRecOn with
  | nil => exact ⟨rfl, fun _ hq => absurd hq List.not_mem_nil⟩
  | append_singleton changes x ih =>
    rw [build_append, registered, List.filterMap_append]
    cases x with
    | register p => exact ih.register p
    | withCap cap =>
      show ((build changes).withCap cap).Keeps (registered changes ++ [])
      rw [List.append_nil]
      exact ih.of_outlines_eq (outlines_withCap _ cap)
    | reinforce name delta =>
      show ((build changes).reinforce name delta).1.Keeps (registered changes ++ [])
      rw [List.append_nil]
      exact ih.of_outlines_eq (outlines_reinforce _ name delta)

/-! ## Reinforcing -/

theorem reinforce_snd (c : Catalog) (name : String) (delta : Float) :
    (c.reinforce name delta).2 = (c.get? name).map fun p =>
      ⟨name, p.baseConfidence, (p.reinforce delta c.cap).baseConfidence⟩ := by
  unfold reinforce
  cases c.get? name <;> rfl

theorem get?_reinforce_self (c : Catalog) (name : String) (delta : Float) :
    (c.reinforce name delta).1.get? name = (c.get? name).map (·.reinforce delta c.cap) := by
  have hname (q : Pattern) : (q.reinforce delta c.cap).name = q.name := rfl
  rw [reinforce_fst, get?, get?]
  exact Sequence.find?_changeFirst (fun q => by rw [hname]) c.patterns

theorem get?_reinforce_of_ne {n : String} (h : n ≠ name) :
    (c.reinforce name delta).1.get? n = c.get? n := by
  have hname (q : Pattern) : (q.reinforce delta c.cap).name = q.name := rfl
  rw [reinforce_fst, get?, get?]
  refine Sequence.find?_changeFirst_of_not (fun q => by rw [hname]) (fun q hq hq' => ?_) c.patterns
  exact h ((beq_iff_eq.mp hq').symm.trans (beq_iff_eq.mp hq))

theorem reinforce_of_new (h : name ∉ c.patterns.map (·.name)) (delta : Float) :
    c.reinforce name delta = (c, none) := by
  unfold reinforce
  rw [(get?_eq_none_iff c name).mpr h]

theorem exists_of_reinforce_snd {r : Reinforcement} (h : (c.reinforce name delta).2 = some r) :
    ∃ p q, c.get? name = some p ∧ (c.reinforce name delta).1.get? name = some q ∧
      r = ⟨name, p.baseConfidence, q.baseConfidence⟩ := by
  rw [reinforce_snd] at h
  obtain ⟨p, hp, rfl⟩ := Option.map_eq_some_iff.mp h
  refine ⟨p, p.reinforce delta c.cap, hp, ?_, rfl⟩
  rw [get?_reinforce_self, hp, Option.map_some]

/-- Whatever is done to a catalog, its names come each once and in the order of their first
registrations, and each keeps what came with that one.  A registration is refused where the name is
taken, a reinforcement reports where it is, and both leave alone all that they are not about. -/
theorem first_registrations_are_kept (changes : List Change) :
    let c := build changes
    let offered := registered changes
    let names := c.patterns.map (·.name)
    names.Nodup ∧ names = (offered.map (·.name)).eraseDups ∧
    (∀ more, c.outlines <+: (build (changes ++ more)).outlines) ∧
    (∀ q ∈ c.patterns, ∃ p, offered.find? (·.name == q.name) = some p ∧
      q.description = p.description ∧
      ∀ w, w ∈ q.indicators ↔ ∃ i ∈ p.indicators, Text.isAllBlank i.toList = false ∧
        String.ofList (Text.lower (Text.trim i.toList)) = w) ∧
    (∀ p, ((c.register p).2 = true ↔ p.name ∉ names) ∧
      ((c.register p).2 = false → (c.register p).1 = c)) ∧
    ∀ name delta,
      let d := (c.reinforce name delta).1
      let report := (c.reinforce name delta).2
      (d.outlines = c.outlines ∧ d.cap = c.cap ∧ ∀ n, n ≠ name → d.get? n = c.get? n) ∧
      (report = none ↔ name ∉ names) ∧ (report = none → d = c) ∧
      ∀ r, report = some r → ∃ p q, c.get? name = some p ∧ d.get? name = some q ∧
        r = ⟨name, p.baseConfidence, q.baseConfidence⟩ := by
  intro c offered names
  have hkeeps : c.Keeps offered := keeps_build changes
  refine ⟨(constructible_build changes).nodup_names, hkeeps.names, fun more => ?_, fun q hq => ?_,
    fun p => ?_, fun name delta => ?_⟩
  · rw [build_append]
    exact outlines_prefix_foldl c more
  · obtain ⟨p, hp, houtline⟩ := hkeeps.first q hq
    obtain ⟨-, hrest⟩ := Prod.mk.inj houtline
    obtain ⟨hindicators, hdescription⟩ := Prod.mk.inj hrest
    refine ⟨p, hp, hdescription, fun w => ?_⟩
    rw [hindicators]
    exact Pattern.mem_indicatorSet_iff
  · by_cases hknown : p.name ∈ names
    · rw [register_of_known hknown]
      exact ⟨iff_of_false Bool.false_ne_true (not_not.mpr hknown), fun _ => rfl⟩
    · rw [register_of_new hknown]
      exact ⟨iff_of_true rfl hknown, fun h => absurd h.symm Bool.false_ne_true⟩
  · have hnone : (c.reinforce name delta).2 = none ↔ name ∉ names := by
      rw [reinforce_snd, Option.map_eq_none_iff, get?_eq_none_iff]
    refine ⟨⟨outlines_reinforce c name delta, cap_reinforce c name delta,
      fun n hn => get?_reinforce_of_ne hn⟩, hnone, fun h => ?_, fun r hr => ?_⟩
    · rw [reinforce_of_new (hnone.mp h)]
    · exact exists_of_reinforce_snd hr

end Catalog
end Motif
