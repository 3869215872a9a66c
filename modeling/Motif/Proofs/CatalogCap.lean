import Motif.Proofs.Registration

/-!
The cap of a catalog.  While the cap is a number it lies in the unit interval, and every base
confidence lies between zero and the cap.  The clamp lets through what is no number, and a cap that
is none bounds nothing: patterns stay in the unit interval until one is reinforced beyond it.
Reinforcing lowers nothing under any cap, and setting a number as the cap restores all bounds.
-/

namespace Motif

open Double

theorem Confidence.least_of_not_isNumber {a b : Float} (ha : IsNumber a) (hb : ¬IsNumber b) :
    least a b = a := by
  have hnot : ¬b < a := fun hlt => hb (lt_iff.mp hlt).1
  rw [least, if_neg (Bool.eq_false_iff.mp ha), if_neg hnot]

/-- Reinforcing passes one only without a cap, and then it passes it where the sum does. -/
theorem Pattern.reinforce_le_one_iff {p : Pattern} (hp : Within 0.0 1.0 p.baseConfidence)
    {cap : Float} (hcap : IsNumber cap → cap ≤ 1.0) (delta : Float) :
    (p.reinforce delta cap).baseConfidence ≤ 1.0 ↔
      IsNumber cap ∨ Confidence.raised p.baseConfidence delta ≤ 1.0 := by
  have hraised : p.baseConfidence ≤ Confidence.raised p.baseConfidence delta :=
    Confidence.le_raised hp.1 delta
  by_cases hnumber : IsNumber cap
  · refine iff_of_true (Confidence.greatest_le hp.2 ?_) (Or.inl hnumber)
    exact Double.le_trans (Confidence.least_le_right hnumber) (hcap hnumber)
  · show Confidence.greatest _ (Confidence.least _ cap) ≤ 1.0 ↔ _
    rw [Confidence.least_of_not_isNumber (isNumber_right hraised) hnumber, or_iff_right hnumber]
    constructor
    · intro h
      exact Double.le_trans (Confidence.le_greatest_right (isNumber_right hraised)) h
    · exact Confidence.greatest_le hp.2

namespace Catalog

variable {c : Catalog}

/-! ## The cap in force -/

/-- The cap that a change sets, if it sets one. -/
def Change.cap? : Change → Option Float
  | .withCap cap => some cap
  | .register _ | .reinforce _ _ => none

/-- The caps that the changes set, in their order. -/
def caps (changes : List Change) : List Float := changes.filterMap Change.cap?

theorem cap_register (c : Catalog) (p : Provider) : (c.register p).1.cap = c.cap := by
  rw [register]
  split <;> rfl

theorem cap_change (c : Catalog) (x : Change) :
    (c.change x).cap = (x.cap?.map (Confidence.clamp 0.0 1.0)).getD c.cap := by
  cases x with
  | register p => exact cap_register c p
  | withCap cap => rfl
  | reinforce name delta => exact cap_reinforce c name delta

theorem cap_build (changes : List Change) :
    (build changes).cap =
      ((caps changes).getLast?.map (Confidence.clamp 0.0 1.0)).getD Pattern.defaultCap :=
  Sequence.foldl_set cap_change empty changes

theorem isNumber_cap_build_iff (changes : List Change) :
    IsNumber (build changes).cap ↔ ∀ cap ∈ (caps changes).getLast?, IsNumber cap := by
  rw [cap_build]
  cases (caps changes).getLast? with
  | none => exact iff_of_true (by decide) nofun
  | some cap =>
    rw [Option.map_some, Option.getD_some, Confidence.isNumber_clamp_iff]
    exact ⟨fun h x hx => Option.some.inj hx ▸ h, fun h => h cap rfl⟩

/-! ## A cap that is a number -/

theorem adopt_le {cap : Float} (hcap : Within 0.0 1.0 cap) (h : c.cap = cap) (p : Provider) :
    (c.adopt p).baseConfidence ≤ cap := by
  have hnumber : IsNumber cap := isNumber_right hcap.1
  rw [adopt, h]
  split
  · show Confidence.clampUnit cap ≤ cap
    rw [Confidence.clampUnit, if_neg (Bool.eq_false_iff.mp hnumber),
      Confidence.clamp_eq_self hcap.1 hcap.2]
    exact Double.le_refl hnumber
  · next hlt =>
    exact le_of_not_lt (isNumber_right (Confidence.within_clampUnit p.weight).1) hnumber hlt

theorem Constructible.within_cap (h : c.Constructible) (hcap : IsNumber c.cap) :
    Within 0.0 1.0 c.cap := by
  induction h with
  | empty => exact ⟨by decide, by decide⟩
  | register h p ih =>
    rw [cap_register] at hcap ⊢
    exact ih hcap
  | withCap h cap => exact Confidence.within_clamp (Confidence.isNumber_clamp_iff.mp hcap)
  | reinforce h name delta ih =>
    rw [cap_reinforce] at hcap ⊢
    exact ih hcap

theorem Constructible.bounded (h : c.Constructible) (hcap : IsNumber c.cap) :
    c.Bounded c.cap := by
  induction h with
  | empty => exact ⟨rfl, fun _ hp => absurd hp List.not_mem_nil⟩
  | @register c h p ih =>
    rw [cap_register] at hcap ⊢
    refine ⟨cap_register c p, fun q hq => ?_⟩
    by_cases hknown : p.name ∈ c.patterns.map (·.name)
    · rw [register_of_known hknown] at hq
      exact (ih hcap).bases q hq
    · rw [register_of_new hknown] at hq
      rcases List.mem_append.mp hq with hq | hq
      · exact (ih hcap).bases q hq
      · obtain rfl := List.mem_singleton.mp hq
        exact ⟨Pattern.zero_le_adopt c p, adopt_le (h.within_cap hcap) rfl p⟩
  | @withCap c h cap ih =>
    refine ⟨rfl, fun q hq => ⟨(h.withCap cap).zero_le q hq, ?_⟩⟩
    obtain ⟨p, -, rfl⟩ := List.mem_map.mp hq
    exact Confidence.least_le_right hcap
  | reinforce h name delta ih =>
    rw [cap_reinforce] at hcap ⊢
    exact ((ih hcap).reinforce delta name).1

/-! ## The unit interval -/

theorem Constructible.get?_of_mem (h : c.Constructible) {p : Pattern} (hp : p ∈ c.patterns) :
    c.get? p.name = some p :=
  Sequence.find?_of_nodup h.nodup_names hp

def InUnit (c : Catalog) : Prop := ∀ p ∈ c.patterns, Within 0.0 1.0 p.baseConfidence

/-- Whether a change raises a pattern beyond one while there is no number to cap it. -/
def Overreaches (c : Catalog) : Change → Prop
  | .reinforce name delta => ¬IsNumber c.cap ∧
      ∃ p, c.get? name = some p ∧ 1.0 < Confidence.raised p.baseConfidence delta
  | .register _ | .withCap _ => False

theorem InUnit.register (h : c.InUnit) (p : Provider) : (c.register p).1.InUnit := by
  by_cases hknown : p.name ∈ c.patterns.map (·.name)
  · rw [register_of_known hknown]
    exact h
  · rw [register_of_new hknown]
    intro q hq
    rcases List.mem_append.mp hq with hq | hq
    · exact h q hq
    · obtain rfl := List.mem_singleton.mp hq
      rw [adopt]
      split <;> exact Confidence.within_clampUnit _

theorem InUnit.withCap (h : c.InUnit) (hc : c.Constructible) (cap : Float) :
    (c.withCap cap).InUnit := by
  intro q hq
  refine ⟨(hc.withCap cap).zero_le q hq, ?_⟩
  obtain ⟨p, hp, rfl⟩ := List.mem_map.mp hq
  obtain ⟨hlow, hhigh⟩ := h p hp
  exact Double.le_trans (Confidence.least_le_left (isNumber_right hlow)) hhigh

theorem InUnit.reinforce_iff (h : c.InUnit) (hc : c.Constructible) (name : String)
    (delta : Float) :
    (c.reinforce name delta).1.InUnit ↔ ¬c.Overreaches (.reinforce name delta) := by
  have hcap (hnumber : IsNumber c.cap) : c.cap ≤ 1.0 := (hc.within_cap hnumber).2
  constructor
  · rintro hin ⟨hnone, p, hp, hover⟩
    have hraised : (c.reinforce name delta).1.get? name = some (p.reinforce delta c.cap) := by
      rw [get?_reinforce_self, hp, Option.map_some]
    have hle := (hin _ (List.mem_of_find?_eq_some hraised)).2
    rw [Pattern.reinforce_le_one_iff (h p (List.mem_of_find?_eq_some hp)) hcap,
      or_iff_right hnone] at hle
    exact not_lt_of_le hle hover
  · intro hnot q hq
    refine ⟨(hc.reinforce name delta).zero_le q hq, ?_⟩
    rw [reinforce_fst] at hq
    rcases Sequence.mem_changeFirst hq with hq | ⟨p, hp, hname, rfl⟩
    · exact (h q hq).2
    rw [Pattern.reinforce_le_one_iff (h p hp) hcap]
    by_contra hpassed
    obtain ⟨hnone, hover⟩ := not_or.mp hpassed
    have hnumber := isNumber_right (Confidence.le_raised (h p hp).1 delta)
    refine hnot ⟨hnone, p, ?_, lt_of_not_le isNumber_one hnumber hover⟩
    rw [← beq_iff_eq.mp hname]
    exact hc.get?_of_mem hp

theorem InUnit.change_iff (h : c.InUnit) (hc : c.Constructible) (x : Change) :
    (c.change x).InUnit ↔ ¬c.Overreaches x := by
  cases x with
  | register p => exact iff_of_true (h.register p) id
  | withCap cap => exact iff_of_true (h.withCap hc cap) id
  | reinforce name delta => exact h.reinforce_iff hc name delta

/-- Base confidences are numbers, and none is ever lowered by reinforcing.  They keep to the cap and
to the unit interval while the cap last set is a number.  Otherwise none keeps to the cap, and they
leave the unit interval where a reinforcement takes one of them beyond it. -/
theorem bases_keep_to_caps_that_are_numbers (changes : List Change) :
    let c := build changes
    let numeric := ∀ cap ∈ (caps changes).getLast?, IsNumber cap
    (∀ p ∈ c.patterns, 0.0 ≤ p.baseConfidence) ∧
    (numeric → Within 0.0 1.0 c.cap ∧
      ∀ p ∈ c.patterns, Within 0.0 1.0 p.baseConfidence ∧ p.baseConfidence ≤ c.cap) ∧
    ((∀ p ∈ c.patterns, p.baseConfidence ≤ c.cap) ↔ c.patterns = [] ∨ numeric) ∧
    (c.InUnit → ∀ x, (c.change x).InUnit ↔ ¬c.Overreaches x) ∧
    ∀ name delta, c.GrowsTo (c.reinforce name delta).1 := by
  intro c numeric
  have hc : c.Constructible := constructible_build changes
  have hnumber : IsNumber c.cap ↔ numeric := isNumber_cap_build_iff changes
  refine ⟨hc.zero_le, fun hcap => ?_, ⟨fun hle => ?_, ?_⟩, fun h x => h.change_iff hc x,
    growsTo_reinforce hc.zero_le⟩
  · have hwithin := hc.within_cap (hnumber.mpr hcap)
    refine ⟨hwithin, fun p hp => ?_⟩
    obtain ⟨hlow, hhigh⟩ := (hc.bounded (hnumber.mpr hcap)).bases p hp
    exact ⟨⟨hlow, Double.le_trans hhigh hwithin.2⟩, hhigh⟩
  · cases hpatterns : c.patterns with
    | nil => exact Or.inl rfl
    | cons p rest =>
      have hp : p ∈ c.patterns := hpatterns ▸ List.mem_cons_self
      exact Or.inr (hnumber.mp (isNumber_right (hle p hp)))
  · rintro (hnil | hcap) p hp
    · rw [hnil] at hp
      exact absurd hp List.not_mem_nil
    · exact ((hc.bounded (hnumber.mpr hcap)).bases p hp).2

/-- A pattern of 0.9 is raised by 0.5 under a cap that is no number. -/
theorem cap_that_is_no_number_bounds_nothing :
    let eager : Provider := ⟨"Eager", ["eager"], 0.9, ""⟩
    let c := build [.register eager, .withCap (0.0 / 0.0), .reinforce "Eager" 0.5]
    ∃ p ∈ c.patterns, 1.0 < p.baseConfidence ∧ ¬p.baseConfidence ≤ c.cap := by
  decide +kernel

end Catalog
end Motif
