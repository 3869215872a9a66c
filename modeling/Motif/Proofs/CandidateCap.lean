import Motif.Proofs.Bounds
import Motif.Proofs.WatchlistChanges

/-!
The cap of a watchlist.  It binds a candidate when the candidate is seen, not when the cap is set.
A candidate that stands above a new cap keeps its confidence until it is seen once more, and that
sighting, which should raise it, lowers it to the cap.
-/

namespace Motif

open Double

namespace Watchlist

variable {w : Watchlist} {name : String} {c : Candidate}

/-! ## The cap in force -/

/-- The cap that a change sets, if it sets one. -/
def Change.cap? : Change → Option Float
  | .observe _ => none
  | .withCap cap => some cap

/-- The caps that the changes set, in their order. -/
def caps (changes : List Change) : List Float := changes.filterMap Change.cap?

theorem cap_see (w : Watchlist) (o : Observation) : (w.see o).1.cap = w.cap := by
  rw [see, observe]
  split <;> rfl

theorem cap_change (w : Watchlist) (x : Change) :
    (w.change x).cap = (x.cap?.map (Confidence.clamp 0.0 1.0)).getD w.cap := by
  cases x with
  | observe o => exact cap_see w o
  | withCap cap => rfl

theorem cap_build (nudge : Float) (changes : List Change) :
    (build nudge changes).cap =
      ((caps changes).getLast?.map (Confidence.clamp 0.0 1.0)).getD Candidate.defaultCap :=
  Sequence.foldl_set cap_change (empty nudge) changes

theorem within_cap_build (nudge : Float) {changes : List Change}
    (h : ∀ cap ∈ (caps changes).getLast?, IsNumber cap) :
    Within 0.0 1.0 (build nudge changes).cap := by
  rw [cap_build]
  cases hlast : (caps changes).getLast? with
  | none => exact ⟨by decide, by decide⟩
  | some cap => exact Confidence.within_clamp (h cap hlast)

/-! ## One sighting -/

theorem confidence_see_le (hcap : IsNumber w.cap) (o : Observation) :
    (w.see o).2.candidate.confidence ≤ w.cap := by
  cases hget : w.get? o.name with
  | some c =>
    rw [see_of_known hget]
    exact Confidence.least_le_right hcap
  | none =>
    rw [see_of_new hget]
    exact Confidence.least_le_right hcap

/-- A sighting lowers what stands above the cap, and nothing else. -/
theorem le_confidence_see_iff (hcap : IsNumber w.cap) {o : Observation}
    (hget : w.get? o.name = some c) (hc : 0.0 ≤ c.confidence) :
    c.confidence ≤ (w.see o).2.candidate.confidence ↔ c.confidence ≤ w.cap := by
  constructor
  · intro h
    exact Double.le_trans h (confidence_see_le hcap o)
  · intro h
    rw [see_of_known hget]
    exact (observe_within ⟨hc, h⟩ o.fragment o.now w.nudge).1

/-- No confidence is negative, under any caps and nudges. -/
structure Nonnegative (w : Watchlist) : Prop where
  cap : IsNumber w.cap → 0.0 ≤ w.cap
  confidence : ∀ name c, w.get? name = some c → 0.0 ≤ c.confidence

namespace Nonnegative

theorem confidence_see (h : w.Nonnegative) (o : Observation) :
    0.0 ≤ (w.see o).2.candidate.confidence := by
  cases hget : w.get? o.name with
  | some c =>
    have hraised : 0.0 ≤ Confidence.raised c.confidence w.nudge :=
      Double.le_trans (h.confidence _ c hget) (Confidence.le_raised (h.confidence _ c hget) w.nudge)
    rw [see_of_known hget]
    exact Confidence.le_least (Or.inl (isNumber_right hraised)) (fun _ => hraised) h.cap
  | none =>
    have hunit := (Confidence.within_clampUnit o.confidence).1
    rw [see_of_new hget]
    exact Confidence.le_least (Or.inl (isNumber_right hunit)) (fun _ => hunit) h.cap

theorem change (h : w.Nonnegative) (x : Change) : (w.change x).Nonnegative := by
  cases x with
  | observe o =>
    show (w.see o).1.Nonnegative
    refine ⟨?_, fun name c hc => ?_⟩
    · rw [cap_see]
      exact h.cap
    · rw [get?_see] at hc
      split at hc
      · obtain rfl := Option.some.inj hc
        exact h.confidence_see o
      · exact h.confidence name c hc
  | withCap cap => exact ⟨Confidence.zero_le_clamp, h.confidence⟩

end Nonnegative

theorem nonnegative_build (nudge : Float) (changes : List Change) :
    (build nudge changes).Nonnegative := by
  induction changes using List.reverseRecOn with
  | nil =>
    have hdefault : 0.0 ≤ Candidate.defaultCap := by decide
    exact ⟨fun _ => hdefault,
      fun _ _ hc => absurd (List.mem_of_find?_eq_some hc) List.not_mem_nil⟩
  | append_singleton changes x ih =>
    rw [build_append]
    exact ih.change x

/-! ## Sightings in a row -/

/-- The watchlist after further sightings. -/
def watch (w : Watchlist) (later : List Observation) : Watchlist :=
  later.foldl (fun w o => (w.see o).1) w

theorem watch_append (w : Watchlist) (first later : List Observation) :
    w.watch (first ++ later) = (w.watch first).watch later :=
  List.foldl_append

theorem watch_concat (w : Watchlist) (later : List Observation) (o : Observation) :
    w.watch (later ++ [o]) = ((w.watch later).see o).1 :=
  w.watch_append later [o]

theorem build_observe (nudge : Float) (changes : List Change) (later : List Observation) :
    build nudge (changes ++ later.map .observe) = (build nudge changes).watch later := by
  rw [build_append, List.foldl_map]
  rfl

theorem cap_watch (w : Watchlist) (later : List Observation) : (w.watch later).cap = w.cap := by
  induction later using List.reverseRecOn with
  | nil => rfl
  | append_singleton later o ih => rw [watch_concat, cap_see, ih]

/-- After some sightings a candidate keeps to the cap if it is among them or kept to it before. -/
theorem le_cap_watch_iff (hcap : IsNumber w.cap) {later : List Observation}
    (hc : (w.watch later).get? name = some c) :
    c.confidence ≤ w.cap ↔
      (∃ o ∈ later, o.name = name) ∨ ∃ b, w.get? name = some b ∧ b.confidence ≤ w.cap := by
  induction later using List.reverseRecOn with
  | nil =>
    constructor
    · intro hle
      exact Or.inr ⟨c, hc, hle⟩
    · rintro (⟨o, ho, -⟩ | ⟨b, hb, hle⟩)
      · exact absurd ho List.not_mem_nil
      · obtain rfl := Option.some.inj (hb.symm.trans hc)
        exact hle
  | append_singleton later o ih =>
    rw [watch_concat, get?_see] at hc
    by_cases hname : name = o.name
    · rw [if_pos hname] at hc
      obtain rfl := Option.some.inj hc
      refine iff_of_true ?_ (Or.inl ⟨o, List.mem_concat_self, hname.symm⟩)
      rw [← cap_watch w later] at hcap ⊢
      exact confidence_see_le hcap o
    · rw [if_neg hname] at hc
      rw [ih hc]
      refine or_congr_left ?_
      simp [Ne.symm hname]

/-- A candidate keeps to the cap in force when it was seen since the cap was set, or kept to it
already.  A sighting leaves its candidate within the cap, and takes confidence from it exactly if it
stood above. -/
theorem cap_binds_candidates_seen_since (nudge : Float) (changes : List Change)
    (later : List Observation) (h : ∀ cap ∈ (caps changes).getLast?, IsNumber cap) :
    let v := build nudge changes
    let w := build nudge (changes ++ later.map .observe)
    w.cap = v.cap ∧ Within 0.0 1.0 w.cap ∧
    (∀ name c, w.get? name = some c → 0.0 ≤ c.confidence ∧
      (c.confidence ≤ w.cap ↔
        (∃ o ∈ later, o.name = name) ∨ ∃ b, v.get? name = some b ∧ b.confidence ≤ v.cap)) ∧
    ∀ o, (w.see o).2.candidate.confidence ≤ w.cap ∧
      ∀ c, w.get? o.name = some c →
        (c.confidence ≤ (w.see o).2.candidate.confidence ↔ c.confidence ≤ w.cap) := by
  intro v w
  have hw : w = v.watch later := build_observe nudge changes later
  have hcap : w.cap = v.cap := by rw [hw, cap_watch]
  have hunit : Within 0.0 1.0 v.cap := within_cap_build nudge h
  have hnumber : IsNumber v.cap := isNumber_right hunit.1
  have hnonnegative : w.Nonnegative := nonnegative_build nudge _
  refine ⟨hcap, hcap ▸ hunit, fun name c hc => ⟨hnonnegative.confidence name c hc, ?_⟩,
    fun o => ⟨confidence_see_le (hcap ▸ hnumber) o, fun c hc => ?_⟩⟩
  · rw [hcap]
    exact le_cap_watch_iff hnumber (hw ▸ hc)
  · exact le_confidence_see_iff (hcap ▸ hnumber) hc (hnonnegative.confidence o.name c hc)

/-- Two candidates of 0.6 when the cap is set to 0.5.  Only one of them is seen after that. -/
theorem cap_binds_candidates_seen_since_one_of_two :
    let seen (name : String) : Observation := ⟨name, "", 0.6, default, default⟩
    let changes : List Change := [.observe (seen "X"), .observe (seen "Y"), .withCap 0.5]
    let w := build 0.05 (changes ++ [seen "X"].map .observe)
    (∀ cap ∈ (caps changes).getLast?, IsNumber cap) ∧
    (∃ c, w.get? "X" = some c ∧ c.confidence ≤ w.cap) ∧
    ∃ c, w.get? "Y" = some c ∧ ¬c.confidence ≤ w.cap := by
  intro seen changes w
  have hcaps : ∀ cap ∈ (caps changes).getLast?, IsNumber cap := by decide
  have hstands : ∀ b ∈ (build 0.05 changes).get? "Y", ¬b.confidence ≤ (build 0.05 changes).cap := by
    decide +kernel
  have hx : (w.get? "X").isSome := by decide +kernel
  have hy : (w.get? "Y").isSome := by decide +kernel
  obtain ⟨-, -, hbound, -⟩ := cap_binds_candidates_seen_since 0.05 changes [seen "X"] hcaps
  obtain ⟨c, hc⟩ := Option.isSome_iff_exists.mp hx
  obtain ⟨d, hd⟩ := Option.isSome_iff_exists.mp hy
  refine ⟨hcaps, ⟨c, hc, ?_⟩, d, hd, ?_⟩
  · exact (hbound "X" c hc).2.mpr (Or.inl ⟨seen "X", List.mem_singleton_self _, rfl⟩)
  · rw [(hbound "Y" d hd).2]
    rintro (⟨o, ho, hname⟩ | ⟨b, hb, hle⟩)
    · obtain rfl := List.mem_singleton.mp ho
      exact absurd hname (by decide)
    · exact hstands b hb hle

/-- A candidate of 0.6 stays above a cap of 0.5, and the next sighting lowers it. -/
theorem lowered_cap_leaves_candidates :
    let x : Observation := ⟨"X", "", 0.6, default, default⟩
    let w := build 0.05 [.observe x, .withCap 0.5]
    ∃ c ∈ w.candidates,
      ¬c.confidence ≤ w.cap ∧ (w.see x).2.candidate.confidence < c.confidence := by
  decide +kernel

end Watchlist
end Motif
