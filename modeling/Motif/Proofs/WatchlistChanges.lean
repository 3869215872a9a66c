import Motif.Proofs.Promotion

/-!
Watchlists as they are built: names are observed and the cap is set, in any order.  A candidate is
the record of the observations of its name.  It keeps what the first of them said, counts them all,
and remembers the fragments of the latest.
-/

namespace Motif

/-! ## Observations -/

structure Watchlist.Observation where
  name : String
  description : String
  confidence : Float
  fragment : Uuid
  now : Timestamp

/-- What a candidate holds of the observations of its name. -/
structure Candidate.Records (c : Candidate) (seen : List Watchlist.Observation) : Prop where
  name : ∀ o ∈ seen, o.name = c.name
  description : seen.head?.map (·.description) = some c.description
  occurrences : c.occurrences = seen.length
  firstSeen : seen.head?.map (·.now) = some c.firstSeen
  lastSeen : seen.getLast?.map (·.now) = some c.lastSeen
  fragments : c.fragments = (Sequence.latest Candidate.memory seen).map (·.fragment)

namespace Candidate

theorem records_propose (o : Watchlist.Observation) (cap : Float) :
    (propose o.name o.description o.confidence o.fragment o.now cap).Records [o] where
  name := fun _ hx => congrArg (·.name) (List.mem_singleton.mp hx)
  description := rfl
  occurrences := rfl
  firstSeen := rfl
  lastSeen := rfl
  fragments := rfl

/-- What comes behind a list that is not empty leaves its head. -/
theorem Records.head_append {c : Candidate} {seen : List Watchlist.Observation}
    (h : c.Records seen) (more : List Watchlist.Observation) :
    (seen ++ more).head? = seen.head? := by
  obtain ⟨first, hfirst, -⟩ := Option.map_eq_some_iff.mp h.description
  rw [List.head?_append, hfirst, Option.some_or]

theorem Records.observe {c : Candidate} {seen : List Watchlist.Observation} (h : c.Records seen)
    {o : Watchlist.Observation} (hname : o.name = c.name) (nudge cap : Float) :
    (c.observe o.fragment o.now nudge cap).Records (seen ++ [o]) where
  name := fun x hx => by
    rcases List.mem_append.mp hx with hx | hx
    · exact h.name x hx
    · obtain rfl := List.mem_singleton.mp hx
      exact hname
  description := by
    rw [h.head_append]
    exact h.description
  occurrences := by
    rw [List.length_append, ← h.occurrences]
    rfl
  firstSeen := by
    rw [h.head_append]
    exact h.firstSeen
  lastSeen := by
    rw [List.getLast?_concat]
    rfl
  fragments := by
    show Sequence.latest memory (c.fragments ++ [o.fragment]) = _
    rw [h.fragments, ← Sequence.latest_map, Sequence.latest_latest_append, ← Sequence.latest_map,
      List.map_append]
    rfl

theorem Records.length_fragments {c : Candidate} {seen : List Watchlist.Observation}
    (h : c.Records seen) : c.fragments.length = min c.occurrences memory := by
  rw [h.fragments, List.length_map, Sequence.length_latest, h.occurrences, Nat.min_comm]

end Candidate

namespace Watchlist

def see (w : Watchlist) (o : Observation) : Watchlist × Sighting :=
  w.observe o.name o.description o.confidence o.fragment o.now

/-! ## Changes -/

inductive Change where
  | observe (o : Observation)
  | withCap (cap : Float)

def change (w : Watchlist) : Change → Watchlist
  | .observe o => (w.see o).1
  | .withCap cap => w.withCap cap

/-- The watchlist that the changes make of an empty one. -/
def build (nudge : Float) (changes : List Change) : Watchlist :=
  changes.foldl change (empty nudge)

theorem build_append (nudge : Float) (before after : List Change) :
    build nudge (before ++ after) = after.foldl change (build nudge before) :=
  List.foldl_append

def Change.observation? : Change → Option Observation
  | .observe o => some o
  | .withCap _ => none

/-- What was observed in the course of the changes. -/
def observations (changes : List Change) : List Observation :=
  changes.filterMap Change.observation?

/-! ## One sighting -/

variable {w : Watchlist} {seen : List Observation}

theorem get?_see (w : Watchlist) (o : Observation) (name : String) :
    (w.see o).1.get? name =
      if name = o.name then some (w.see o).2.candidate else w.get? name :=
  get?_observe w _ _ _ _ _ name

theorem see_of_known {o : Observation} {c : Candidate} (h : w.get? o.name = some c) :
    (w.see o).2 = .repeated (c.observe o.fragment o.now w.nudge w.cap) := by
  rw [see, observe_of_some h]

theorem see_of_new {o : Observation} (h : w.get? o.name = none) :
    (w.see o).2 = .discovered
      (Candidate.propose o.name o.description o.confidence o.fragment o.now w.cap) := by
  rw [see, observe_of_none h]

theorem see_snd (w : Watchlist) (o : Observation) :
    (w.see o).2 =
      if (w.get? o.name).isSome then .repeated (w.see o).2.candidate
      else .discovered (w.see o).2.candidate := by
  cases h : w.get? o.name with
  | some c =>
    rw [see_of_known h]
    rfl
  | none =>
    rw [see_of_new h]
    rfl

/-- A watchlist that records these observations. -/
structure Faithful (w : Watchlist) (seen : List Observation) : Prop where
  names : w.candidates.map (·.name) = (seen.map (·.name)).eraseDups
  records : ∀ name c, w.get? name = some c → c.Records (seen.filter (·.name == name))

namespace Faithful

theorem isSome_get?_iff (h : w.Faithful seen) (name : String) :
    (w.get? name).isSome ↔ name ∈ seen.map (·.name) := by
  rw [← mem_names_iff, h.names, List.mem_eraseDups]

theorem filter_eq_nil (h : w.Faithful seen) {name : String} (hnew : w.get? name = none) :
    seen.filter (·.name == name) = [] := by
  have hnot : name ∉ seen.map (·.name) := by
    rw [← h.isSome_get?_iff, hnew]
    exact Bool.false_ne_true
  refine List.filter_eq_nil_iff.mpr fun o ho heq => hnot ?_
  exact eq_of_beq heq ▸ List.mem_map_of_mem ho

/-- The candidate that a sighting answers records what was seen, the sighting included. -/
theorem records_see (h : w.Faithful seen) (o : Observation) :
    (w.see o).2.candidate.Records (seen.filter (·.name == o.name) ++ [o]) := by
  cases hget : w.get? o.name with
  | some c =>
    rw [see_of_known hget]
    have hname := List.find?_some hget
    exact (h.records _ _ hget).observe (eq_of_beq hname).symm _ _
  | none =>
    rw [see_of_new hget, h.filter_eq_nil hget]
    exact Candidate.records_propose o w.cap

theorem see (h : w.Faithful seen) (o : Observation) : (w.see o).1.Faithful (seen ++ [o]) where
  names := by
    rw [Watchlist.see, names_observe, List.map_append, List.map_singleton,
      Sequence.eraseDups_concat, h.names]
    simp only [List.mem_eraseDups]
  records := fun name c hc => by
    rw [get?_see] at hc
    rw [List.filter_append]
    by_cases hname : name = o.name
    · subst hname
      rw [if_pos rfl] at hc
      obtain rfl := Option.some.inj hc
      rw [List.filter_singleton, beq_self_eq_true, cond_true]
      exact h.records_see o
    · rw [if_neg hname] at hc
      rw [List.filter_singleton, beq_eq_false_iff_ne.mpr (Ne.symm hname), cond_false,
        List.append_nil]
      exact h.records name c hc

end Faithful

theorem faithful_build (nudge : Float) (changes : List Change) :
    (build nudge changes).Faithful (observations changes) := by
  induction changes using List.reverseRecOn with
  | nil => exact ⟨rfl, fun _ _ hc => absurd (List.mem_of_find?_eq_some hc) List.not_mem_nil⟩
  | append_singleton changes x ih =>
    rw [build_append, observations, List.filterMap_append]
    cases x with
    | observe o => exact ih.see o
    | withCap cap =>
      -- a cap is no observation, and the candidates stay as they are
      show ((build nudge changes).withCap cap).Faithful (observations changes ++ [])
      rw [List.append_nil]
      exact ⟨ih.names, ih.records⟩

/-- Whatever is done to a watchlist, it holds one candidate for each name that was observed, found
under that name, and the candidate records the observations of the name and nothing else.  A
sighting answers with the candidate that is stored, new or repeated, and leaves the others alone. -/
theorem candidates_are_faithful (nudge : Float) (changes : List Change) :
    let w := build nudge changes
    let seen := observations changes
    let names := w.candidates.map (·.name)
    names = (seen.map (·.name)).eraseDups ∧ names.Nodup ∧
    (∀ c, c ∈ w.candidates ↔ w.get? c.name = some c) ∧
    (∀ name, (w.get? name).isSome ↔ ∃ o ∈ seen, o.name = name) ∧
    (∀ name c, w.get? name = some c →
      c.name = name ∧ c.Records (seen.filter (·.name == name)) ∧
      c.fragments.length = min c.occurrences 64) ∧
    ∀ o,
      let x := (w.see o).1
      let c := (w.see o).2.candidate
      x = build nudge (changes ++ [.observe o]) ∧ x.get? o.name = some c ∧
      (w.see o).2 = (if o.name ∈ seen.map (·.name) then .repeated c else .discovered c) ∧
      ∀ name, name ≠ o.name → x.get? name = w.get? name := by
  intro w seen names
  have h : w.Faithful seen := faithful_build nudge changes
  have hnodup : names.Nodup := by
    show (w.candidates.map (·.name)).Nodup
    rw [h.names]
    exact Sequence.nodup_eraseDups _
  have hknown (name : String) : (w.get? name).isSome ↔ ∃ o ∈ seen, o.name = name :=
    (h.isSome_get?_iff name).trans List.mem_map
  refine ⟨h.names, hnodup, fun c => ⟨fun hc => Sequence.find?_of_nodup hnodup hc,
    List.mem_of_find?_eq_some⟩, hknown, fun name c hc => ?_, fun o => ?_⟩
  · have hname := List.find?_some hc
    have hrecords := h.records name c hc
    exact ⟨eq_of_beq hname, hrecords, hrecords.length_fragments⟩
  · intro x c
    refine ⟨?_, ?_, ?_, fun name hname => ?_⟩
    · rw [build_append]
      rfl
    · rw [get?_see, if_pos rfl]
    · rw [see_snd]
      simp only [h.isSome_get?_iff]
      rfl
    · rw [get?_see, if_neg hname]

end Watchlist
end Motif
