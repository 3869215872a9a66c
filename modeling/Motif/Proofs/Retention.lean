import Mathlib.Data.List.Induction
import Mathlib.Data.List.Nodup
import Mathlib.Logic.Function.Iterate
import Motif.Proofs.Course
import Motif.Proofs.EventLog

/-!
What the history holds.  It is a window on the commits of the course: the fragments and the records
of the latest of them, oldest first, each record at the place of its fragment.  The lifetime
counters count every commit, and a commit drops one record as soon as the window is full.
-/

namespace Motif

/-! ## Names of proposals -/

theorem Sequence.eraseDups_concat (names : List String) (n : String) :
    (names ++ [n]).eraseDups =
      if n ∈ names then names.eraseDups else names.eraseDups ++ [n] := by
  rw [List.eraseDups_append]
  by_cases hn : n ∈ names
  · rw [if_pos hn]
    simp [List.removeAll, hn]
  · rw [if_neg hn]
    simp [List.removeAll, hn, List.eraseDups_cons]

theorem Sequence.nodup_eraseDups (names : List String) : names.eraseDups.Nodup := by
  induction names using List.reverseRecOn with
  | nil => exact List.nodup_nil
  | append_singleton names n ih =>
    rw [eraseDups_concat]
    split
    · exact ih
    · next hn =>
      rw [← List.concat_eq_append]
      exact ih.concat fun hin => hn (List.mem_eraseDups.mp hin)

namespace Proposal

theorem names_distinct (ps : List Proposal) :
    (distinct ps).map (·.name) = (ps.map (·.name)).eraseDups := by
  induction ps using List.reverseRecOn with
  | nil => rfl
  | append_singleton ps p ih =>
    rw [distinct_concat, names_merge, ih, List.map_append, List.map_singleton,
      Sequence.eraseDups_concat]
    simp only [List.mem_eraseDups]

theorem mem_names_distinct {ps : List Proposal} {name : String} :
    name ∈ (distinct ps).map (·.name) ↔ name ∈ ps.map (·.name) := by
  rw [names_distinct, List.mem_eraseDups]

end Proposal

/-! ## Confidence of a fragment -/

theorem Fragment.confidence_reinforceTimes (f : Fragment) (delta : Float) (count : Nat) :
    (f.reinforceTimes delta count).confidence =
      (fun x => Confidence.clampUnit (Confidence.raised x delta))^[count] f.confidence := by
  induction count generalizing f with
  | zero => rfl
  | succ count ih =>
    rw [reinforceTimes, ih, Function.iterate_succ_apply]
    rfl

namespace Course

/-- What a fragment gains for one match. -/
def gain (s : EngineSettings) (x : Float) : Float :=
  Confidence.clampUnit (Confidence.raised x s.fragmentReinforcement)

/-- An evaluation whose fragment was reinforced once for each match. -/
def Reinforced (s : EngineSettings) (v : Evaluation) : Prop :=
  v.fragment.confidence = (gain s)^[v.matched.length] Fragment.initialConfidence

theorem kept_reinforced (s : EngineSettings) :
    Kept (fun e => e.matcher.reinforcement = s.fragmentReinforcement) (Reinforced s) where
  evaluate := fun e stamp code context v he hv => by
    obtain ⟨-, hfragment, -⟩ := Engine.evaluate_eq_ok hv
    rw [Reinforced, hfragment, Fragment.confidence_reinforceTimes, he]
    rfl
  commit := fun k hk _ => hk

/-! ## The window on the commits -/

/-- The history and the counters of an engine that came from a fresh one by these commits. -/
structure Recorded (s : EngineSettings) (commits : List Commit) (e : Engine) : Prop where
  window : e.history.window = max s.retentionWindow 1
  fragments : e.history.fragments =
    Sequence.latest (max s.retentionWindow 1) (commits.map (·.evaluation.fragment))
  records : e.history.records =
    Sequence.latest (max s.retentionWindow 1) (commits.map (·.record))
  analyses : e.history.totalAnalyses = commits.length
  observations : e.observations = commits.length

theorem Leads.recorded {s : EngineSettings} {e f : Engine} {commits : List Commit}
    (he : Recorded s [] e) (h : Leads e commits f) : Recorded s commits f := by
  induction h with
  | nil => exact he
  | @snoc earlier k h ih =>
    refine ⟨ih.window, ?_, ?_, ?_, ?_⟩
    · rw [k.history_after, History.add, ih.fragments, ih.window, Sequence.latest_latest_append,
        List.map_append]
      rfl
    · rw [k.history_after, History.add, ih.records, ih.window, Sequence.latest_latest_append,
        List.map_append]
      rfl
    · rw [List.length_append]
      exact congrArg (· + 1) ih.analyses
    · rw [List.length_append]
      exact congrArg (· + 1) ih.observations

theorem recorded_assemble (s : EngineSettings) (c : Catalog) (d : Detector) :
    Recorded s [] (Engine.assemble s c d) where
  window := rfl
  fragments := (Sequence.latest_eq_self (Nat.zero_le _)).symm
  records := (Sequence.latest_eq_self (Nat.zero_le _)).symm
  analyses := rfl
  observations := rfl

/-! ## One commit -/

theorem Recorded.size {s : EngineSettings} {commits : List Commit} {e : Engine}
    (h : Recorded s commits e) :
    e.history.fragments.length = min commits.length (max s.retentionWindow 1) ∧
      e.history.records.length = min commits.length (max s.retentionWindow 1) := by
  rw [h.fragments, h.records, Sequence.length_latest, Sequence.length_latest, List.length_map,
    List.length_map, Nat.min_comm]
  exact ⟨rfl, rfl⟩

/-- What a commit tells and drops when it comes after the given ones. -/
theorem Recorded.commit {s : EngineSettings} {earlier : List Commit} {k : Commit}
    (h : Recorded s earlier k.before) (h' : Recorded s (earlier ++ [k]) k.after) :
    let n := earlier.length
    let w := max s.retentionWindow 1
    k.removed = (if w ≤ n then 1 else 0) ∧
      k.outcome.observationCount = n + 1 ∧
      k.outcome.insights.totalAnalyses = n + 1 ∧
      k.outcome.insights.totalFragments = min (n + 1) w ∧
      k.outcome.insights.retainedRecords = min (n + 1) w := by
  intro n w
  have hlength : (earlier ++ [k]).length = n + 1 := List.length_append
  obtain ⟨hfragments, hrecords⟩ := h'.size
  rw [hlength] at hfragments hrecords
  refine ⟨?_, congrArg (· + 1) h.observations, congrArg (· + 1) h.analyses, hfragments, hrecords⟩
  have hremoved : k.removed = (k.before.history.records ++ [k.record]).length -
      k.before.history.window := rfl
  have hsize := h.size.2
  have hpos : 1 ≤ w := Nat.le_max_right _ _
  rw [hremoved, List.length_append, List.length_singleton, hsize, h.window]
  show min n w + 1 - w = _
  split <;> omega

/-- A commit's record lists its matches and its candidates, under the identifier of its fragment. -/
theorem record_spec (k : Commit) :
    k.record.fragment = k.evaluation.fragment.id ∧
      k.record.matched = k.evaluation.matched.map (·.pattern) ∧
      k.record.proposed = (k.evaluation.proposed.map (·.name)).eraseDups := by
  refine ⟨rfl, rfl, ?_⟩
  rw [← Proposal.names_distinct]
  exact Sequence.distinct_eq_self (Proposal.nodup_names_distinct _)

theorem isSome_fragment?_iff {h : History}
    (hids : h.fragments.map (·.id) = h.records.map (·.fragment)) (id : Uuid) :
    (h.fragment? id).isSome ↔ ∃ r ∈ h.records, r.fragment = id := by
  have hmem : id ∈ h.fragments.map (·.id) ↔ id ∈ h.records.map (·.fragment) := by rw [hids]
  rw [List.mem_map, List.mem_map] at hmem
  rw [History.fragment?, List.find?_isSome, ← hmem]
  simp only [beq_iff_eq]

/-- The history of a course holds the latest commits, as many as the window lets it, and its
counters count them all. -/
theorem history_holds_latest_commits (s : EngineSettings) (c : Catalog) (d : Detector)
    (moves : List Move) :
    let run := (start (Engine.assemble s c d)).run moves
    let n := run.commits.length
    let w := max s.retentionWindow 1
    let last := run.commits.drop (n - w)
    let h := run.engine.history
    last.length = min n w ∧
    h.fragments = last.map (·.evaluation.fragment) ∧
    h.records = last.map (·.record) ∧
    (∀ k ∈ run.commits,
      k.record.fragment = k.evaluation.fragment.id ∧
      k.record.matched = k.evaluation.matched.map (·.pattern) ∧
      k.record.proposed = (k.evaluation.proposed.map (·.name)).eraseDups ∧
      k.evaluation.fragment.confidence =
        (gain s)^[k.record.matched.length] Fragment.initialConfidence) ∧
    (∀ j k, run.commits[j]? = some k →
      k.removed = (if w ≤ j then 1 else 0) ∧
      k.outcome.observationCount = j + 1 ∧
      k.outcome.insights.totalAnalyses = j + 1 ∧
      k.outcome.insights.totalFragments = min (j + 1) w ∧
      k.outcome.insights.retainedRecords = min (j + 1) w) ∧
    h.totalAnalyses = n ∧
    run.engine.observations = n ∧
    run.engine.insights.totalFragments = run.engine.insights.retainedRecords ∧
    ∀ id, (h.fragment? id).isSome ↔ ∃ r ∈ h.records, r.fragment = id := by
  intro run n w last h
  have hleads : Leads _ run.commits run.engine := leads_run _ moves
  have hfresh := recorded_assemble s c d
  have hrecorded : Recorded s run.commits run.engine := hleads.recorded hfresh
  have hfragments : h.fragments = last.map (·.evaluation.fragment) :=
    hrecorded.fragments.trans (Sequence.latest_map _ w run.commits)
  have hrecords : h.records = last.map (·.record) :=
    hrecorded.records.trans (Sequence.latest_map _ w run.commits)
  have hlast : last.length = min n w := by
    rw [List.length_drop]
    omega
  have hids : h.fragments.map (·.id) = h.records.map (·.fragment) := by
    rw [hfragments, hrecords, List.map_map, List.map_map]
    rfl
  refine ⟨hlast, hfragments, hrecords, ?_, ?_, hrecorded.analyses, hrecorded.observations, ?_,
    isSome_fragment?_iff hids⟩
  · intro k hk
    have hstart : Holds (fun e => e.matcher.reinforcement = s.fragmentReinforcement) (Reinforced s)
        (start (Engine.assemble s c d)) := ⟨rfl, by simp [start], by simp [start]⟩
    have hconfidence : Reinforced s k.evaluation :=
      ((hstart.run (kept_reinforced s) moves).commits k hk).2
    obtain ⟨hid, hmatched, hproposed⟩ := record_spec k
    refine ⟨hid, hmatched, hproposed, ?_⟩
    rw [hmatched, List.length_map]
    exact hconfidence
  · intro j k hk
    have hbefore := hleads.before hk
    have hlength : (run.commits.take j).length = j := by
      have hlt := (List.getElem?_eq_some_iff.mp hk).1
      rw [List.length_take]
      omega
    have hcommit := (hbefore.recorded hfresh).commit (hbefore.snoc.recorded hfresh)
    rw [hlength] at hcommit
    exact hcommit
  · exact hrecorded.size.1.trans hrecorded.size.2.symm

end Course
end Motif
