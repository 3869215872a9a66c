import Motif.Proofs.Promotion

/-!
The order of commits.  A commit reads from its evaluation the names of the matches and the names of
the proposals, and each name makes the same step whenever its turn comes: a pattern climbs by one
capped reinforcement, a candidate gains one sighting.  After a list of commits, the patterns, the
sightings and the counters therefore depend on how often each name came, and not on the order in
which the evaluations were committed.
-/

namespace Motif

namespace Evaluation

def matchedNames (v : Evaluation) : List String := v.matched.map (·.pattern)

/-- The names of the proposals, each once. -/
def proposedNames (v : Evaluation) : List String := (Proposal.distinct v.proposed).map (·.name)

end Evaluation

/-! ## Sightings -/

namespace Watchlist

/-- What `n` further sightings make of the number of sightings. -/
def raise (sightings : Option Nat) (n : Nat) : Option Nat :=
  if n = 0 then sightings else some (sightings.getD 0 + n)

theorem raise_raise (sightings : Option Nat) (m n : Nat) :
    raise (raise sightings m) n = raise sightings (m + n) := by
  by_cases hm : m = 0
  · subst hm
    rw [Nat.zero_add, raise, raise, if_pos rfl, raise]
  · by_cases hn : n = 0
    · subst hn
      rw [Nat.add_zero, raise, if_pos rfl]
    · have hsum : m + n ≠ 0 := by omega
      rw [raise, raise, raise, if_neg hm, if_neg hn, if_neg hsum, Option.getD_some, Nat.add_assoc]

/-- Learning counts the proposals of a name, whatever stands between them. -/
theorem sightings_learn_eq_raise (fragment : Uuid) (now : Timestamp) (w : Watchlist)
    (ps : List Proposal) (name : String) :
    (w.learn fragment now ps).1.sightings name =
      raise (w.sightings name) ((ps.map (·.name)).count name) := by
  induction ps generalizing w with
  | nil => rfl
  | cons p rest ih =>
    have hone : (w.observe p.name p.description p.confidence fragment now).1.sightings name =
        raise (w.sightings name) (if p.name = name then 1 else 0) := by
      rw [sightings_observe]
      by_cases hname : name = p.name
      · rw [if_pos hname, if_pos hname.symm]
        rfl
      · rw [if_neg hname, if_neg (Ne.symm hname)]
        rfl
    show ((w.observe _ _ _ _ _).1.learn fragment now rest).1.sightings name = _
    rw [ih, hone, raise_raise, List.map_cons, List.count_cons, Nat.add_comm]
    simp only [beq_iff_eq]

end Watchlist

/-! ## The history -/

theorem History.size_add (h : History) (f : Fragment) (r : Record) :
    (h.add f r).1.size = min h.window (h.size + 1) := by
  show (Sequence.latest h.window (h.records ++ [r])).length = _
  rw [Sequence.length_latest, List.length_append]
  rfl

/-! ## Commits one after the other -/

namespace Engine

def commitAll (e : Engine) (ks : List (Timestamp × Evaluation)) : Engine :=
  ks.foldl (fun e k => (e.commit k.1 k.2).engine) e

theorem catalog_commitAll (e : Engine) (ks : List (Timestamp × Evaluation)) :
    (e.commitAll ks).catalog =
      ((ks.map (·.2)).flatMap Evaluation.matchedNames).foldl
        (fun c name => (c.reinforce name e.settings.patternReinforcement).1) e.catalog := by
  induction ks generalizing e with
  | nil => rfl
  | cons k rest ih =>
    have hcatalog : (e.commit k.1 k.2).engine.catalog =
        (e.catalog.learn e.settings.patternReinforcement k.2.fragment.id k.1 k.2.matched).1 := rfl
    have hsettings : (e.commit k.1 k.2).engine.settings = e.settings := rfl
    show ((e.commit k.1 k.2).engine.commitAll rest).catalog = _
    rw [ih, hsettings, hcatalog, Catalog.learn_fst, List.map_cons, List.flatMap_cons,
      List.foldl_append]
    rfl

theorem sightings_commitAll (e : Engine) (ks : List (Timestamp × Evaluation)) (name : String) :
    (e.commitAll ks).watchlist.sightings name =
      Watchlist.raise (e.watchlist.sightings name)
        (((ks.map (·.2)).flatMap Evaluation.proposedNames).count name) := by
  induction ks generalizing e with
  | nil => rfl
  | cons k rest ih =>
    have hwatchlist : (e.commit k.1 k.2).engine.watchlist =
        (e.watchlist.learn k.2.fragment.id k.1 (Proposal.distinct k.2.proposed)).1 := rfl
    show ((e.commit k.1 k.2).engine.commitAll rest).watchlist.sightings name = _
    rw [ih, hwatchlist, Watchlist.sightings_learn_eq_raise, Watchlist.raise_raise, List.map_cons,
      List.flatMap_cons, List.count_append]
    rfl

theorem counts_commitAll (e : Engine) (ks : List (Timestamp × Evaluation)) :
    (e.commitAll ks).observations = e.observations + ks.length ∧
      (e.commitAll ks).history.totalAnalyses = e.history.totalAnalyses + ks.length ∧
      (e.commitAll ks).history.size =
        if ks.length = 0 then e.history.size
        else min e.history.window (e.history.size + ks.length) := by
  induction ks generalizing e with
  | nil => exact ⟨rfl, rfl, rfl⟩
  | cons k rest ih =>
    obtain ⟨hobservations, hanalyses, hsize⟩ := ih (e.commit k.1 k.2).engine
    have hwindow : (e.commit k.1 k.2).engine.history.window = e.history.window := rfl
    have hone : (e.commit k.1 k.2).engine.history.size =
        min e.history.window (e.history.size + 1) := History.size_add _ _ _
    have hcounted : (e.commit k.1 k.2).engine.observations = e.observations + 1 := rfl
    have hanalyzed : (e.commit k.1 k.2).engine.history.totalAnalyses =
        e.history.totalAnalyses + 1 := rfl
    show ((e.commit k.1 k.2).engine.commitAll rest).observations = _ ∧
      ((e.commit k.1 k.2).engine.commitAll rest).history.totalAnalyses = _ ∧
      ((e.commit k.1 k.2).engine.commitAll rest).history.size = _
    rw [hobservations, hanalyses, hsize, hwindow, hone, hcounted, hanalyzed, List.length_cons,
      if_neg (Nat.succ_ne_zero _)]
    refine ⟨by omega, by omega, ?_⟩
    split <;> omega

theorem mem_names_candidates_iff (e : Engine) (name : String) :
    name ∈ e.candidates.map (·.name) ↔ (e.watchlist.sightings name).isSome := by
  have hranked : (e.candidates.map (·.name)).Perm (e.watchlist.candidates.map (·.name)) :=
    (List.mergeSort_perm _ _).map _
  rw [hranked.mem_iff, Watchlist.mem_names_iff, Watchlist.sightings, Option.isSome_map]

/-- Evaluations committed in any order, and at any times, leave the same patterns, the same
candidates seen equally often, and the same counts.  Where the evaluations come from makes no
difference. -/
theorem commits_commute (e : Engine) {ks ls : List (Timestamp × Evaluation)}
    (h : (ks.map (·.2)).Perm (ls.map (·.2))) :
    let f := e.commitAll ks
    let g := e.commitAll ls
    f.patterns = g.patterns ∧
    (∀ name, name ∈ f.candidates.map (·.name) ↔ name ∈ g.candidates.map (·.name)) ∧
    (∀ name, (f.candidate? name).map (·.occurrences) = (g.candidate? name).map (·.occurrences)) ∧
    f.observations = g.observations ∧
    f.insights.totalAnalyses = g.insights.totalAnalyses ∧
    f.insights.retainedRecords = g.insights.retainedRecords := by
  intro f g
  -- the same names come in another order, and two reinforcements can be exchanged
  have hcatalog : f.catalog = g.catalog := by
    rw [catalog_commitAll, catalog_commitAll]
    exact (h.flatMap_right _).foldl_eq' (fun m _ n _ c => Catalog.reinforce_comm c m n _) e.catalog
  -- sightings are only counted, so here it is enough that each name comes equally often
  have hsightings (name : String) : f.watchlist.sightings name = g.watchlist.sightings name := by
    rw [sightings_commitAll, sightings_commitAll, (h.flatMap_right _).count_eq]
  have hlength : ks.length = ls.length := by
    have hmapped := h.length_eq
    rwa [List.length_map, List.length_map] at hmapped
  obtain ⟨hobservations, hanalyses, hsize⟩ := e.counts_commitAll ks
  obtain ⟨hobservations', hanalyses', hsize'⟩ := e.counts_commitAll ls
  refine ⟨congrArg (·.patterns) hcatalog, fun name => ?_, hsightings, ?_, ?_, ?_⟩
  · rw [mem_names_candidates_iff, mem_names_candidates_iff, hsightings]
  · rw [hobservations, hobservations', hlength]
  · exact hanalyses.trans (hlength ▸ hanalyses'.symm)
  · exact hsize.trans (hlength ▸ hsize'.symm)

/-- A match and a proposal under the standard settings, the proposal committed twice. -/
theorem commits_commute_standard :
    let e := Engine.make .standard
    let builder : Evaluation :=
      ⟨Fragment.fresh default "return builder" default,
        [⟨"Builder Pattern", 0.17, 1, 5, ["builder"], ""⟩], []⟩
    let pool : Evaluation :=
      ⟨Fragment.fresh default "idle object pool" default, [],
        [⟨"Object Pool", "", 0.4, .trigger, ["pool", "idle"]⟩]⟩
    let ks := [(default, pool), (default, builder), (default, pool)]
    let ls := [(default, builder), (default, pool), (default, pool)]
    (ks.map (·.2)).Perm (ls.map (·.2)) ∧
      (e.commitAll ks).patterns = (e.commitAll ls).patterns ∧
      ((e.commitAll ks).candidate? "Object Pool").map (·.occurrences) =
        ((e.commitAll ls).candidate? "Object Pool").map (·.occurrences) := by
  intro e builder pool ks ls
  have hperm : (ks.map (·.2)).Perm (ls.map (·.2)) := .swap builder pool [pool]
  obtain ⟨hpatterns, -, hoccurrences, -⟩ := commits_commute e hperm
  exact ⟨hperm, hpatterns, hoccurrences "Object Pool"⟩

end Engine
end Motif
