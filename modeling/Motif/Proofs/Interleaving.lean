import Motif.Proofs.Agreement

/-!
Evaluating and committing apart.  Callers that share an engine evaluate codes, keep the evaluations,
and commit them later and in any order, while others commit in between.  An evaluation may then be
committed to a catalog whose base confidences are no longer those that it was made with.  The main
statement is that nothing is lost: the engine agrees with one that analyzed the committed codes one
after the other, in the order in which they were committed.
-/

namespace Motif

structure Submission where
  stamp : Stamp
  code : String
  context : Context

def Engine.analyzeAll (e : Engine) (submissions : List Submission) : Engine :=
  submissions.foldl (fun e s => (e.analyze s.stamp s.code s.context).engine) e

theorem Engine.analyzeAll_snoc (e : Engine) (submissions : List Submission) (s : Submission) :
    e.analyzeAll (submissions ++ [s]) =
      ((e.analyzeAll submissions).analyze s.stamp s.code s.context).engine := by
  rw [analyzeAll, List.foldl_append]
  rfl

/-! ## The shared engine -/

/-- A shared engine, with the evaluations that were made on it and are not committed yet. -/
structure Desk where
  engine : Engine
  drafts : List (Submission × Evaluation)
  /-- What was committed, in the order of the commits. -/
  committed : List Submission

inductive Desk.Move where
  | evaluate (s : Submission)
  /-- Commits one of the drafts, which is a draft no longer. -/
  | commit (k : Nat) (now : Timestamp)

namespace Desk

def start (e : Engine) : Desk := ⟨e, [], []⟩

/-- Refused code gives no draft, and there is nothing to commit where there is no draft. -/
def step (d : Desk) : Move → Desk
  | .evaluate s =>
    match d.engine.evaluate s.stamp s.code s.context with
    | .ok v => { d with drafts := d.drafts ++ [(s, v)] }
    | .error _ => d
  | .commit k now =>
    match d.drafts[k]? with
    | some (s, v) =>
      { engine := (d.engine.commit now v).engine, drafts := d.drafts.eraseIdx k
        committed := d.committed ++ [s] }
    | none => d

def run (d : Desk) (moves : List Move) : Desk := moves.foldl step d

/-- The committed codes, with stamps of their own. -/
def restamped (d : Desk) (stamps : Nat → Stamp) : List Submission :=
  d.committed.mapIdx fun k s => { s with stamp := stamps k }

/-! ## The invariant

Each draft was made by an engine that sees like the engine at the start, and the engine agrees with
the one that analyzed the committed codes in their order. -/

structure Faithful (e : Engine) (stamps : Nat → Stamp) (d : Desk) : Prop where
  drafts : ∀ s v, (s, v) ∈ d.drafts →
    ∃ f : Engine, f.SeesLike e ∧ f.evaluate s.stamp s.code s.context = .ok v
  seesLike : d.engine.SeesLike e
  agrees : d.engine.Agrees (e.analyzeAll (d.restamped stamps))

/-- Committing a draft does what analyzing its code does to an engine that agrees. -/
theorem agrees_commit_analyze {e f g : Engine} (h : e.Agrees g) (hf : f.SeesLike e) {s : Submission}
    {v : Evaluation} (hv : f.evaluate s.stamp s.code s.context = .ok v) (now : Timestamp)
    (stamp : Stamp) :
    (e.commit now v).engine.Agrees (g.analyze stamp s.code s.context).engine := by
  have hfg : f.SeesLike g := hf.trans h.seesLike
  have haccepts : Fragment.Accepts g.settings.minFragmentLength s.code := by
    rw [← hfg.settings]
    exact (f.exists_evaluate_iff _ _ _).mp ⟨v, hv⟩
  obtain ⟨w, hw⟩ := (g.exists_evaluate_iff stamp s.code s.context).mpr haccepts
  have hagrees : v.Agrees w := hfg.evaluate hv hw
  rw [Engine.analyze, hw]
  exact h.commit hagrees now stamp.time

theorem Faithful.step {e : Engine} {stamps : Nat → Stamp} {d : Desk} (h : Faithful e stamps d)
    (m : Move) : Faithful e stamps (d.step m) := by
  cases m with
  | evaluate s =>
    simp only [Desk.step]
    split
    · next v hv =>
      refine ⟨fun t w hw => ?_, h.seesLike, h.agrees⟩
      rcases List.mem_append.mp hw with hw | hw
      · exact h.drafts t w hw
      · obtain ⟨rfl, rfl⟩ := Prod.mk.inj (List.mem_singleton.mp hw)
        exact ⟨d.engine, h.seesLike, hv⟩
    · exact h
  | commit k now =>
    simp only [Desk.step]
    split
    · next s v hk =>
      obtain ⟨f, hf, hv⟩ := h.drafts s v (List.mem_of_getElem? hk)
      refine ⟨fun t w hw => ?_, ?_, ?_⟩
      · exact h.drafts t w (List.mem_of_mem_eraseIdx hw)
      · exact (d.engine.commit_seesLike now v).trans h.seesLike
      · rw [restamped, List.mapIdx_concat, Engine.analyzeAll_snoc]
        exact agrees_commit_analyze h.agrees (hf.trans h.seesLike.symm) hv now _
    · exact h

theorem Faithful.run {e : Engine} {stamps : Nat → Stamp} {d : Desk} (h : Faithful e stamps d)
    (moves : List Move) : Faithful e stamps (d.run moves) := by
  induction moves generalizing d with
  | nil => exact h
  | cons m rest ih => exact ih (h.step m)

theorem faithful_start (e : Engine) (stamps : Nat → Stamp) : Faithful e stamps (start e) :=
  ⟨fun _ _ h => absurd h List.not_mem_nil, ⟨rfl, rfl, rfl, rfl⟩, .refl e⟩

/-- No commit is lost.  Whatever callers evaluate and commit at a shared engine, it agrees in the
end with an engine that analyzed the committed codes alone, one after the other. -/
theorem interleaved_commits_agree_with_analyses (e : Engine) (moves : List Move)
    (stamps : Nat → Stamp) :
    ((start e).run moves).engine.Agrees (e.analyzeAll (((start e).run moves).restamped stamps)) :=
  ((faithful_start e stamps).run moves).agrees

end Desk
end Motif
