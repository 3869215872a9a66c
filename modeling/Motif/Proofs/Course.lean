import Motif.Proofs.Interleaving

/-!
The course of an engine: code is evaluated, evaluations are kept and committed when it suits, or
code is analyzed in one go.  An evaluation may be committed late, more than once or never.  The
course keeps every evaluation that was made and every commit with the engine that it came to, so
that what the engine holds can be said of the commits alone.
-/

namespace Motif

/-- An evaluation as it is committed to an engine. -/
structure Commit where
  before : Engine
  now : Timestamp
  evaluation : Evaluation

namespace Commit

def step (k : Commit) : Engine.Step Outcome := k.before.commit k.now k.evaluation

def after (k : Commit) : Engine := k.step.engine

def outcome (k : Commit) : Outcome := k.step.answer

/-- The names of the matched patterns, in order. -/
def matched (k : Commit) : List String := k.evaluation.matched.map (·.pattern)

/-- The names of the proposed candidates, each once, in the order in which they first appear. -/
def proposed (k : Commit) : List String := (Proposal.distinct k.evaluation.proposed).map (·.name)

def record (k : Commit) : Record :=
  Record.make k.evaluation.fragment.id k.now k.matched k.proposed
    (callConfidence k.evaluation.matched k.evaluation.proposed k.before.settings.confidenceFloor)

/-- How many records the history dropped. -/
def removed (k : Commit) : Nat := (k.before.history.add k.evaluation.fragment k.record).2

theorem history_after (k : Commit) :
    k.after.history = (k.before.history.add k.evaluation.fragment k.record).1 := rfl

theorem watchlist_after (k : Commit) :
    k.after.watchlist = (k.before.watchlist.learn k.evaluation.fragment.id k.now
      (Proposal.distinct k.evaluation.proposed)).1 := rfl

theorem catalog_after (k : Commit) :
    k.after.catalog = (k.before.catalog.learn k.before.settings.patternReinforcement
      k.evaluation.fragment.id k.now k.evaluation.matched).1 := rfl

end Commit

structure Course where
  engine : Engine
  /-- Every evaluation that waits to be committed, or could be committed again. -/
  evaluations : List Evaluation
  /-- The oldest first. -/
  commits : List Commit

inductive Course.Move where
  | evaluate (s : Submission)
  | commit (k : Nat) (now : Timestamp)
  | analyze (s : Submission)

namespace Course

def start (e : Engine) : Course := ⟨e, [], []⟩

def committed (c : Course) (now : Timestamp) (v : Evaluation) : Course :=
  let k : Commit := ⟨c.engine, now, v⟩
  { c with engine := k.after, commits := c.commits ++ [k] }

/-- Refused code changes nothing, and there is nothing to commit where there is no evaluation. -/
def step (c : Course) : Move → Course
  | .evaluate s =>
    match c.engine.evaluate s.stamp s.code s.context with
    | .ok v => { c with evaluations := c.evaluations ++ [v] }
    | .error _ => c
  | .commit k now =>
    match c.evaluations[k]? with
    | some v => c.committed now v
    | none => c
  | .analyze s =>
    match c.engine.evaluate s.stamp s.code s.context with
    | .ok v => c.committed s.stamp.time v
    | .error _ => c

def run (c : Course) (moves : List Move) : Course := moves.foldl step c

/-- Analyzing is what the engine does when it is asked to analyze. -/
theorem engine_step_analyze (c : Course) (s : Submission) :
    (c.step (.analyze s)).engine = (c.engine.analyze s.stamp s.code s.context).engine := by
  cases h : c.engine.evaluate s.stamp s.code s.context with
  | ok v =>
    simp only [step, Engine.analyze, h]
    rfl
  | error why => simp only [step, Engine.analyze, h]

/-- An evaluation at hand: one that was kept, or one that the engine makes now. -/
def Offers (c : Course) (v : Evaluation) : Prop :=
  v ∈ c.evaluations ∨ ∃ s : Submission, c.engine.evaluate s.stamp s.code s.context = .ok v

/-- A move leaves the engine alone or commits an evaluation at hand. -/
theorem step_cases (c : Course) (m : Move) :
    (∃ vs, (∀ v ∈ vs, c.Offers v) ∧ c.step m = { c with evaluations := vs }) ∨
      ∃ now v, c.Offers v ∧ c.step m = c.committed now v := by
  have hsame : ∃ vs, (∀ v ∈ vs, c.Offers v) ∧ c = { c with evaluations := vs } :=
    ⟨c.evaluations, fun v hv => Or.inl hv, rfl⟩
  cases m with
  | evaluate s =>
    simp only [step]
    split
    · next v hv =>
      refine Or.inl ⟨_, fun w hw => ?_, rfl⟩
      rcases List.mem_append.mp hw with hw | hw
      · exact Or.inl hw
      · obtain rfl := List.mem_singleton.mp hw
        exact Or.inr ⟨s, hv⟩
    · exact Or.inl hsame
  | commit k now =>
    simp only [step]
    split
    · next v hv => exact Or.inr ⟨now, v, Or.inl (List.mem_of_getElem? hv), rfl⟩
    · exact Or.inl hsame
  | analyze s =>
    simp only [step]
    split
    · next v hv => exact Or.inr ⟨_, v, Or.inr ⟨s, hv⟩, rfl⟩
    · exact Or.inl hsame

/-! ## What every move keeps -/

/-- A property of engines that commits keep, with the property of the evaluations that they make. -/
structure Kept (P : Engine → Prop) (Q : Evaluation → Prop) : Prop where
  evaluate : ∀ e stamp code context v, P e → e.evaluate stamp code context = .ok v → Q v
  commit : ∀ k : Commit, P k.before → Q k.evaluation → P k.after

structure Holds (P : Engine → Prop) (Q : Evaluation → Prop) (c : Course) : Prop where
  engine : P c.engine
  evaluations : ∀ v ∈ c.evaluations, Q v
  commits : ∀ k ∈ c.commits, P k.before ∧ Q k.evaluation

section

variable {P : Engine → Prop} {Q : Evaluation → Prop} {c : Course}

theorem holds_start {e : Engine} (h : P e) : Holds P Q (start e) :=
  ⟨h, fun _ hv => absurd hv List.not_mem_nil, fun _ hk => absurd hk List.not_mem_nil⟩

theorem Holds.offers (hkept : Kept P Q) (h : Holds P Q c) {v : Evaluation} (hv : c.Offers v) :
    Q v := by
  rcases hv with hv | ⟨s, hv⟩
  · exact h.evaluations v hv
  · exact hkept.evaluate _ _ _ _ _ h.engine hv

theorem Holds.step (hkept : Kept P Q) (h : Holds P Q c) (m : Move) : Holds P Q (c.step m) := by
  rcases c.step_cases m with ⟨vs, hvs, heq⟩ | ⟨now, v, hv, heq⟩
  · rw [heq]
    exact ⟨h.engine, fun v hv => h.offers hkept (hvs v hv), h.commits⟩
  · rw [heq]
    have hcommit : P c.engine ∧ Q v := ⟨h.engine, h.offers hkept hv⟩
    refine ⟨hkept.commit ⟨c.engine, now, v⟩ hcommit.1 hcommit.2, h.evaluations, fun k hk => ?_⟩
    rcases List.mem_append.mp hk with hk | hk
    · exact h.commits k hk
    · obtain rfl := List.mem_singleton.mp hk
      exact hcommit

theorem Holds.run (hkept : Kept P Q) (h : Holds P Q c) (moves : List Move) :
    Holds P Q (c.run moves) := by
  induction moves generalizing c with
  | nil => exact h
  | cons m rest ih => exact ih (h.step hkept m)

/-- What every commit makes of an engine, all commits together make of it. -/
theorem Holds.related {R : Engine → Engine → Prop} (hkept : Kept P Q) (h : Holds P Q c)
    (hrefl : ∀ e, P e → R e e) (htrans : ∀ e f g, R e f → R f g → R e g)
    (hcommit : ∀ k : Commit, P k.before → Q k.evaluation → R k.before k.after)
    (moves : List Move) : R c.engine (c.run moves).engine := by
  induction moves generalizing c with
  | nil => exact hrefl _ h.engine
  | cons m rest ih =>
    -- the relation spans the first move, and the induction hypothesis all others
    refine htrans _ _ _ ?_ (ih (h.step hkept m))
    rcases c.step_cases m with ⟨vs, hvs, heq⟩ | ⟨now, v, hv, heq⟩
    · rw [heq]
      exact hrefl _ h.engine
    · rw [heq]
      exact hcommit ⟨c.engine, now, v⟩ h.engine (h.offers hkept hv)

end

/-! ## The commits of a course -/

/-- The commits lead from the first engine to the last, each from where the one before ended. -/
inductive Leads (e : Engine) : List Commit → Engine → Prop
  | nil : Leads e [] e
  | snoc {commits : List Commit} {k : Commit} (h : Leads e commits k.before) :
    Leads e (commits ++ [k]) k.after

/-- The commits before one of them lead to the engine that it came to. -/
theorem Leads.before {e f : Engine} {commits : List Commit} (h : Leads e commits f) {j : Nat}
    {k : Commit} (hk : commits[j]? = some k) : Leads e (commits.take j) k.before := by
  induction h with
  | nil => exact absurd hk (by simp)
  | @snoc earlier last h ih =>
    by_cases hj : j < earlier.length
    · rw [List.getElem?_append_left hj] at hk
      rw [List.take_append_of_le_length (Nat.le_of_lt hj)]
      exact ih hk
    · have hlast : j = earlier.length := by
        have hlt := (List.getElem?_eq_some_iff.mp hk).1
        rw [List.length_append, List.length_singleton] at hlt
        omega
      subst hlast
      rw [List.getElem?_concat_length] at hk
      obtain rfl := Option.some.inj hk
      rw [List.take_left]
      exact h

theorem Leads.run {e : Engine} {c : Course} (h : Leads e c.commits c.engine) (moves : List Move) :
    Leads e (c.run moves).commits (c.run moves).engine := by
  induction moves generalizing c with
  | nil => exact h
  | cons m rest ih =>
    refine ih (c := c.step m) ?_
    rcases c.step_cases m with ⟨vs, hvs, heq⟩ | ⟨now, v, hv, heq⟩
    · rw [heq]
      exact h
    · rw [heq]
      exact .snoc (k := ⟨c.engine, now, v⟩) h

theorem leads_run (e : Engine) (moves : List Move) :
    Leads e ((start e).run moves).commits ((start e).run moves).engine :=
  Leads.run (c := start e) .nil moves

end Course
end Motif
