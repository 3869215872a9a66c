import Motif.Proofs.Interleaving
import Motif.Proofs.Isolation

/-!
Two routes to the engine.  Code is submitted on its own or within an integrated analysis, which
evaluates first and commits once the analyzers are done.  As long as the engine is reached and not
late, the route makes no difference: verdicts, events and the engine come out as if every code had
been given to the engine at once, but for identifiers and times.
-/

namespace Motif

inductive Passage where
  | direct (s : Submission)
  | integrated (r : Round)

namespace Passage

def code : Passage → String
  | direct s => s.code
  | integrated r => r.code

def context : Passage → Context
  | direct s => s.context
  | integrated r => r.context

/-- Nothing stands between an integrated analysis and the engine, and its evaluation is not late. -/
def Arrives (b : Bounds) : Passage → Prop
  | direct _ => True
  | integrated r =>
    r.evaluation.delay < b.limit ∧ r.evaluation.barrier = none ∧ r.commit.barrier = none

/-- A passage that brings what a submission holds, under whatever stamps. -/
structure Carries (b : Bounds) (p : Passage) (s : Submission) : Prop where
  code : p.code = s.code
  context : p.context = s.context
  arrives : p.Arrives b

end Passage

/-! ## Passages one after the other -/

structure Traffic where
  integration : Integration
  service : Service
  verdicts : List Verdict
  /-- What the engine told, the oldest first. -/
  events : List EngineEvent

namespace Traffic

def start (i : Integration) (s : Service) : Traffic := ⟨i, s, [], []⟩

def step (x : Traffic) : Passage → Traffic
  | .direct s =>
    let (service, verdict, events) := x.service.analyze s.stamp s.code s.context
    { x with
      service, verdicts := x.verdicts ++ [verdict], events := x.events ++ events }
  | .integrated r =>
    let done := r.conduct x.integration x.service
    { integration := done.integration, service := done.service
      verdicts := x.verdicts ++ [done.result.discovery]
      events := x.events ++ done.events.filterMap Event.engine? }

def run (x : Traffic) (passages : List Passage) : Traffic := passages.foldl step x

end Traffic

namespace Engine

def Step.extend (done : Step (List Verdict)) (s : Submission) : Step (List Verdict) :=
  let next := done.engine.analyze s.stamp s.code s.context
  ⟨next.engine, done.answer ++ [next.answer], done.events ++ next.events⟩

def analyses (e : Engine) (submissions : List Submission) : Step (List Verdict) :=
  submissions.foldl Step.extend ⟨e, [], []⟩

end Engine

/-! ## One passage -/

theorem Round.events_conduct (r : Round) (i : Integration) (s : Service) :
    (r.conduct i s).events.filterMap Event.engine? = (r.discover i.bounds s).events := by
  have hstep := Series.engineEvents_step ⟨i, s, [], []⟩ r
  exact hstep

/-- Discovery leaves all of an idle service but its engine. -/
theorem Round.service_discover {s : Service} (h : s.queue = []) (r : Round) (b : Bounds) :
    (r.discover b s).service = { s with engine := (r.discover b s).service.engine } := by
  simp only [discover, Integration.commit]
  split
  · rfl
  · split
    · rfl
    · rw [Service.commit_of_empty h]
      split <;> rfl

/-- With one stamp for both halves, discovery in a round is one analysis. -/
theorem Round.discover_eq_analyze {s : Service} (hempty : s.queue = []) (hopen : s.isOpen = true)
    {b : Bounds} (hb : b.cancel = none) {r : Round} (harrives : (Passage.integrated r).Arrives b)
    (hstamp : r.analysis.time = r.fragment.time) :
    let done := s.engine.analyze r.fragment r.code r.context
    (r.discover b s).service = { s with engine := done.engine } ∧
      (r.discover b s).verdict = done.answer ∧ (r.discover b s).events = done.events := by
  obtain ⟨hdelay, hevaluation, hcommit⟩ := harrives
  have hgate : b.outcome "discovery" ⟨r.evaluation.delay, .answered ()⟩ = .ok () :=
    Bounds.outcome_of_lt hb hdelay "discovery"
  cases hv : s.engine.evaluate r.fragment r.code r.context with
  | error why =>
    simp only [discover, Integration.evaluate, hgate, hevaluation, Service.evaluate,
      Service.ask_of_empty hempty, hopen, if_true, Engine.serve_evaluate_of_error hv,
      Engine.analyze, hv]
    exact ⟨rfl, rfl, rfl⟩
  | ok v =>
    simp only [discover, Integration.evaluate, hgate, hevaluation, Service.evaluate,
      Service.ask_of_empty hempty, hopen, if_true, Engine.serve_evaluate_of_ok hv, Engine.analyze,
      hv, Answer.toEvaluation, Except.mapError, Integration.commit, Integration.approve,
      Bool.false_eq_true, if_false, hcommit, Option.isSome_none, Service.commit_of_empty hempty,
      hstamp]
    exact ⟨trivial, rfl, rfl⟩

namespace Traffic

/-- What a passage adds, seen without labels, is what one analysis without labels comes to. -/
theorem step_spec {x : Traffic} (hempty : x.service.queue = []) (hopen : x.service.isOpen = true)
    {p : Passage} (harrives : p.Arrives x.integration.bounds) :
    ∃ i e v es,
      x.step p = ⟨i, { x.service with engine := e }, x.verdicts ++ [v], x.events ++ es⟩ ∧
      i.bounds = x.integration.bounds ∧
      x.service.engine.unstamped.analyze default p.code p.context =
        ⟨e.unstamped, v.unstamped, es.map EngineEvent.unstamped⟩ := by
  cases p with
  | direct s =>
    have hanalyze := Service.analyze_of_empty hempty s.stamp s.code s.context
    rw [hopen, if_pos rfl] at hanalyze
    refine ⟨x.integration, _, _, _, ?_, rfl, x.service.engine.analyze_unstamped s.stamp _ _⟩
    simp only [step, hanalyze]
    rfl
  | integrated r =>
    let done := r.discover x.integration.bounds x.service
    -- without labels both halves of the round have the same stamp
    have herased : r.unstamped.discover x.integration.bounds x.service.unstamped = done.unstamped :=
      Round.discover_unstamped hempty r x.integration.bounds
    obtain ⟨hservice, hverdict, hevents⟩ :=
      Round.discover_eq_analyze (s := x.service.unstamped) hempty hopen rfl
        (r := r.unstamped) harrives rfl
    rw [herased] at hservice hverdict hevents
    have hengine : done.service.engine.unstamped = _ := congrArg (·.engine) hservice
    refine ⟨(r.conduct x.integration x.service).integration, done.service.engine, done.verdict,
      done.events, ?_, rfl, ?_⟩
    · rw [← r.service_discover hempty, ← r.events_conduct]
      rfl
    · rw [hengine]
      exact (congrArg₂ (Engine.Step.mk _) hverdict hevents).symm

/-! ## Whole runs

`Follows` says that traffic has come as far as analyses of the same codes, but for labels. -/

structure Follows (b : Bounds) (x : Traffic) (y : Engine.Step (List Verdict)) : Prop where
  bounds : x.integration.bounds = b
  queue : x.service.queue = []
  isOpen : x.service.isOpen = true
  engine : x.service.engine.unstamped = y.engine.unstamped
  verdicts : x.verdicts.map Verdict.unstamped = y.answer.map Verdict.unstamped
  events : x.events.map EngineEvent.unstamped = y.events.map EngineEvent.unstamped

variable {b : Bounds} {x : Traffic} {y : Engine.Step (List Verdict)}

theorem Follows.step (h : Follows b x y) {p : Passage} {s : Submission} (hp : p.Carries b s) :
    Follows b (x.step p) (y.extend s) := by
  have harrives : p.Arrives x.integration.bounds := h.bounds.symm ▸ hp.arrives
  obtain ⟨i, e, v, es, hstep, hi, hanalyze⟩ := step_spec h.queue h.isOpen harrives
  -- the analysis on the other side comes to the same without labels
  rw [hp.code, hp.context, h.engine, y.engine.analyze_unstamped s.stamp] at hanalyze
  obtain ⟨hengine, hverdict, hevents⟩ := Engine.Step.mk.inj hanalyze
  rw [hstep]
  exact
    { bounds := hi.trans h.bounds
      queue := h.queue
      isOpen := h.isOpen
      engine := hengine.symm
      verdicts := by
        show (x.verdicts ++ [v]).map _ = (y.answer ++ [_]).map _
        rw [List.map_append, List.map_append, h.verdicts, List.map_singleton, ← hverdict]
        rfl
      events := by
        show (x.events ++ es).map _ = (y.events ++ _).map _
        rw [List.map_append, List.map_append, h.events, ← hevents] }

theorem Follows.run (h : Follows b x y) {passages : List Passage} {submissions : List Submission}
    (hp : List.Forall₂ (Passage.Carries b) passages submissions) :
    Follows b (x.run passages) (submissions.foldl Engine.Step.extend y) := by
  induction hp generalizing x y with
  | nil => exact h
  | cons hp _ ih => exact ih (h.step hp)

theorem follows_start (i : Integration) (e : Engine) (capacity : Nat) :
    Follows i.bounds (start i (Service.start e capacity)) ⟨e, [], []⟩ :=
  ⟨rfl, rfl, Service.isOpen_start e capacity, rfl, rfl, rfl⟩

/-- Whichever way each code goes, refused ones included, the verdicts, the events of the engine and
the engine itself come out as those of one analysis after the other, but for labels. -/
theorem routes_agree (i : Integration) (e : Engine) (capacity : Nat) {passages : List Passage}
    {submissions : List Submission}
    (h : List.Forall₂ (Passage.Carries i.bounds) passages submissions) :
    let x := (start i (Service.start e capacity)).run passages
    let y := e.analyses submissions
    x.verdicts.map Verdict.unstamped = y.answer.map Verdict.unstamped ∧
      x.events.map EngineEvent.unstamped = y.events.map EngineEvent.unstamped ∧
      x.service.engine.unstamped = y.engine.unstamped := by
  intro x y
  have hfollows : Follows i.bounds x y := (follows_start i e capacity).run h
  exact ⟨hfollows.verdicts, hfollows.events, hfollows.engine⟩

/-- Under the standard settings: a code that goes directly, the same within an integrated analysis
with one analyzer in a panic and one late, and a code that is too short. -/
theorem routes_agree_standard :
    let i := Integration.start .standard
    let e := Engine.make .standard
    let calls : Calls :=
      { Calls.lexical "return builder" with
        purpose := ⟨0, .panicked none⟩, review := ⟨60000, .answered (Lexical.review "")⟩ }
    let passages : List Passage :=
      [.direct ⟨default, "return builder", default⟩,
        .integrated
          ⟨calls, .clear, .clear, ⟨Uuid.ofNat 1, default⟩, default, "return builder", default⟩,
        .integrated ⟨calls, .clear, .clear, default, default, "", default⟩]
    let submissions : List Submission :=
      [⟨default, "return builder", default⟩, ⟨default, "return builder", default⟩,
        ⟨default, "", default⟩]
    List.Forall₂ (Passage.Carries i.bounds) passages submissions ∧
      ((start i (Service.start e 0)).run passages).verdicts.map Verdict.unstamped =
        (e.analyses submissions).answer.map Verdict.unstamped := by
  intro i e calls passages submissions
  have hcarries : List.Forall₂ (Passage.Carries i.bounds) passages submissions :=
    .cons ⟨rfl, rfl, trivial⟩
      (.cons ⟨rfl, rfl, by decide, rfl, rfl⟩ (.cons ⟨rfl, rfl, by decide, rfl, rfl⟩ .nil))
  exact ⟨hcarries, (routes_agree i e 0 hcarries).1⟩

end Traffic
end Motif
