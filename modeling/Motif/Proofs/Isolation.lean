import Mathlib.Data.List.Forall2
import Motif.Integration.Run
import Motif.Proofs.Serving
import Motif.Proofs.Stamps

/-!
Discovery and the analyzers beside it do not get in each other's way.  Two series of integrated
analyses start alike and work on the same code, while the calls of the analyzers end however they
like.  Discovery comes to the same in both, but for identifiers and times.  An analyzer that ends
the same way leaves the same report, one that gives no answer leaves its fallback, and the
confidence of a result is the mean of those that did answer.
-/

namespace Motif

/-! ## Erasing identifiers and times behind the queue -/

namespace Service

/-- Erases what the engine holds.  Requests that wait are left as they are. -/
def unstamped (s : Service) : Service := { s with engine := s.engine.unstamped }

variable {s : Service}

theorem evaluate_unstamped (h : s.queue = []) (stamp : Stamp) (code : String) (context : Context) :
    s.unstamped.evaluate default code context =
      ((s.evaluate stamp code context).1.map Evaluation.unstamped,
        (s.evaluate stamp code context).2.map EngineEvent.unstamped) := by
  have hopen : s.unstamped.isOpen = s.isOpen := rfl
  have herased : s.unstamped.engine.evaluate default code context = _ :=
    s.engine.evaluate_unstamped stamp code context
  rw [evaluate, evaluate, ask_of_empty h, ask_of_empty (s := s.unstamped) h, hopen]
  cases s.isOpen with
  | false => rfl
  | true =>
    cases hv : s.engine.evaluate stamp code context with
    | error why =>
      rw [hv] at herased
      simp only [if_true, Engine.serve_evaluate_of_error hv,
        Engine.serve_evaluate_of_error herased]
      rfl
    | ok v =>
      rw [hv] at herased
      simp only [if_true, Engine.serve_evaluate_of_ok hv, Engine.serve_evaluate_of_ok herased]
      rfl

theorem commit_unstamped (h : s.queue = []) (now : Timestamp) (v : Evaluation) :
    s.unstamped.commit default v.unstamped =
      ((s.commit now v).1.unstamped, (s.commit now v).2.1.map Outcome.unstamped,
        (s.commit now v).2.2.map EngineEvent.unstamped) := by
  have hopen : s.unstamped.isOpen = s.isOpen := rfl
  have herased : s.unstamped.engine.commit default v.unstamped = _ :=
    s.engine.commit_unstamped now v
  rw [commit_of_empty h, commit_of_empty (s := s.unstamped) h, hopen, herased]
  split <;> rfl

theorem queue_commit (h : s.queue = []) (now : Timestamp) (v : Evaluation) :
    (s.commit now v).1.queue = [] := by
  rw [commit_of_empty h]
  split <;> exact h

end Service

namespace Integration

/-! ## Discovery -/

theorem evaluate_unstamped {s : Service} (h : s.queue = []) (b : Bounds) (gate : Gate)
    (stamp : Stamp) (code : String) (context : Context) :
    evaluate b gate s.unstamped default code context =
      ((evaluate b gate s stamp code context).1.map (·.map Evaluation.unstamped),
        (evaluate b gate s stamp code context).2.map EngineEvent.unstamped) := by
  rw [evaluate, evaluate]
  cases b.outcome "discovery" ⟨gate.delay, .answered ()⟩ with
  | error e => rfl
  | ok _ =>
    cases gate.barrier with
    | some barrier => cases barrier <;> rfl
    | none =>
      simp only [Service.evaluate_unstamped h stamp]
      rfl

/-- An approved evaluation is committed; what stands in for one has no labels. -/
theorem commit_unstamped {s : Service} (h : s.queue = []) (isCancelled : Bool) (gate : Gate)
    (now : Timestamp) (found : Except LayerError (Except EngineError Evaluation)) :
    commit isCancelled gate s.unstamped default (found.map (·.map Evaluation.unstamped)) =
      ((commit isCancelled gate s now found).1.unstamped,
        ((commit isCancelled gate s now found).2.1.1.unstamped,
          (commit isCancelled gate s now found).2.1.2),
        (commit isCancelled gate s now found).2.2.map EngineEvent.unstamped) := by
  match found, isCancelled with
  | .error e, _ => rfl
  | .ok (.error (.refused why)), _ => rfl
  | .ok (.error .unavailable), _ => rfl
  | .ok (.ok v), true => rfl
  | .ok (.ok v), false =>
    simp only [commit, approve, Except.map, Bool.false_eq_true, if_false]
    -- whether the request gets to the engine
    split
    · rfl
    · rw [Service.commit_unstamped h now]
      cases (s.commit now v).2.1 <;> rfl

end Integration

/-! ## Rounds -/

/-- An integrated analysis whose caller waits for it. -/
structure Round where
  calls : Calls
  evaluation : Gate
  commit : Gate
  fragment : Stamp
  analysis : Stamp
  code : String
  context : Context

/-- The bounds of all calls when the caller waits. -/
def Integration.bounds (i : Integration) : Bounds := ⟨i.settings.timeout, none⟩

/-- What discovery comes to in a round. -/
structure Discovery where
  service : Service
  verdict : Verdict
  status : LayerStatus
  events : List EngineEvent

def Discovery.unstamped (d : Discovery) : Discovery :=
  ⟨d.service.unstamped, d.verdict.unstamped, d.status, d.events.map EngineEvent.unstamped⟩

/-- The engine's part of what was told. -/
def Event.engine? : Event → Option EngineEvent
  | .engine e => some e
  | .integration _ => none

namespace Round

def conduct (r : Round) (i : Integration) (s : Service) : Integration.Step :=
  i.integrate s r.calls ⟨none, r.evaluation, r.commit⟩ r.fragment r.analysis r.code r.context

def discover (r : Round) (b : Bounds) (s : Service) : Discovery :=
  let (found, evaluated) := Integration.evaluate b r.evaluation s r.fragment r.code r.context
  let (service, discovery, committed) :=
    Integration.commit false r.commit s r.analysis.time found
  ⟨service, discovery.1, discovery.2, evaluated ++ committed⟩

def unstamped (r : Round) : Round := { r with fragment := default, analysis := default }

/-- The calls of the analyzers do not enter into discovery. -/
theorem conduct_eq (r : Round) (i : Integration) (s : Service) :
    r.conduct i s =
      let d := r.discover i.bounds s
      let reports := Integration.settle i.bounds r.calls r.analysis
      let result := Integration.conclude i.settings.recommendationThreshold r.analysis
        (d.verdict, d.status) reports
      { integration := i.record result, service := d.service, result
        events := d.events.map .engine ++
          (reports.events ++ [Integration.completion result]).map .integration } := rfl

theorem discover_unstamped {s : Service} (h : s.queue = []) (r : Round) (b : Bounds) :
    r.unstamped.discover b s.unstamped = (r.discover b s).unstamped := by
  have hevaluate : Integration.evaluate b r.unstamped.evaluation s.unstamped r.unstamped.fragment
      r.unstamped.code r.unstamped.context = _ :=
    Integration.evaluate_unstamped h b r.evaluation r.fragment r.code r.context
  have hcommit (found : Except LayerError (Except EngineError Evaluation)) :
      Integration.commit false r.unstamped.commit s.unstamped r.unstamped.analysis.time
        (found.map (·.map Evaluation.unstamped)) = _ :=
    Integration.commit_unstamped h false r.commit r.analysis.time found
  simp only [discover, hevaluate, hcommit, Discovery.unstamped, List.map_append]

theorem queue_discover {s : Service} (h : s.queue = []) (r : Round) (b : Bounds) :
    (r.discover b s).service.queue = [] := by
  simp only [discover, Integration.commit]
  split
  · exact h
  · split
    · exact h
    · exact Service.queue_commit h _ _

/-- Rounds on the same code, with the engine as far away in both, whose evaluations are not late.
The calls of the analyzers, the stamps and the delays are their own. -/
structure SameTask (b : Bounds) (r r' : Round) : Prop where
  code : r.code = r'.code
  context : r.context = r'.context
  evaluation : r.evaluation.barrier = r'.evaluation.barrier
  commit : r.commit.barrier = r'.commit.barrier
  inTime : r.evaluation.delay < b.limit ∧ r'.evaluation.delay < b.limit

/-- Requests that are not late get the same, however long they took. -/
theorem evaluate_of_inTime {b : Bounds} (hb : b.cancel = none) {gate gate' : Gate}
    (h : gate.delay < b.limit) (h' : gate'.delay < b.limit)
    (hbarrier : gate.barrier = gate'.barrier) (s : Service) (stamp : Stamp) (code : String)
    (context : Context) :
    Integration.evaluate b gate s stamp code context =
      Integration.evaluate b gate' s stamp code context := by
  have hgate (g : Gate) (hg : g.delay < b.limit) :
      b.outcome "discovery" ⟨g.delay, .answered ()⟩ = .ok () :=
    Bounds.outcome_of_lt hb hg "discovery"
  rw [Integration.evaluate, Integration.evaluate, hgate gate h, hgate gate' h', hbarrier]

theorem discover_congr {b : Bounds} (hb : b.cancel = none) {r r' : Round} (h : SameTask b r r')
    (s : Service) : r.unstamped.discover b s = r'.unstamped.discover b s := by
  have hevaluate := evaluate_of_inTime hb h.inTime.1 h.inTime.2 h.evaluation s default r'.code
    r'.context
  have hcommit (now : Timestamp) (found : Except LayerError (Except EngineError Evaluation)) :
      Integration.commit false r.commit s now found =
        Integration.commit false r'.commit s now found := by
    rw [Integration.commit, Integration.commit, h.commit]
  simp only [discover, unstamped, h.code, h.context, hevaluate, hcommit]

end Round

/-! ## The other layers -/

namespace Call

variable {α : Type}

/-- The answer of a call that gives one in time. -/
def answer? (b : Bounds) (c : Call α) : Option α :=
  if c.duration < b.limit then
    match c.ending with
    | .answered a => some a
    | .erred _ | .panicked _ => none
  else none

/-- A layer shows the answer of its call, or else its fallback. -/
def Shows (b : Bounds) (c : Call α) (fallback report : α) (status : LayerStatus) : Prop :=
  match c.answer? b with
  | some a => report = a ∧ status = .ok
  | none => report = fallback ∧ ∃ reason, status = .fallback reason

theorem shows_ofOutcome {b : Bounds} (hb : b.cancel = none) (layer : String) (c : Call α)
    (analysis : Stamp) (fallback : α) :
    c.Shows b fallback (Settled.ofOutcome analysis fallback (b.outcome layer c)).report
      (Settled.ofOutcome analysis fallback (b.outcome layer c)).status := by
  rw [Shows, answer?]
  by_cases h : c.duration < b.limit
  · rw [if_pos h, Bounds.outcome_of_lt hb h]
    cases c.ending with
    | answered a => exact ⟨rfl, rfl⟩
    | erred e => exact ⟨rfl, e.message, rfl⟩
    | panicked payload => exact ⟨rfl, _, rfl⟩
  · rw [if_neg h, Bounds.outcome_of_le hb (Nat.le_of_not_lt h)]
    exact ⟨rfl, _, rfl⟩

end Call

/-- The confidences of discovery and of the layers that answered, in the order of the layers.  The
intuition score is none. -/
def IntegratedResult.available (x : IntegratedResult) : List Float :=
  (if x.discovery.isSuccess then [x.discovery.confidence] else []) ++
    (if x.layers.purpose.isOk then [x.purpose.confidence] else []) ++
    (if x.layers.anomaly.isOk then [x.quality.anomalies.confidence] else []) ++
    (if x.layers.prediction.isOk then [x.prediction.confidence] else []) ++
    (if x.layers.review.isOk then [x.review.confidence] else [])

/-- The layers of the analyzers show what their calls came to, and the confidence is the mean of
those at hand. -/
structure IntegratedResult.Settles (b : Bounds) (calls : Calls) (x : IntegratedResult) : Prop where
  purpose : calls.purpose.Shows b PurposeReport.fallback x.purpose x.layers.purpose
  anomalies :
    calls.anomalies.Shows b AnomalyReport.fallback x.quality.anomalies x.layers.anomaly
  intuition : calls.intuition.Shows b fallbackIntuition x.quality.intuition x.layers.intuition
  prediction : calls.prediction.Shows b Prediction.fallback x.prediction x.layers.prediction
  review : calls.review.Shows b Review.fallback x.review x.layers.review
  confidence : x.confidence = Confidence.clamp 0.0 1.0 (Confidence.average x.available)

theorem Round.settles_conduct (r : Round) (i : Integration) (s : Service) :
    (r.conduct i s).result.Settles i.bounds r.calls where
  purpose := Call.shows_ofOutcome rfl "purpose" r.calls.purpose r.analysis PurposeReport.fallback
  anomalies :=
    Call.shows_ofOutcome rfl "anomaly" r.calls.anomalies r.analysis AnomalyReport.fallback
  intuition :=
    Call.shows_ofOutcome rfl "intuition" r.calls.intuition r.analysis fallbackIntuition
  prediction :=
    Call.shows_ofOutcome rfl "prediction" r.calls.prediction r.analysis Prediction.fallback
  review := Call.shows_ofOutcome rfl "holistic" r.calls.review r.analysis Review.fallback
  confidence := rfl

/-! ## Two rounds -/

/-- Two analyses of the same code do not differ in discovery, but for labels, nor in a layer whose
call ended the same way in both. -/
structure Round.Isolated (b : Bounds) (p q : Round × IntegratedResult) : Prop where
  discovery : p.2.discovery.unstamped = q.2.discovery.unstamped
  discoveryStatus : p.2.layers.discovery = q.2.layers.discovery
  purpose : b.outcome "purpose" p.1.calls.purpose = b.outcome "purpose" q.1.calls.purpose →
    p.2.purpose = q.2.purpose ∧ p.2.layers.purpose = q.2.layers.purpose
  anomalies : b.outcome "anomaly" p.1.calls.anomalies = b.outcome "anomaly" q.1.calls.anomalies →
    p.2.quality.anomalies = q.2.quality.anomalies ∧ p.2.layers.anomaly = q.2.layers.anomaly
  intuition :
    b.outcome "intuition" p.1.calls.intuition = b.outcome "intuition" q.1.calls.intuition →
      p.2.quality.intuition = q.2.quality.intuition ∧ p.2.layers.intuition = q.2.layers.intuition
  prediction :
    b.outcome "prediction" p.1.calls.prediction = b.outcome "prediction" q.1.calls.prediction →
      p.2.prediction = q.2.prediction ∧ p.2.layers.prediction = q.2.layers.prediction
  review : b.outcome "holistic" p.1.calls.review = b.outcome "holistic" q.1.calls.review →
    p.2.review = q.2.review ∧ p.2.layers.review = q.2.layers.review

theorem Settled.ofOutcome_congr {α : Type} (analysis analysis' : Stamp) (fallback : α)
    {found found' : Except LayerError α} (h : found = found') :
    (ofOutcome analysis fallback found).report = (ofOutcome analysis' fallback found').report ∧
      (ofOutcome analysis fallback found).status =
        (ofOutcome analysis' fallback found').status := by
  subst h
  cases found <;> exact ⟨rfl, rfl⟩

section

variable {i i' : Integration} {s s' : Service} {r r' : Round}

/-- Discovery in two rounds of one task, with services that differ in labels only. -/
theorem Round.SameTask.discover_unstamped (h : Round.SameTask i.bounds r r') (hs : s.queue = [])
    (hs' : s'.queue = []) (hss : s.unstamped = s'.unstamped) :
    (r.discover i.bounds s).unstamped = (r'.discover i.bounds s').unstamped := by
  -- both sides are what the erased round comes to in the erased service
  rw [← Round.discover_unstamped hs, ← Round.discover_unstamped hs', hss]
  exact discover_congr rfl h s'.unstamped

theorem Round.isolated_conduct (hi : i.bounds = i'.bounds) (h : Round.SameTask i.bounds r r')
    (hs : s.queue = []) (hs' : s'.queue = []) (hss : s.unstamped = s'.unstamped) :
    Isolated i.bounds (r, (r.conduct i s).result) (r', (r'.conduct i' s').result) := by
  have hdiscover := h.discover_unstamped hs hs' hss
  rw [conduct_eq, conduct_eq, ← hi]
  exact
    { discovery := congrArg (·.verdict) hdiscover
      discoveryStatus := congrArg (·.status) hdiscover
      purpose := Settled.ofOutcome_congr r.analysis r'.analysis PurposeReport.fallback
      anomalies := Settled.ofOutcome_congr r.analysis r'.analysis AnomalyReport.fallback
      intuition := Settled.ofOutcome_congr r.analysis r'.analysis fallbackIntuition
      prediction := Settled.ofOutcome_congr r.analysis r'.analysis Prediction.fallback
      review := Settled.ofOutcome_congr r.analysis r'.analysis Review.fallback }

end

/-! ## Series of rounds -/

/-- Rounds one after the other. -/
structure Series where
  integration : Integration
  service : Service
  /-- Each round with its result, the oldest first. -/
  log : List (Round × IntegratedResult)
  /-- All that was told, the oldest first. -/
  events : List Event

namespace Series

def start (i : Integration) (s : Service) : Series := ⟨i, s, [], []⟩

def step (x : Series) (r : Round) : Series :=
  let done := r.conduct x.integration x.service
  { integration := done.integration, service := done.service
    log := x.log ++ [(r, done.result)], events := x.events ++ done.events }

def run (x : Series) (rounds : List Round) : Series := rounds.foldl step x

def engineEvents (x : Series) : List EngineEvent := x.events.filterMap Event.engine?

/-! ### One series -/

theorem map_fst_log_run (x : Series) (rounds : List Round) :
    (x.run rounds).log.map (·.1) = x.log.map (·.1) ++ rounds := by
  induction rounds generalizing x with
  | nil => exact (List.append_nil _).symm
  | cons r rest ih =>
    show ((x.step r).run rest).log.map _ = _
    rw [ih, step, List.map_append, List.append_assoc]
    rfl

theorem queue_step {x : Series} (h : x.service.queue = []) (r : Round) :
    (x.step r).service.queue = [] :=
  r.queue_discover h x.integration.bounds

theorem engineEvents_step (x : Series) (r : Round) :
    (x.step r).engineEvents =
      x.engineEvents ++ (r.discover x.integration.bounds x.service).events := by
  have hengine (es : List EngineEvent) : (es.map Event.engine).filterMap Event.engine? = es := by
    rw [List.filterMap_map]
    exact List.filterMap_some
  have hintegration (es : List IntegrationEvent) :
      (es.map Event.integration).filterMap Event.engine? = [] := by
    rw [List.filterMap_map]
    exact List.filterMap_eq_nil_iff.mpr fun _ _ => rfl
  show (x.events ++ (r.conduct x.integration x.service).events).filterMap _ = _
  rw [List.filterMap_append, Round.conduct_eq]
  show _ ++ (List.map _ _ ++ List.map _ _).filterMap _ = _
  rw [List.filterMap_append, hengine, hintegration, List.append_nil]
  rfl

/-- In every round the layers show what their own calls came to. -/
theorem settles_run {b : Bounds} {x : Series} (hb : x.integration.bounds = b)
    (h : ∀ p ∈ x.log, p.2.Settles b p.1.calls) (rounds : List Round) :
    ∀ p ∈ (x.run rounds).log, p.2.Settles b p.1.calls := by
  induction rounds generalizing x with
  | nil => exact h
  | cons r rest ih =>
    refine ih (x := x.step r) hb fun p hp => ?_
    rcases List.mem_append.mp hp with hp | hp
    · exact h p hp
    · obtain rfl := List.mem_singleton.mp hp
      exact hb ▸ r.settles_conduct x.integration x.service

/-! ### Two series -/

/-- Two series that do not differ in what concerns discovery, but for labels. -/
structure Alike (b : Bounds) (x y : Series) : Prop where
  bounds : x.integration.bounds = b ∧ y.integration.bounds = b
  queues : x.service.queue = [] ∧ y.service.queue = []
  service : x.service.unstamped = y.service.unstamped
  events : x.engineEvents.map EngineEvent.unstamped = y.engineEvents.map EngineEvent.unstamped
  log : List.Forall₂ (Round.Isolated b) x.log y.log

theorem Alike.step {b : Bounds} {x y : Series} (h : Alike b x y) {r r' : Round}
    (hr : Round.SameTask b r r') : Alike b (x.step r) (y.step r') := by
  obtain ⟨⟨rfl, hb⟩, ⟨hx, hy⟩, hservice, hevents, hlog⟩ := h
  have hdiscover := hr.discover_unstamped hx hy hservice
  have hround : Round.Isolated x.integration.bounds _ _ :=
    Round.isolated_conduct hb.symm hr hx hy hservice
  exact
    { bounds := ⟨rfl, hb⟩
      queues := ⟨queue_step hx r, queue_step hy r'⟩
      service := by
        show (r.discover x.integration.bounds x.service).service.unstamped =
          (r'.discover y.integration.bounds y.service).service.unstamped
        rw [hb]
        exact congrArg (·.service) hdiscover
      events := by
        rw [engineEvents_step, engineEvents_step, List.map_append, List.map_append, hevents, hb]
        exact congrArg (_ ++ ·.events) hdiscover
      log := List.rel_append hlog (.cons hround .nil) }

theorem Alike.run {b : Bounds} {x y : Series} (h : Alike b x y) {rounds rounds' : List Round}
    (hrounds : List.Forall₂ (Round.SameTask b) rounds rounds') :
    Alike b (x.run rounds) (y.run rounds') := by
  induction hrounds generalizing x y with
  | nil => exact h
  | cons hr _ ih => exact ih (h.step hr)

/-- Whatever becomes of the analyzers in two series of rounds on the same codes, discovery comes to
the same in every round, the engine ends up the same and tells the same, but for labels.  Each layer
of an analyzer shows what its own call came to and nothing else, and so does the confidence. -/
theorem analyzers_are_isolated (i : Integration) (e : Engine) (capacity : Nat) (isRunning : Bool)
    {rounds rounds' : List Round}
    (h : List.Forall₂ (Round.SameTask i.bounds) rounds rounds') :
    let x := (start i ⟨e, [], capacity, isRunning⟩).run rounds
    let y := (start i ⟨e, [], capacity, isRunning⟩).run rounds'
    x.log.map (·.1) = rounds ∧ y.log.map (·.1) = rounds' ∧
      List.Forall₂ (Round.Isolated i.bounds) x.log y.log ∧
      x.service.unstamped = y.service.unstamped ∧
      x.engineEvents.map EngineEvent.unstamped = y.engineEvents.map EngineEvent.unstamped ∧
      (∀ p ∈ x.log, p.2.Settles i.bounds p.1.calls) ∧
      ∀ p ∈ y.log, p.2.Settles i.bounds p.1.calls := by
  intro x y
  -- what a round compares is kept by `Alike`; what it shows of its own calls needs no other series
  have hstart : Alike i.bounds (start i ⟨e, [], capacity, isRunning⟩)
      (start i ⟨e, [], capacity, isRunning⟩) := ⟨⟨rfl, rfl⟩, ⟨rfl, rfl⟩, rfl, rfl, .nil⟩
  have halike : Alike i.bounds x y := hstart.run h
  have hnone : ∀ p ∈ (start i ⟨e, [], capacity, isRunning⟩).log, p.2.Settles i.bounds p.1.calls :=
    fun _ hp => absurd hp List.not_mem_nil
  exact ⟨map_fst_log_run _ rounds, map_fst_log_run _ rounds', halike.log, halike.service,
    halike.events, settles_run rfl hnone rounds, settles_run rfl hnone rounds'⟩

/-- Under the standard settings: the built-in analyzers in one series, and in the other a panic and
an answer that is late. -/
theorem analyzers_are_isolated_standard :
    let i := Integration.start .standard
    let s := Service.start (Engine.make .standard) Service.defaultCapacity
    let calm : Round :=
      ⟨.lexical "return builder", .clear, .clear, default, default, "return builder", default⟩
    let troubled : Round :=
      { calm with
        calls := { calm.calls with
          purpose := ⟨0, .panicked none⟩, review := ⟨60000, calm.calls.review.ending⟩ }
        fragment := ⟨Uuid.ofNat 1, default⟩ }
    List.Forall₂ (Round.SameTask i.bounds) [calm] [troubled] ∧
      List.Forall₂ (Round.Isolated i.bounds)
        ((start i s).run [calm]).log ((start i s).run [troubled]).log ∧
      ∀ p ∈ ((start i s).run [troubled]).log, p.2.Settles i.bounds p.1.calls := by
  intro i s calm troubled
  have htask : List.Forall₂ (Round.SameTask i.bounds) [calm] [troubled] :=
    .cons ⟨rfl, rfl, rfl, rfl, by decide, by decide⟩ .nil
  obtain ⟨-, -, hlog, -, -, -, hsettles⟩ :=
    analyzers_are_isolated i (Engine.make .standard) Service.defaultCapacity true htask
  exact ⟨htask, hlog, hsettles⟩

end Series
end Motif
