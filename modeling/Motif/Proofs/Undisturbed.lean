import Motif.Proofs.Overlap

/-!
Runs that nobody disturbs.  Asking the service and integrating an analysis, as the program does one
after the other, are runs of the calls and of the analyses step by step.
-/

namespace Motif
namespace Exchange

variable {ι : Type} {x : Exchange ι}

/-! ## One call -/

/-- Nothing waits, and the service was not told to stop. -/
structure Idle (x : Exchange ι) : Prop where
  server : x.server = .looking
  queue : x.service.queue = []
  isRunning : x.service.isRunning = true
  isStopping : x.isStopping = false
  capacity : 0 < x.service.capacity

theorem idle_start (e : Engine) (capacity : Nat) : (start e capacity : Exchange ι).Idle :=
  ⟨rfl, rfl, rfl, rfl, Nat.lt_of_lt_of_le Nat.zero_lt_one (Nat.le_max_right capacity 1)⟩

theorem Idle.enter (h : x.Idle) (client : ι) (request : Request) : (x.enter client request).Idle :=
  ⟨h.server, h.queue, h.isRunning, h.isStopping, h.capacity⟩

theorem Idle.submit (h : x.Idle) (t : Ticket) :
    x.service.submit t = some { x.service with queue := [t] } := by
  have hroom : x.service.isFull = false := by
    rw [Service.isFull, h.queue]
    exact decide_eq_false (Nat.not_le.mpr h.capacity)
  simp [Service.submit, h.isRunning, hroom, h.queue]

theorem getElem?_moveTo_self {n : Nat} {c : Caller ι} (hc : x.callers[n]? = some c)
    (stage : Stage) : (x.moveTo n stage).callers[n]? = some { c with stage } := by
  rw [getElem?_callers_moveTo, hc]
  exact congrArg some (if_pos rfl)

/-- A call that is alone with the server is answered, and leaves everything else as it was. -/
theorem Idle.answers (h : x.Idle) {n : Nat} {c : Caller ι} (hc : x.callers[n]? = some c)
    (hstage : c.stage = .entering) :
    ∃ y, Relation.ReflTransGen Move x y ∧ y.Idle ∧
      y.service = { x.service with engine := (x.service.engine.serve c.request).engine } ∧
      y.callers =
        (x.moveTo n (.returned (some (x.service.engine.serve c.request).answer))).callers := by
  have hsubmit := h.submit ⟨n, c.request⟩
  obtain ⟨⟨engine, queue, capacity, isRunning⟩, isStopping, hasHandles, server, callers, log⟩ := x
  obtain ⟨hserver, hqueue, hrunning, hstop, hcapacity⟩ := h
  subst hserver hqueue hrunning hstop
  have hsending := getElem?_moveTo_self hc .sending
  have hawaiting := getElem?_moveTo_self hsending .awaiting
  have hanswered := getElem?_moveTo_self hawaiting (.answered (engine.serve c.request).answer)
  refine ⟨_, .tail (.tail (.tail (.tail (.tail (.tail .refl
    (.pass _ n c hc hstage rfl))
    (.send _ n _ _ hsending rfl hsubmit))
    (.look _ rfl))
    (.serve _ _ ⟨n, c.request⟩ [] _ _ rfl rfl rfl))
    (.reply _ n _ _ rfl hawaiting rfl))
    (.receive _ n _ _ hanswered rfl), ⟨rfl, rfl, rfl, rfl, hcapacity⟩, rfl, ?_⟩
  show (((callers.modify n _).modify n _).modify n _).modify n _ = callers.modify n _
  rw [List.modify_modify_eq, List.modify_modify_eq, List.modify_modify_eq]
  rfl

theorem Idle.ask_eq (h : x.Idle) (r : Request) :
    x.service.ask r =
      ({ x.service with engine := (x.service.engine.serve r).engine },
        some (x.service.engine.serve r).answer, (x.service.engine.serve r).events) := by
  rw [Service.ask, h.submit, Option.bind_some]
  simp [Service.serve, h.isRunning, h.queue]

/-- Asking the service is such a call. -/
theorem Idle.ask (h : x.Idle) {n : Nat} {c : Caller ι} (hc : x.callers[n]? = some c)
    (hstage : c.stage = .entering) :
    ∃ y, Relation.ReflTransGen Move x y ∧ y.Idle ∧ y.service = (x.service.ask c.request).1 ∧
      y.callers = (x.moveTo n (.returned (x.service.ask c.request).2.1)).callers := by
  rw [h.ask_eq]
  exact h.answers hc hstage

end Exchange

/-! ## One analysis -/

namespace Overlap

variable {o : Overlap} {k : Nat} {u : Undertaking} {s : Service} {i : Integration}

theorem Steps.moves {y : Exchange Party} (h : Relation.ReflTransGen Exchange.Move o.exchange y) :
    Steps o { o with exchange := y } := by
  induction h with
  | refl => exact .refl
  | tail _ hmove ih => exact ih.tail (.move _ _ hmove)

/-- The service is idle, and an analysis is that far. -/
structure Stands (o : Overlap) (k : Nat) (u : Undertaking) (s : Service) (i : Integration) :
    Prop where
  undertaking : o.undertakings[k]? = some u
  idle : o.exchange.Idle
  service : o.exchange.service = s
  integration : o.integration = i

namespace Stands

theorem change (h : o.Stands k u s i) (u' : Undertaking) : (o.change k u').Stands k u' s i :=
  ⟨List.getElem?_set_self (List.getElem?_eq_some_iff.mp h.undertaking).1, h.idle, h.service,
    h.integration⟩

theorem ask (h : o.Stands k u s i) (p : Party) (r : Request) :
    ∃ o', Steps (o.enter p r) o' ∧ o'.Stands k u (s.ask r).1 i ∧
      ∃ (n : Nat) (c : Caller Party), o'.exchange.callers[n]? = some c ∧ c.client = p ∧
        c.stage = .returned (s.ask r).2.1 := by
  have hc : (o.enter p r).exchange.callers[o.exchange.callers.length]? =
      some ⟨p, r, .entering⟩ := Exchange.getElem?_callers_enter.mpr (Or.inr ⟨rfl, rfl⟩)
  obtain ⟨y, hy, hidle, hservice, hcallers⟩ := (h.idle.enter p r).ask hc rfl
  have hreply : y.callers[o.exchange.callers.length]? =
      some ⟨p, r, .returned (o.exchange.service.ask r).2.1⟩ := by
    rw [hcallers]
    exact Exchange.getElem?_moveTo_self hc _
  rw [← h.service]
  exact ⟨_, Steps.moves hy, ⟨h.undertaking, hidle, hservice, h.integration⟩,
    o.exchange.callers.length, _, hreply, rfl, rfl⟩

theorem cancel (h : o.Stands k u s i) (hu : u.isCancelled = false) (isCancelled : Bool) :
    ∃ o', Steps o o' ∧ o'.Stands k { u with isCancelled } s i := by
  cases isCancelled with
  | false =>
    refine ⟨o, .refl, ?_⟩
    rw [← hu]
    exact h
  | true => exact ⟨_, .single (.cancel o k u h.undertaking), h.change _⟩

/-- Discovery ends by the clock or by an answer. -/
theorem discover (h : o.Stands k u s i) (hphase : u.phase = .gathering) (hopen : u.found? = none)
    (hfirst : ∀ c ∈ o.exchange.callers, c.client ≠ .evaluator k) (b : Bounds) :
    ∃ o', Steps o o' ∧ o'.Stands k { u with
      found? := some (Integration.evaluate b .clear s u.task.fragment u.task.code
        u.task.context).1 } s i := by
  unfold Integration.evaluate
  cases hb : b.outcome "discovery" ⟨Gate.clear.delay, .answered ()⟩ with
  | error error =>
    obtain ⟨trouble, rfl⟩ : ∃ trouble, error = ⟨"discovery", trouble⟩ := by
      unfold Bounds.outcome at hb
      split at hb
      · cases hb
        exact ⟨_, rfl⟩
      · split at hb
        · cases hb
          exact ⟨_, rfl⟩
        · cases hb
    exact ⟨_, .single (.miss o k u trouble h.undertaking hphase hopen), h.change _⟩
  | ok a =>
    let r := Request.evaluate u.task.fragment u.task.code u.task.context
    obtain ⟨o', ho', hstands, n, c, hc, hclient, hstage⟩ := h.ask (.evaluator k) r
    have hsame : (s.ask r).1 = s := by
      rw [← h.service, h.idle.ask_eq, Engine.engine_serve_evaluate]
    rw [hsame] at hstands
    refine ⟨_, .tail (.head (.evaluate o k u h.undertaking hfirst) ho')
      (.hear o' k u n c _ hstands.undertaking hphase hopen hc hclient hstage), hstands.change _⟩

theorem join (h : o.Stands k u s i) (hphase : u.phase = .gathering) (hover : u.found? ≠ none)
    (b : Bounds) (calls : Calls) :
    ∃ o', Steps o o' ∧
      o'.Stands k { u with phase := .joined (Integration.settle b calls u.task.analysis) } s i :=
  ⟨_, .single (.join o k u _ _ _ _ _ h.undertaking hphase hover), h.change _⟩

theorem commit (h : o.Stands k u s i) {reports : Reports} (hphase : u.phase = .joined reports)
    {found : Except LayerError (Except EngineError Evaluation)} (hfound : u.found? = some found)
    (now : Timestamp) :
    ∃ o', Steps o o' ∧ o'.Stands k { u with
      phase := .decided (Integration.commit u.isCancelled .clear s now found).2.1 reports }
      (Integration.commit u.isCancelled .clear s now found).1 i := by
  unfold Integration.commit
  cases hd : Integration.approve u.isCancelled found with
  | error d =>
    exact ⟨_, .single (.skip o k u reports found d h.undertaking hphase hfound hd), h.change _⟩
  | ok v =>
    have hasking := h.change { u with phase := .committing reports }
    obtain ⟨o', ho', hstands, n, c, hc, hclient, hstage⟩ :=
      hasking.ask (.committer k) (.commit now v)
    exact ⟨_, .tail (.head (.commit o k u reports found v now h.undertaking hphase hfound hd) ho')
      (.answer o' k _ reports n c _ hstands.undertaking rfl hc hclient hstage), hstands.change _⟩

theorem conclude (h : o.Stands k u s i) {reports : Reports} {d : Verdict × LayerStatus}
    (hphase : u.phase = .decided d reports) {result : IntegratedResult}
    (hresult : result = Integration.conclude i.settings.recommendationThreshold u.task.analysis d
      reports) :
    ∃ o', Steps o o' ∧ o'.Stands k { u with phase := .returned result } s (i.record result) := by
  have hrecorded : o.integration.record result = i.record result := by rw [h.integration]
  have hchanged := h.change { u with phase := .returned result }
  refine ⟨_, .single (.conclude o k u reports d result h.undertaking hphase ?_),
    hchanged.undertaking, hchanged.idle, hchanged.service, hrecorded⟩
  rw [h.integration]
  exact hresult

end Stands

/-- Integrating an analysis while nobody else asks is a run in which it begins and returns. -/
theorem exists_steps_integrate (hidle : o.exchange.Idle)
    (hfirst : ∀ c ∈ o.exchange.callers, c.client ≠ .evaluator o.undertakings.length)
    (calls : Calls) (cancel : Option Nat) (task : Task) :
    let step := o.integration.integrate o.exchange.service calls ⟨cancel, .clear, .clear⟩
      task.fragment task.analysis task.code task.context
    ∃ o' u, Steps o o' ∧ u.phase = .returned step.result ∧
      o'.Stands o.undertakings.length u step.service step.integration := by
  intro step
  let b : Bounds := ⟨o.integration.settings.timeout, cancel⟩
  let isCancelled := b.isCancelledBy (Integration.joined b (Gate.clear.delay :: calls.durations))
  let begun : Overlap := { o with undertakings := o.undertakings ++ [.start task] }
  have hbegun : begun.Stands o.undertakings.length (.start task) o.exchange.service
      o.integration :=
    ⟨List.getElem?_concat_length, hidle, rfl, rfl⟩
  obtain ⟨o₁, h₁, hfound⟩ := hbegun.discover rfl rfl hfirst b
  obtain ⟨o₂, h₂, hcancelled⟩ := hfound.cancel rfl isCancelled
  obtain ⟨o₃, h₃, hjoined⟩ := hcancelled.join rfl (fun hne => by cases hne) b calls
  obtain ⟨o₄, h₄, hdecided⟩ := hjoined.commit rfl rfl task.analysis.time
  obtain ⟨o₅, h₅, hreturned⟩ := hdecided.conclude rfl rfl
  have hsteps : Steps o o₅ :=
    .head (.begin o task) (h₁.trans (h₂.trans (h₃.trans (h₄.trans h₅))))
  exact ⟨o₅, _, hsteps, rfl, hreturned⟩

/-- Such an analysis commits, if its code is accepted and it is given any time. -/
theorem discovery_integrate_eq_ok {x : Exchange Party} (hidle : x.Idle) (i : Integration)
    (htime : 0 < i.settings.timeout) (calls : Calls) (task : Task) {v : Evaluation}
    (hv : x.service.engine.evaluate task.fragment task.code task.context = .ok v) :
    (i.integrate x.service calls ⟨none, .clear, .clear⟩ task.fragment task.analysis task.code
      task.context).result.layers.discovery = .ok := by
  let b : Bounds := ⟨i.settings.timeout, none⟩
  have hlimit : ¬b.limit ≤ 0 := by
    have hfarthest : 0 < Bounds.farthest := by decide
    show ¬min i.settings.timeout Bounds.farthest ≤ 0
    omega
  have hfound : (Integration.evaluate b .clear x.service task.fragment task.code
      task.context).1 = .ok (.ok v) := by
    have houtcome : b.outcome "discovery" ⟨Gate.clear.delay, Ending.answered ()⟩ = .ok () := by
      show (if false = true then _ else if b.limit ≤ 0 then _ else _) = _
      rw [if_neg Bool.false_ne_true, if_neg hlimit]
      rfl
    rw [Integration.evaluate, houtcome]
    show Except.ok (Answer.toEvaluation (x.service.ask _).2.1) = _
    rw [hidle.ask_eq, Engine.serve_evaluate_of_ok hv]
    rfl
  show (Integration.commit false .clear x.service task.analysis.time
    (Integration.evaluate b .clear x.service task.fragment task.code task.context).1).2.1.2 = .ok
  rw [hfound]
  show (Integration.committed (Answer.toOutcome? (x.service.ask _).2.1)).2 = .ok
  rw [hidle.ask_eq]
  rfl

end Overlap
end Motif
