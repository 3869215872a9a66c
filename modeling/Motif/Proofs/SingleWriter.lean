import Motif.Proofs.Exchange

/-!
One writer.  Whatever the callers do and whenever the service is stopped, the engine is where a run
of the served requests, one after the other, would leave it, and every call that returns was either
served once and has the answer of that run, or was not served and returns without one.
-/

namespace Motif

/-! ## Counting observations -/

/-- The number of observations that an answer gives for an analysis that was committed. -/
def Answer.observation? : Answer → Option Nat
  | .verdict (.success o) => some o.observationCount
  | .outcome o => some o.observationCount
  | _ => none

namespace Engine

/-- A request that commits is told the next number, and no other changes it. -/
theorem observation?_serve (e : Engine) (r : Request) :
    ((e.serve r).answer.observation? = none ∧ (e.serve r).engine.observations = e.observations) ∨
    ((e.serve r).answer.observation? = some (e.observations + 1) ∧
      (e.serve r).engine.observations = e.observations + 1) := by
  cases r with
  | analyze stamp code context =>
    cases h : e.evaluate stamp code context with
    | ok v =>
      rw [serve_analyze_of_ok h]
      exact Or.inr ⟨rfl, rfl⟩
    | error why =>
      rw [serve_analyze_of_error h]
      exact Or.inl ⟨rfl, rfl⟩
  | evaluate stamp code context =>
    cases h : e.evaluate stamp code context with
    | ok v =>
      rw [serve_evaluate_of_ok h]
      exact Or.inl ⟨rfl, rfl⟩
    | error why =>
      rw [serve_evaluate_of_error h]
      exact Or.inl ⟨rfl, rfl⟩
  | commit now v => exact Or.inr ⟨rfl, rfl⟩
  | summary | insights | emerging | share | candidate | patterns => exact Or.inl ⟨rfl, rfl⟩

theorem observations_serveAll (e : Engine) (rs : List Request) :
    ∃ n, (e.serveAll rs).answer.filterMap Answer.observation? =
        List.range' (e.observations + 1) n ∧
      (e.serveAll rs).engine.observations = e.observations + n := by
  induction rs generalizing e with
  | nil => exact ⟨0, rfl, rfl⟩
  | cons r rest ih =>
    obtain ⟨n, hnumbers, hlast⟩ := ih (e.serve r).engine
    simp only [serveAll, List.filterMap_cons]
    rcases e.observation?_serve r with ⟨hnone, hobs⟩ | ⟨hsome, hobs⟩
    · rw [hobs] at hnumbers hlast
      rw [hnone]
      exact ⟨n, hnumbers, hlast⟩
    · rw [hobs] at hnumbers hlast
      rw [hsome]
      refine ⟨n + 1, ?_, by omega⟩
      rw [List.range'_succ, hnumbers]

end Engine

/-! ## What a caller is told -/

/-- What a call comes to for its caller.  An analysis never fails as such. -/
def Request.told : Request → Option Answer → Except EngineError Answer
  | analyze .., reply => .ok (.verdict (Answer.toVerdict reply))
  | evaluate .., reply => (Answer.toEvaluation reply).map fun v => .evaluated (.ok v)
  | _, some a => .ok a
  | _, none => .error .unavailable

/-- Whether a caller is told that there is no engine. -/
def IsUnavailable (told : Except EngineError Answer) : Prop :=
  told = .error .unavailable ∨ told = .ok (.verdict .unavailable)

theorem isUnavailable_told_none (r : Request) : IsUnavailable (r.told none) := by
  cases r with
  | analyze stamp code context => exact Or.inr rfl
  | _ => exact Or.inl rfl

/-- No answer of an engine looks as if there were none. -/
theorem not_isUnavailable_told_serve (e : Engine) (r : Request) :
    ¬IsUnavailable (r.told (some (e.serve r).answer)) := by
  intro h
  cases r with
  | analyze stamp code context =>
    cases hv : e.evaluate stamp code context with
    | ok v =>
      rw [Engine.serve_analyze_of_ok hv] at h
      rcases h with h | h
      · cases h
      · cases h
    | error why =>
      rw [Engine.serve_analyze_of_error hv] at h
      rcases h with h | h
      · cases h
      · simp [Request.told, Answer.toVerdict, Verdict.refused, Verdict.unavailable] at h
  | evaluate stamp code context =>
    cases hv : e.evaluate stamp code context with
    | ok v =>
      rw [Engine.serve_evaluate_of_ok hv] at h
      rcases h with h | h
      · cases h
      · cases h
    | error why =>
      rw [Engine.serve_evaluate_of_error hv] at h
      rcases h with h | h
      · cases h
      · cases h
  | commit | summary | insights | emerging | share | candidate | patterns =>
    rcases h with h | h
    · cases h
    · cases h

/-! ## Calls and the run of what was served -/

namespace Exchange

variable {ι : Type} {e : Engine} {capacity : Nat} {x : Exchange ι}

/-- The request of a call was served, once, and the call was given this answer. -/
def ServedOnce (x : Exchange ι) (n : Nat) (request : Request) (a : Answer) : Prop :=
  ∃ k : Nat, x.log[k]? = some ⟨⟨n, request⟩, a⟩ ∧
    ∀ (j : Nat) s, x.log[j]? = some s → s.ticket.caller = n → j = k

namespace Sound

theorem precedes_of_lt (h : Sound e x) {i j : Nat} {s t : Served} (hij : i < j)
    (hs : x.log[i]? = some s) (ht : x.log[j]? = some t) : x.Precedes s.ticket t.ticket := by
  have hlog : (x.log.map (·.ticket)).Pairwise x.Precedes :=
    (List.pairwise_append.mp h.ordered).1
  obtain ⟨hi, rfl⟩ := List.getElem?_eq_some_iff.mp hs
  obtain ⟨hj, rfl⟩ := List.getElem?_eq_some_iff.mp ht
  exact List.pairwise_iff_getElem.mp (List.pairwise_map.mp hlog) i j hi hj hij

theorem request_eq (h : Sound e x) {s : Served} {c : Caller ι} (hs : s ∈ x.log)
    (hc : x.callers[s.ticket.caller]? = some c) : c.request = s.ticket.request := by
  obtain ⟨d, hd, hrequest, -⟩ := h.known s.ticket (mem_tickets_of_log hs)
  obtain rfl : c = d := Option.some.inj (hc.symm.trans hd)
  exact hrequest

theorem log_inj (h : Sound e x) {i j : Nat} {s t : Served} (hs : x.log[i]? = some s)
    (ht : x.log[j]? = some t) (hst : s.ticket.caller = t.ticket.caller) : i = j := by
  obtain ⟨c, hc, -⟩ := h.known s.ticket (mem_tickets_of_log (List.mem_of_getElem? hs))
  rcases Nat.lt_trichotomy i j with hij | hij | hij
  · have := h.precedes_of_lt hij hs ht c c hc (hst ▸ hc) rfl
    omega
  · exact hij
  · have := h.precedes_of_lt hij ht hs c c (hst ▸ hc) hc rfl
    omega

theorem servedOnce (h : Sound e x) {n : Nat} {c : Caller ι} {a : Answer}
    (hc : x.callers[n]? = some c) (ha : c.stage.reply? = some a) :
    x.ServedOnce n c.request a := by
  obtain ⟨s, hs, rfl, rfl⟩ := h.heard n c a hc ha
  obtain ⟨k, hk, rfl⟩ := List.mem_iff_getElem.mp hs
  have hlog : x.log[k]? = some x.log[k] := List.getElem?_eq_getElem hk
  refine ⟨k, ?_, fun j t ht hcaller => h.log_inj ht hlog hcaller⟩
  rw [hlog, h.request_eq hs hc]

theorem exists_answer (h : Sound e x) {n : Nat} {c : Caller ι} {a : Answer}
    (hc : x.callers[n]? = some c) (ha : c.stage.reply? = some a) :
    ∃ e' : Engine, a = (e'.serve c.request).answer := by
  obtain ⟨k, hk, -⟩ := h.servedOnce hc ha
  have hr : x.requests[k]? = some c.request := by
    rw [requests, List.getElem?_map, hk]
    rfl
  have ha : (e.serveAll x.requests).answer[k]? = some a := by
    rw [← h.answers, Exchange.answers, List.getElem?_map, hk]
    rfl
  exact Engine.exists_of_getElem?_answer_serveAll hr ha

/-- A call that returned without an answer is not served, then or later: it stays as it is. -/
theorem not_served_of_returned_none (h : Sound e x) {n : Nat} {c : Caller ι}
    (hc : x.callers[n]? = some c) (hstage : c.stage = .returned none) {y : Exchange ι}
    (hxy : Steps x y) : ∀ s ∈ y.log, s.ticket.caller ≠ n := by
  intro s hs
  have hy : y.callers[n]? = some c := hxy.over hc (by rw [hstage]; rfl)
  exact (h.steps hxy).not_mem_tickets hy (by rw [hstage]; rfl) s.ticket (mem_tickets_of_log hs)

/-- What is served after the stop was begun before it. -/
theorem caller_lt_of_stopping (h : Sound e x) (hstop : x.isStopping = true) {y : Exchange ι}
    (hxy : Steps x y) : ∀ s ∈ y.log, s.ticket.caller < x.callers.length := by
  have hlt (n : Nat) (c : Caller ι) (hc : x.callers[n]? = some c) : n < x.callers.length :=
    (List.getElem?_eq_some_iff.mp hc).1
  have hbarred := hxy.barred hstop (fun n c hc _ => hlt n c hc) fun t ht => by
    obtain ⟨c, hc, -⟩ := h.known t ht
    exact hlt t.caller c hc
  intro s hs
  exact hbarred.2.2 s.ticket (mem_tickets_of_log hs)

end Sound

/-! ## All calls -/

/-- However the steps of callers, server and stop fall: the engine and the answers are those of the
served requests one after the other.  A call that returns was served once, with that answer, unless
it is told that there is no engine, and then it was not served and never will be.  Requests of one
client are served in its order, none is served that was begun after the stop, and the observations
are counted without gap or repetition. -/
theorem single_writer (hx : Reachable e capacity x) :
    x.service.engine = (e.serveAll x.requests).engine ∧
    x.answers = (e.serveAll x.requests).answer ∧
    (∀ (n : Nat) c reply, x.callers[n]? = some c → c.stage = .returned reply →
      (¬IsUnavailable (c.request.told reply) →
        ∃ a, reply = some a ∧ x.ServedOnce n c.request a) ∧
      (IsUnavailable (c.request.told reply) →
        ∀ y, Steps x y → ∀ s ∈ y.log, s.ticket.caller ≠ n)) ∧
    (∀ (i j : Nat) s t c d, i < j → x.log[i]? = some s → x.log[j]? = some t →
      x.callers[s.ticket.caller]? = some c → x.callers[t.ticket.caller]? = some d →
      c.client = d.client → s.ticket.caller < t.ticket.caller) ∧
    (x.isStopping = true → ∀ y, Steps x y → ∀ s ∈ y.log, s.ticket.caller < x.callers.length) ∧
    ∃ n, x.answers.filterMap Answer.observation? = List.range' (e.observations + 1) n ∧
      x.service.engine.observations = e.observations + n := by
  have h := hx.sound
  refine ⟨h.engine, h.answers, fun n c reply hc hstage => ?_,
    fun i j s t c d hij hs ht hc hd hcd => h.precedes_of_lt hij hs ht c d hc hd hcd,
    fun hstop y hxy => h.caller_lt_of_stopping hstop hxy, ?_⟩
  · cases reply with
    | none =>
      refine ⟨fun hnot => absurd (isUnavailable_told_none c.request) hnot, fun _ y hxy => ?_⟩
      exact h.not_served_of_returned_none hc hstage hxy
    | some a =>
      have ha : c.stage.reply? = some a := by
        rw [hstage]
        rfl
      refine ⟨fun _ => ⟨a, rfl, h.servedOnce hc ha⟩, fun hun => ?_⟩
      obtain ⟨e', rfl⟩ := h.exists_answer hc ha
      exact absurd hun (not_isUnavailable_told_serve e' c.request)
  · rw [h.answers, h.engine]
    exact e.observations_serveAll x.requests

/-- The stop falls between serving the first call and replying to it, and the second call comes
after the stop. -/
def stoppedInReply (e : Engine) : Exchange Unit :=
  let a : Answer := .summary e.summary
  let asked := (((start e 1).enter () .summary).moveTo 0 .sending)
  let sent :=
    { asked with service := { asked.service with queue := [⟨0, .summary⟩] } }.moveTo 0 .awaiting
  let served := { sent with
    service := { sent.service with queue := [] }, server := .looking, isStopping := true
    log := [⟨⟨0, .summary⟩, a⟩] }
  let first := (served.moveTo 0 (.answered a)).moveTo 0 (.returned (some a))
  (first.enter () .patterns).moveTo 1 (.returned none)

theorem reachable_stoppedInReply (e : Engine) : Reachable e 1 (stoppedInReply e) := by
  have hover (a : Answer) (c : Caller Unit) (hc : c ∈ [⟨(), .summary, .returned (some a)⟩]) :
      c.stage.isOver = true := by
    obtain rfl := List.mem_singleton.mp hc
    rfl
  exact .tail (.tail (.tail (.tail (.tail (.tail (.tail (.tail (.tail (.tail .refl
    (.enter _ () .summary rfl fun _ hc => absurd hc List.not_mem_nil))
    (.move (.pass _ 0 _ rfl rfl rfl)))
    (.move (.send _ 0 _ _ rfl rfl rfl)))
    (.move (.look _ rfl)))
    (.move (.serve _ _ _ _ _ _ rfl rfl rfl)))
    (.move (.shutdown _)))
    (.move (.reply _ 0 _ _ rfl rfl rfl)))
    (.move (.receive _ 0 _ _ rfl rfl)))
    (.enter _ () .patterns rfl fun c hc _ => hover _ c hc))
    (.move (.refuse _ 1 _ rfl rfl rfl))

theorem single_writer_stoppedInReply :
    Reachable (Engine.make .standard) 1 (stoppedInReply (Engine.make .standard)) ∧
    (∃ a, (stoppedInReply (Engine.make .standard)).ServedOnce 0 .summary a) ∧
    ∀ s ∈ (stoppedInReply (Engine.make .standard)).log, s.ticket.caller ≠ 1 := by
  have hx := reachable_stoppedInReply (Engine.make .standard)
  obtain ⟨-, -, hcalls, -⟩ := single_writer hx
  refine ⟨hx, ?_, ?_⟩
  · obtain ⟨a, -, hserved⟩ := (hcalls 0 _ _ rfl rfl).1 fun h => by rcases h with h | h <;> cases h
    exact ⟨a, hserved⟩
  · exact (hcalls 1 _ _ rfl rfl).2 (isUnavailable_told_none .patterns) _ .refl

end Exchange
end Motif
