import Motif.Service

/-!
Requests served one after the other.  This is the run that every other way of reaching the engine is
compared with.
-/

namespace Motif

/-! ## The queue -/

namespace Service

theorem submit_eq_some {s s' : Service} {t : Ticket} (h : s.submit t = some s') :
    s.isRunning = true ∧ s' = { s with queue := s.queue ++ [t] } := by
  unfold submit at h
  split at h
  · next hroom => exact ⟨(Bool.and_eq_true_iff.mp hroom).1, (Option.some.inj h).symm⟩
  · cases h

theorem serve_eq_some {s s' : Service} {t : Ticket} {rest : List Ticket} {n : Nat} {a : Answer}
    {events : List EngineEvent} (hqueue : s.queue = t :: rest)
    (h : s.serve = some (s', n, a, events)) :
    s' = { s with engine := (s.engine.serve t.request).engine, queue := rest } ∧ n = t.caller ∧
      a = (s.engine.serve t.request).answer := by
  unfold serve at h
  rw [hqueue] at h
  split at h
  · next heq =>
    cases heq
    cases h
    exact ⟨rfl, rfl, rfl⟩
  · cases h

/-- Whether a request that comes now is served, when none waits. -/
def isOpen (s : Service) : Bool := s.isRunning && !s.isFull

theorem isOpen_start (e : Engine) (capacity : Nat) : (start e capacity).isOpen = true := by
  have hroom : ¬ max capacity 1 ≤ 0 := by omega
  exact congrArg (!·) (decide_eq_false hroom)

theorem ask_of_empty {s : Service} (h : s.queue = []) (r : Request) :
    s.ask r =
      if s.isOpen then
        ({ s with engine := (s.engine.serve r).engine }, some (s.engine.serve r).answer,
          (s.engine.serve r).events)
      else (s, none, []) := by
  rw [ask, submit]
  cases hopen : s.isOpen with
  | false =>
    rw [show (s.isRunning && !s.isFull) = false from hopen]
    rfl
  | true =>
    have hrunning : s.isRunning = true := (Bool.and_eq_true_iff.mp hopen).1
    rw [show (s.isRunning && !s.isFull) = true from hopen]
    obtain ⟨engine, queue, capacity, isRunning⟩ := s
    subst h hrunning
    rfl

theorem analyze_of_empty {s : Service} (h : s.queue = []) (stamp : Stamp) (code : String)
    (context : Context) :
    s.analyze stamp code context =
      if s.isOpen then
        ({ s with engine := (s.engine.analyze stamp code context).engine },
          (s.engine.analyze stamp code context).answer,
          (s.engine.analyze stamp code context).events)
      else (s, .unavailable, []) := by
  rw [analyze, ask_of_empty h]
  cases s.isOpen <;> rfl

theorem commit_of_empty {s : Service} (h : s.queue = []) (now : Timestamp) (v : Evaluation) :
    s.commit now v =
      if s.isOpen then
        ({ s with engine := (s.engine.commit now v).engine },
          some (s.engine.commit now v).answer, (s.engine.commit now v).events)
      else (s, none, []) := by
  rw [commit, ask_of_empty h]
  cases s.isOpen <;> rfl

end Service

/-- The engine after the requests, the answers, and all events, in the order of the requests. -/
def Engine.serveAll (e : Engine) : List Request → Engine.Step (List Answer)
  | [] => ⟨e, [], []⟩
  | r :: rest =>
    let first := e.serve r
    let others := first.engine.serveAll rest
    ⟨others.engine, first.answer :: others.answer, first.events ++ others.events⟩

namespace Engine

/-! ## One request -/

section

variable {e : Engine} {stamp : Stamp} {code : String} {context : Context}

theorem serve_analyze_of_ok {v : Evaluation} (h : e.evaluate stamp code context = .ok v) :
    e.serve (.analyze stamp code context) =
      ⟨(e.commit stamp.time v).engine, .verdict (.success (e.commit stamp.time v).answer),
        (e.commit stamp.time v).events⟩ := by
  simp only [serve, analyze, h]

theorem serve_analyze_of_error {why : Fragment.Refusal}
    (h : e.evaluate stamp code context = .error why) :
    e.serve (.analyze stamp code context) =
      ⟨e, .verdict (.refused why), [rejection why stamp.time]⟩ := by
  simp only [serve, analyze, h]

theorem serve_evaluate_of_ok {v : Evaluation} (h : e.evaluate stamp code context = .ok v) :
    e.serve (.evaluate stamp code context) = ⟨e, .evaluated (.ok v), []⟩ := by
  simp only [serve, h]

theorem serve_evaluate_of_error {why : Fragment.Refusal}
    (h : e.evaluate stamp code context = .error why) :
    e.serve (.evaluate stamp code context) =
      ⟨e, .evaluated (.error why), [rejection why stamp.time]⟩ := by
  simp only [serve, h]

theorem engine_serve_evaluate (e : Engine) (stamp : Stamp) (code : String) (context : Context) :
    (e.serve (.evaluate stamp code context)).engine = e := by
  cases h : e.evaluate stamp code context with
  | ok v => rw [serve_evaluate_of_ok h]
  | error why => rw [serve_evaluate_of_error h]

end

/-! ## One after the other -/

theorem serveAll_append (e : Engine) (rs qs : List Request) :
    e.serveAll (rs ++ qs) =
      ⟨((e.serveAll rs).engine.serveAll qs).engine,
        (e.serveAll rs).answer ++ ((e.serveAll rs).engine.serveAll qs).answer,
        (e.serveAll rs).events ++ ((e.serveAll rs).engine.serveAll qs).events⟩ := by
  induction rs generalizing e with
  | nil => rfl
  | cons r rest ih => simp only [List.cons_append, serveAll, ih, List.append_assoc]

theorem exists_of_getElem?_answer_serveAll {e : Engine} {rs : List Request} {k : Nat} {r : Request}
    {a : Answer} (hr : rs[k]? = some r) (ha : (e.serveAll rs).answer[k]? = some a) :
    ∃ e' : Engine, a = (e'.serve r).answer := by
  induction rs generalizing e k with
  | nil => cases hr
  | cons q rest ih =>
    cases k with
    | zero =>
      obtain rfl : q = r := Option.some.inj hr
      exact ⟨e, (Option.some.inj ha).symm⟩
    | succ k => exact ih hr ha

/-- Leaving out requests that no engine learns from makes no difference to the engine. -/
theorem engine_serveAll_filter {α : Type} (request : α → Request) (p : α → Bool) (e : Engine)
    (l : List α) (h : ∀ a ∈ l, p a = false → ∀ e' : Engine, (e'.serve (request a)).engine = e') :
    (e.serveAll ((l.filter p).map request)).engine = (e.serveAll (l.map request)).engine := by
  induction l generalizing e with
  | nil => rfl
  | cons a rest ih =>
    have hrest := fun e => ih e fun b hb => h b (List.mem_cons_of_mem a hb)
    cases hp : p a with
    | true =>
      rw [List.filter_cons_of_pos hp]
      exact hrest (e.serve (request a)).engine
    | false =>
      rw [List.filter_cons_of_neg (by rw [hp]; exact Bool.false_ne_true)]
      show _ = ((e.serve (request a)).engine.serveAll (rest.map request)).engine
      rw [h a List.mem_cons_self hp e]
      exact hrest e

end Engine
end Motif
