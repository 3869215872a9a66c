import Motif.Engine

/-!
The engine behind a queue.  Requests wait in the order in which they came and are served one at a
time, so all changes of the engine happen one after the other.  Once the service is told to stop it
takes no request and serves none; what waits is turned away.
-/

namespace Motif

inductive Request where
  | analyze (stamp : Stamp) (code : String) (context : Context)
  | evaluate (stamp : Stamp) (code : String) (context : Context)
  | commit (now : Timestamp) (evaluation : Evaluation)
  | summary
  | insights
  | emerging
  | share (name : String)
  | candidate (name : String)
  | patterns

inductive Answer where
  | verdict (v : Verdict)
  | evaluated (r : Except Fragment.Refusal Evaluation)
  | outcome (o : Outcome)
  | summary (s : Summary)
  | insights (i : Insights)
  | emerging (es : List Emerging)
  | share (x : Float)
  | candidate (c : Option Candidate)
  | patterns (ps : List Pattern)

namespace Answer

/-! What callers make of an answer, where `none` stands for an engine that is not there. -/

def toVerdict : Option Answer → Verdict
  | some (.verdict v) => v
  | _ => .unavailable

def toEvaluation : Option Answer → Except EngineError Evaluation
  | some (.evaluated r) => r.mapError .refused
  | _ => .error .unavailable

def toOutcome? : Option Answer → Option Outcome
  | some (.outcome o) => some o
  | _ => none

end Answer

/-- What the engine does with a request. -/
def Engine.serve (e : Engine) : Request → Engine.Step Answer
  | .analyze stamp code context =>
    let step := e.analyze stamp code context
    ⟨step.engine, .verdict step.answer, step.events⟩
  | .evaluate stamp code context =>
    match e.evaluate stamp code context with
    | .ok v => ⟨e, .evaluated (.ok v), []⟩
    | .error why => ⟨e, .evaluated (.error why), [Engine.rejection why stamp.time]⟩
  | .commit now evaluation =>
    let step := e.commit now evaluation
    ⟨step.engine, .outcome step.answer, step.events⟩
  | .summary => ⟨e, .summary e.summary, []⟩
  | .insights => ⟨e, .insights e.insights, []⟩
  | .emerging => ⟨e, .emerging e.emerging, []⟩
  | .share name => ⟨e, .share (e.share name), []⟩
  | .candidate name => ⟨e, .candidate (e.candidate? name), []⟩
  | .patterns => ⟨e, .patterns e.patterns, []⟩

/-- A request and the number of its caller. -/
structure Ticket where
  caller : Nat
  request : Request

structure Service where
  engine : Engine
  /-- Requests that wait, the oldest first. -/
  queue : List Ticket
  capacity : Nat
  isRunning : Bool

namespace Service

def defaultCapacity : Nat := 256

/-- A service with room for `capacity` requests, and at least one. -/
def start (engine : Engine) (capacity : Nat) : Service := ⟨engine, [], max capacity 1, true⟩

def isFull (s : Service) : Bool := s.capacity ≤ s.queue.length

/-- Puts a request at the end of the queue, if the service takes it. -/
def submit (s : Service) (t : Ticket) : Option Service :=
  if s.isRunning && !s.isFull then some { s with queue := s.queue ++ [t] } else none

/-- Serves the oldest request. -/
def serve (s : Service) : Option (Service × Nat × Answer × List EngineEvent) :=
  match s.isRunning, s.queue with
  | true, t :: rest =>
    let step := s.engine.serve t.request
    some ({ s with engine := step.engine, queue := rest }, t.caller, step.answer, step.events)
  | _, _ => none

/-- Takes no request from now on, and drops those that wait. -/
def stop (s : Service) : Service := { s with queue := [], isRunning := false }

/-- Has one request served when nobody else asks.  There is no answer once the service is
stopped. -/
def ask (s : Service) (r : Request) : Service × Option Answer × List EngineEvent :=
  match (s.submit ⟨0, r⟩).bind serve with
  | some (s, _, answer, events) => (s, some answer, events)
  | none => (s, none, [])

/-! ## Requests one by one -/

def analyze (s : Service) (stamp : Stamp) (code : String) (context : Context) :
    Service × Verdict × List EngineEvent :=
  let (s, answer, events) := s.ask (.analyze stamp code context)
  (s, Answer.toVerdict answer, events)

def evaluate (s : Service) (stamp : Stamp) (code : String) (context : Context) :
    Except EngineError Evaluation × List EngineEvent :=
  let (_, answer, events) := s.ask (.evaluate stamp code context)
  (Answer.toEvaluation answer, events)

def commit (s : Service) (now : Timestamp) (v : Evaluation) :
    Service × Option Outcome × List EngineEvent :=
  let (s, answer, events) := s.ask (.commit now v)
  (s, Answer.toOutcome? answer, events)

def summary? (s : Service) : Option Summary :=
  match (s.ask .summary).2.1 with
  | some (.summary x) => some x
  | _ => none

def emerging? (s : Service) : Option (List Emerging) :=
  match (s.ask .emerging).2.1 with
  | some (.emerging es) => some es
  | _ => none

end Service
end Motif
