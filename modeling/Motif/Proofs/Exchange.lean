import Motif.Proofs.Serving
import Mathlib.Logic.Relation

/-!
The service and its callers, step by step.  A call looks whether the service was told to stop, waits
for room in the queue, and waits for its reply; the server looks whether it was told to stop, takes
a request, and sends the reply.  Between any two of these steps anything else can happen: other
callers, callers that give up, and the stop.

The sender of a reply is with its request, in the queue or with the server.  A call whose reply has
no sender any more returns without an answer.
-/

namespace Motif

/-- How far a call is. -/
inductive Stage where
  /-- It has not looked yet whether the service was told to stop. -/
  | entering
  /-- It waits for room in the queue. -/
  | sending
  | awaiting
  | answered (a : Answer)
  | returned (reply : Option Answer)
  | abandoned

namespace Stage

def isOver : Stage → Bool
  | returned _ | abandoned => true
  | _ => false

/-- Whether a call that far can have sent its request.  A call that returned without an answer may
have sent it, but then the request was dropped. -/
def isSent : Stage → Bool
  | entering | sending | returned none => false
  | _ => true

def reply? : Stage → Option Answer
  | answered a => some a
  | returned reply => reply
  | _ => none

end Stage

structure Caller (ι : Type) where
  client : ι
  request : Request
  stage : Stage

inductive Server where
  | looking
  | taking
  | replying (caller : Nat) (a : Answer)
  /-- It has left its loop and still holds the queue. -/
  | leaving
  | gone

def Server.isReplying : Server → Bool
  | replying _ _ => true
  | _ => false

structure Served where
  ticket : Ticket
  answer : Answer

/-- A service and all calls that were ever begun, each known by its place in the list. -/
structure Exchange (ι : Type) where
  service : Service
  isStopping : Bool
  hasHandles : Bool
  server : Server
  callers : List (Caller ι)
  /-- What was served, the oldest first. -/
  log : List Served

namespace Exchange

variable {ι : Type}

def start (engine : Engine) (capacity : Nat) : Exchange ι :=
  { service := Service.start engine capacity, isStopping := false, hasHandles := true
    server := .looking, callers := [], log := [] }

/-- The requests that were served or wait, in the order in which they came. -/
def tickets (x : Exchange ι) : List Ticket := x.log.map (·.ticket) ++ x.service.queue

def requests (x : Exchange ι) : List Request := x.log.map (·.ticket.request)

def answers (x : Exchange ι) : List Answer := x.log.map (·.answer)

theorem mem_tickets_of_log {x : Exchange ι} {s : Served} (hs : s ∈ x.log) : s.ticket ∈ x.tickets :=
  List.mem_append_left _ (List.mem_map_of_mem hs)

/-! ## Steps -/

def enter (x : Exchange ι) (client : ι) (request : Request) : Exchange ι :=
  { x with callers := x.callers ++ [⟨client, request, .entering⟩] }

def moveTo (x : Exchange ι) (n : Nat) (stage : Stage) : Exchange ι :=
  { x with callers := x.callers.modify n fun c => { c with stage } }

/-- A step other than the beginning of a call. -/
inductive Move : Exchange ι → Exchange ι → Prop
  | refuse (x : Exchange ι) (n : Nat) (c : Caller ι) (hc : x.callers[n]? = some c)
      (hstage : c.stage = .entering) (hstop : x.isStopping = true) :
      Move x (x.moveTo n (.returned none))
  | pass (x : Exchange ι) (n : Nat) (c : Caller ι) (hc : x.callers[n]? = some c)
      (hstage : c.stage = .entering) (hstop : x.isStopping = false) : Move x (x.moveTo n .sending)
  | send (x : Exchange ι) (n : Nat) (c : Caller ι) (s : Service) (hc : x.callers[n]? = some c)
      (hstage : c.stage = .sending) (hs : x.service.submit ⟨n, c.request⟩ = some s) :
      Move x ({ x with service := s }.moveTo n .awaiting)
  /-- The queue is gone. -/
  | bounce (x : Exchange ι) (n : Nat) (c : Caller ι) (hc : x.callers[n]? = some c)
      (hstage : c.stage = .sending) (hgone : x.service.isRunning = false) :
      Move x (x.moveTo n (.returned none))
  | receive (x : Exchange ι) (n : Nat) (c : Caller ι) (a : Answer) (hc : x.callers[n]? = some c)
      (hstage : c.stage = .answered a) : Move x (x.moveTo n (.returned (some a)))
  /-- Nobody can send the reply any more. -/
  | lose (x : Exchange ι) (n : Nat) (c : Caller ι) (hc : x.callers[n]? = some c)
      (hstage : c.stage = .awaiting) (hqueue : ∀ t ∈ x.service.queue, t.caller ≠ n)
      (hserver : ∀ a, x.server ≠ .replying n a) : Move x (x.moveTo n (.returned none))
  | abandon (x : Exchange ι) (n : Nat) (c : Caller ι) (hc : x.callers[n]? = some c)
      (hstage : c.stage.isOver = false) : Move x (x.moveTo n .abandoned)
  | shutdown (x : Exchange ι) : Move x { x with isStopping := true }
  | look (x : Exchange ι) (hserver : x.server = .looking) :
      Move x { x with server := if x.isStopping then .leaving else .taking }
  | idle (x : Exchange ι) (hserver : x.server = .taking) (hqueue : x.service.queue = []) :
      Move x { x with server := .looking }
  | serve (x : Exchange ι) (s : Service) (t : Ticket) (rest : List Ticket) (a : Answer)
      (events : List EngineEvent) (hserver : x.server = .taking)
      (hqueue : x.service.queue = t :: rest)
      (hs : x.service.serve = some (s, t.caller, a, events)) :
      Move x { x with
        service := s, server := .replying t.caller a, log := x.log ++ [⟨t, a⟩] }
  | reply (x : Exchange ι) (n : Nat) (c : Caller ι) (a : Answer)
      (hserver : x.server = .replying n a) (hc : x.callers[n]? = some c) (hstage : c.stage = .awaiting) :
      Move x ({ x with server := .looking }.moveTo n (.answered a))
  /-- The caller gave up, and its reply is discarded. -/
  | discard (x : Exchange ι) (n : Nat) (c : Caller ι) (a : Answer)
      (hserver : x.server = .replying n a) (hc : x.callers[n]? = some c)
      (hstage : c.stage ≠ .awaiting) : Move x { x with server := .looking }
  /-- Nobody can ask any more. -/
  | desert (x : Exchange ι) (hserver : x.server = .taking) (hqueue : x.service.queue = [])
      (hnone : x.hasHandles = false) : Move x { x with server := .leaving }
  | leave (x : Exchange ι) (hserver : x.server = .leaving) :
      Move x { x with service := x.service.stop, server := .gone }

/-- A client begins a call when its last one is over. -/
inductive Step : Exchange ι → Exchange ι → Prop
  | enter (x : Exchange ι) (client : ι) (request : Request) (hhandle : x.hasHandles = true)
      (hover : ∀ c ∈ x.callers, c.client = client → c.stage.isOver = true) :
      Step x (x.enter client request)
  | release (x : Exchange ι) (hover : ∀ c ∈ x.callers, c.stage.isOver = true) :
      Step x { x with hasHandles := false }
  | move {x y : Exchange ι} (h : Move x y) : Step x y

def Steps : Exchange ι → Exchange ι → Prop := Relation.ReflTransGen Step

def Reachable (e : Engine) (capacity : Nat) (x : Exchange ι) : Prop := Steps (start e capacity) x

/-! ## What every step keeps -/

/-- The answer went to the call. -/
def Gave (x : Exchange ι) (n : Nat) (a : Answer) : Prop :=
  ∃ s ∈ x.log, s.ticket.caller = n ∧ s.answer = a

/-- Of two requests of one client, the first is of the earlier call.  A request can thus not stand
twice in a list whose items precede one another. -/
def Precedes (x : Exchange ι) (t u : Ticket) : Prop :=
  ∀ c d, x.callers[t.caller]? = some c → x.callers[u.caller]? = some d → c.client = d.client →
    t.caller < u.caller

structure Sound (e : Engine) (x : Exchange ι) : Prop where
  engine : x.service.engine = (e.serveAll x.requests).engine
  answers : x.answers = (e.serveAll x.requests).answer
  known : ∀ t ∈ x.tickets, ∃ c, x.callers[t.caller]? = some c ∧ c.request = t.request ∧
    c.stage.isSent = true
  ordered : x.tickets.Pairwise x.Precedes
  /-- A call that was served and still waits is the one that is served right now. -/
  awaited : ∀ s ∈ x.log, ∀ c, x.callers[s.ticket.caller]? = some c → c.stage = .awaiting →
    x.server = .replying s.ticket.caller s.answer
  replied : ∀ n a, x.server = .replying n a → x.Gave n a
  heard : ∀ (n : Nat) c a, x.callers[n]? = some c → c.stage.reply? = some a → x.Gave n a
  sequential : ∀ (m n : Nat) c d, m < n → x.callers[m]? = some c → x.callers[n]? = some d →
    c.client = d.client → c.stage.isOver = true

theorem getElem?_callers_moveTo (x : Exchange ι) (n : Nat) (stage : Stage) (m : Nat) :
    (x.moveTo n stage).callers[m]? =
      x.callers[m]?.map fun c => if m = n then { c with stage } else c := by
  rw [moveTo, List.getElem?_modify, Option.map_eq_map]
  refine Option.map_congr fun c _ => ?_
  by_cases h : m = n
  · rw [if_pos h, if_pos h.symm]
  · rw [if_neg h, if_neg (Ne.symm h)]

theorem exists_of_moveTo {x : Exchange ι} {n : Nat} {stage : Stage} {m : Nat} {c : Caller ι}
    (h : (x.moveTo n stage).callers[m]? = some c) :
    ∃ d, x.callers[m]? = some d ∧ c.client = d.client ∧ c.request = d.request ∧
      c.stage = if m = n then stage else d.stage := by
  rw [getElem?_callers_moveTo] at h
  obtain ⟨d, hd, rfl⟩ := Option.map_eq_some_iff.mp h
  refine ⟨d, hd, ?_⟩
  by_cases hmn : m = n
  · rw [if_pos hmn, if_pos hmn]
    exact ⟨rfl, rfl, rfl⟩
  · rw [if_neg hmn, if_neg hmn]
    exact ⟨rfl, rfl, rfl⟩

theorem exists_moveTo {x : Exchange ι} (n : Nat) (stage : Stage) {m : Nat} {c : Caller ι}
    (h : x.callers[m]? = some c) :
    ∃ d, (x.moveTo n stage).callers[m]? = some d ∧ d.client = c.client ∧ d.request = c.request ∧
      d.stage = if m = n then stage else c.stage := by
  rw [getElem?_callers_moveTo, h]
  refine ⟨if m = n then { c with stage } else c, rfl, ?_⟩
  by_cases hmn : m = n
  · rw [if_pos hmn, if_pos hmn]
    exact ⟨rfl, rfl, rfl⟩
  · rw [if_neg hmn, if_neg hmn]
    exact ⟨rfl, rfl, rfl⟩

theorem getElem?_callers_enter {x : Exchange ι} {client : ι} {request : Request} {m : Nat}
    {c : Caller ι} : (x.enter client request).callers[m]? = some c ↔
      x.callers[m]? = some c ∨ m = x.callers.length ∧ c = ⟨client, request, .entering⟩ := by
  show (x.callers ++ [_])[m]? = some c ↔ _
  by_cases hm : m < x.callers.length
  · rw [List.getElem?_append_left hm]
    constructor
    · exact Or.inl
    · rintro (h | ⟨h, -⟩)
      · exact h
      · omega
  · have hnone : x.callers[m]? = none := List.getElem?_eq_none (by omega)
    rw [List.getElem?_append_right (by omega), hnone]
    by_cases he : m = x.callers.length
    · subst he
      simp [eq_comm]
    · have hout :
          ([⟨client, request, .entering⟩] : List (Caller ι))[m - x.callers.length]? = none :=
        List.getElem?_eq_none (by rw [List.length_singleton]; omega)
      rw [hout]
      constructor
      · intro h
        cases h
      · rintro (h | ⟨h, -⟩)
        · cases h
        · exact absurd h he

namespace Sound

variable {e : Engine} {x : Exchange ι}

theorem start (e : Engine) (capacity : Nat) : Sound e (Exchange.start e capacity : Exchange ι) where
  engine := rfl
  answers := rfl
  known _ ht := absurd ht List.not_mem_nil
  ordered := .nil
  awaited _ hs := absurd hs List.not_mem_nil
  replied _ _ h := by cases h
  heard _ _ _ hc := by cases hc
  sequential _ _ _ _ _ hc := by cases hc

theorem enter (h : Sound e x) {client : ι} (request : Request)
    (hover : ∀ c ∈ x.callers, c.client = client → c.stage.isOver = true) :
    Sound e (x.enter client request) where
  engine := h.engine
  answers := h.answers
  known t ht := by
    obtain ⟨c, hc, hr⟩ := h.known t ht
    exact ⟨c, getElem?_callers_enter.mpr (Or.inl hc), hr⟩
  ordered := by
    refine h.ordered.imp_of_mem fun {t u} ht hu htu c d hc hd => ?_
    obtain ⟨c', hc', -⟩ := h.known t ht
    obtain ⟨d', hd', -⟩ := h.known u hu
    have hcc : c' = c := Option.some.inj ((getElem?_callers_enter.mpr (Or.inl hc')).symm.trans hc)
    have hdd : d' = d := Option.some.inj ((getElem?_callers_enter.mpr (Or.inl hd')).symm.trans hd)
    exact htu c d (hcc ▸ hc') (hdd ▸ hd')
  awaited s hs c hc hstage := by
    rcases getElem?_callers_enter.mp hc with hc | ⟨-, rfl⟩
    · exact h.awaited s hs c hc hstage
    · cases hstage
  replied := h.replied
  heard n c a hc hreply := by
    rcases getElem?_callers_enter.mp hc with hc | ⟨-, rfl⟩
    · exact h.heard n c a hc hreply
    · cases hreply
  sequential m n c d hmn hc hd hcd := by
    have hlt (k : Nat) (b : Caller ι) (hb : x.callers[k]? = some b) : k < x.callers.length :=
      (List.getElem?_eq_some_iff.mp hb).1
    rcases getElem?_callers_enter.mp hd with hd | ⟨rfl, rfl⟩
    · rcases getElem?_callers_enter.mp hc with hc | ⟨rfl, -⟩
      · exact h.sequential m n c d hmn hc hd hcd
      · exact absurd (hlt n d hd) (by omega)
    · rcases getElem?_callers_enter.mp hc with hc | ⟨rfl, -⟩
      · exact hover c (List.mem_of_getElem? hc) hcd
      · omega

theorem not_mem_tickets (h : Sound e x) {n : Nat} {c : Caller ι} (hc : x.callers[n]? = some c)
    (hsent : c.stage.isSent = false) : ∀ t ∈ x.tickets, t.caller ≠ n := by
  rintro t ht rfl
  obtain ⟨d, hd, -, hstage⟩ := h.known t ht
  obtain rfl : c = d := Option.some.inj (hc.symm.trans hd)
  rw [hsent] at hstage
  cases hstage

theorem precedes_moveTo {n : Nat} {stage : Stage} {t u : Ticket} (h : x.Precedes t u) :
    (x.moveTo n stage).Precedes t u := by
  intro c d hc hd hcd
  obtain ⟨c', hc', hclient, -⟩ := exists_of_moveTo hc
  obtain ⟨d', hd', hclient', -⟩ := exists_of_moveTo hd
  exact h c' d' hc' hd' (hclient.symm.trans (hcd.trans hclient'))

theorem moveTo (h : Sound e x) {n : Nat} {c : Caller ι} (hc : x.callers[n]? = some c)
    (hlive : c.stage.isOver = false) {stage : Stage}
    (hsent : stage.isSent = true ∨ ∀ t ∈ x.tickets, t.caller ≠ n)
    (hwaits : stage = .awaiting → ∀ s ∈ x.log, s.ticket.caller ≠ n)
    (hreply : ∀ a, stage.reply? = some a → x.Gave n a) : Sound e (x.moveTo n stage) where
  engine := h.engine
  answers := h.answers
  known t ht := by
    obtain ⟨d, hd, hr, hs⟩ := h.known t ht
    obtain ⟨d', hd', -, hr', hs'⟩ := exists_moveTo n stage hd
    refine ⟨d', hd', hr'.trans hr, ?_⟩
    rw [hs']
    by_cases he : t.caller = n
    · rw [if_pos he]
      exact hsent.resolve_right fun hout => hout t ht he
    · rw [if_neg he]
      exact hs
  ordered := h.ordered.imp precedes_moveTo
  awaited s hs d hd hstage := by
    obtain ⟨d', hd', -, -, hs'⟩ := exists_of_moveTo hd
    rw [hs'] at hstage
    by_cases he : s.ticket.caller = n
    · rw [if_pos he] at hstage
      exact absurd he (hwaits hstage s hs)
    · rw [if_neg he] at hstage
      exact h.awaited s hs d' hd' hstage
  replied := h.replied
  heard m d a hd ha := by
    obtain ⟨d', hd', -, -, hs'⟩ := exists_of_moveTo hd
    rw [hs'] at ha
    by_cases he : m = n
    · rw [if_pos he] at ha
      exact he ▸ hreply a ha
    · rw [if_neg he] at ha
      exact h.heard m d' a hd' ha
  sequential m k b d hmk hb hd hbd := by
    obtain ⟨b', hb', hclient, -, hs'⟩ := exists_of_moveTo hb
    obtain ⟨d', hd', hclient', -⟩ := exists_of_moveTo hd
    have hover := h.sequential m k b' d' hmk hb' hd' (hclient.symm.trans (hbd.trans hclient'))
    rw [hs']
    by_cases he : m = n
    · subst he
      obtain rfl : c = b' := Option.some.inj (hc.symm.trans hb')
      rw [hlive] at hover
      cases hover
    · rw [if_neg he]
      exact hover

theorem moveTo_of_unsent (h : Sound e x) {n : Nat} {c : Caller ι} (hc : x.callers[n]? = some c)
    (hlive : c.stage.isOver = false) (hunsent : c.stage.isSent = false) {stage : Stage}
    (hwaits : stage ≠ .awaiting) (hreply : stage.reply? = none) : Sound e (x.moveTo n stage) := by
  refine h.moveTo hc hlive (Or.inr (h.not_mem_tickets hc hunsent))
    (fun hne => absurd hne hwaits) fun a ha => ?_
  rw [hreply] at ha
  cases ha

theorem send (h : Sound e x) {n : Nat} {c : Caller ι} {s : Service}
    (hc : x.callers[n]? = some c) (hstage : c.stage = .sending)
    (hs : x.service.submit ⟨n, c.request⟩ = some s) :
    Sound e ({ x with service := s }.moveTo n .awaiting) := by
  obtain ⟨-, hs⟩ := Service.submit_eq_some hs
  have hnew := h.not_mem_tickets hc (by rw [hstage]; rfl)
  have htickets : ({ x with service := s }.moveTo n .awaiting).tickets =
      x.tickets ++ [⟨n, c.request⟩] := by
    rw [tickets, tickets, List.append_assoc, hs]
    rfl
  -- The call goes on first; its ticket is put into the queue of the state after that.
  have hmoved : Sound e (x.moveTo n .awaiting) :=
    h.moveTo hc (by rw [hstage]; rfl) (Or.inl rfl)
      (fun _ s hs => hnew s.ticket (mem_tickets_of_log hs))
      (fun a ha => by cases ha)
  obtain ⟨c', hcaller, -, hrequest, hstage'⟩ := exists_moveTo n .awaiting hc
  rw [if_pos rfl] at hstage'
  refine ⟨?_, h.answers, fun t ht => ?_, ?_, hmoved.awaited, h.replied, hmoved.heard,
    hmoved.sequential⟩
  · show s.engine = _
    rw [hs]
    exact h.engine
  · rw [htickets] at ht
    rcases List.mem_append.mp ht with ht | ht
    · exact hmoved.known t ht
    · obtain rfl := List.mem_singleton.mp ht
      exact ⟨c', hcaller, hrequest, by rw [hstage']; rfl⟩
  · rw [htickets]
    refine List.pairwise_append.mpr ⟨hmoved.ordered, List.pairwise_singleton _ _, ?_⟩
    intro t ht u hu b d hb hd hbd
    obtain rfl := List.mem_singleton.mp hu
    obtain rfl : c' = d := Option.some.inj (hcaller.symm.trans hd)
    -- A later call of the client would be live along with this one.
    rcases Nat.lt_trichotomy t.caller n with hlt | heq | hgt
    · exact hlt
    · exact absurd heq (hnew t ht)
    · have hover := hmoved.sequential n t.caller c' b hgt hcaller hb hbd.symm
      rw [hstage'] at hover
      cases hover

/-- While the server is not replying, nobody who was served still waits. -/
theorem quiet (h : Sound e x) (hserver : x.server.isReplying = false) :
    ∀ s ∈ x.log, ∀ c, x.callers[s.ticket.caller]? = some c → c.stage ≠ .awaiting := by
  intro s hs c hc hstage
  rw [h.awaited s hs c hc hstage] at hserver
  cases hserver

theorem serve (h : Sound e x) {s : Service} {t : Ticket} {rest : List Ticket} {a : Answer}
    {events : List EngineEvent} (hserver : x.server = .taking)
    (hqueue : x.service.queue = t :: rest)
    (hs : x.service.serve = some (s, t.caller, a, events)) :
    Sound e { x with
      service := s, server := .replying t.caller a, log := x.log ++ [⟨t, a⟩] } := by
  obtain ⟨hs, -, ha⟩ := Service.serve_eq_some hqueue hs
  have htickets : ({ x with
      service := s, server := .replying t.caller a, log := x.log ++ [⟨t, a⟩] } :
      Exchange ι).tickets = x.tickets := by
    show List.map Served.ticket (x.log ++ [⟨t, a⟩]) ++ s.queue = _
    rw [tickets, hs, hqueue, List.map_append, List.append_assoc]
    rfl
  have hrequests : List.map (·.ticket.request) (x.log ++ [⟨t, a⟩]) = x.requests ++ [t.request] :=
    List.map_append
  have hquiet := h.quiet (by rw [hserver]; rfl)
  refine ⟨?_, ?_, fun u hu => h.known u (htickets ▸ hu), ?_, fun r hr c hc hstage => ?_, ?_, ?_,
    h.sequential⟩
  · show s.engine = (e.serveAll (List.map (·.ticket.request) (x.log ++ [⟨t, a⟩]))).engine
    rw [hs, hrequests, Engine.serveAll_append, ← h.engine]
    rfl
  · show List.map Served.answer (x.log ++ [⟨t, a⟩]) =
      (e.serveAll (List.map (·.ticket.request) (x.log ++ [⟨t, a⟩]))).answer
    rw [hrequests, Engine.serveAll_append, ← h.engine, ← h.answers, List.map_append, ha]
    rfl
  · rw [htickets]
    exact h.ordered
  · rcases List.mem_append.mp hr with hr | hr
    · exact absurd hstage (hquiet r hr c hc)
    · obtain rfl := List.mem_singleton.mp hr
      rfl
  · intro n b hb
    cases hb
    exact ⟨⟨t, a⟩, List.mem_append_right _ (List.mem_singleton_self _), rfl, rfl⟩
  · intro n c b hc hb
    obtain ⟨r, hr, hn⟩ := h.heard n c b hc hb
    exact ⟨r, List.mem_append_left _ hr, hn⟩

theorem turn (h : Sound e x) {server : Server}
    (hquiet : ∀ s ∈ x.log, ∀ c, x.callers[s.ticket.caller]? = some c → c.stage ≠ .awaiting)
    (hserver : server.isReplying = false) : Sound e { x with server } where
  engine := h.engine
  answers := h.answers
  known := h.known
  ordered := h.ordered
  awaited s hs c hc hstage := absurd hstage (hquiet s hs c hc)
  replied n a hn := by
    obtain rfl : server = .replying n a := hn
    cases hserver
  heard := h.heard
  sequential := h.sequential

theorem reply (h : Sound e x) {n : Nat} {c : Caller ι} {a : Answer}
    (hserver : x.server = .replying n a) (hc : x.callers[n]? = some c)
    (hstage : c.stage = .awaiting) :
    Sound e ({ x with server := .looking }.moveTo n (.answered a)) := by
  have hlive : c.stage.isOver = false := by rw [hstage]; rfl
  have hmoved : Sound e (x.moveTo n (.answered a)) := by
    refine h.moveTo hc hlive (Or.inl rfl) (fun hne => by cases hne) fun b hb => ?_
    obtain rfl : a = b := Option.some.inj hb
    exact h.replied n a hserver
  refine hmoved.turn (fun s hs d hd hwait => ?_) rfl
  have hnow := hmoved.awaited s hs d hd hwait
  have hn : s.ticket.caller = n := by
    have hboth := hserver.symm.trans hnow
    cases hboth
    rfl
  obtain ⟨d', -, -, -, hs'⟩ := exists_of_moveTo hd
  rw [hs', if_pos hn] at hwait
  cases hwait

theorem stop (h : Sound e x) (hserver : x.server.isReplying = false) :
    Sound e { x with service := x.service.stop, server := .gone } where
  engine := h.engine
  answers := h.answers
  known t ht := by
    refine h.known t (List.mem_append_left _ ?_)
    rcases List.mem_append.mp ht with ht | ht
    · exact ht
    · exact absurd ht List.not_mem_nil
  ordered := by
    show (x.log.map Served.ticket ++ []).Pairwise x.Precedes
    rw [List.append_nil]
    exact (List.pairwise_append.mp h.ordered).1
  awaited s hs c hc hstage := absurd hstage (h.quiet hserver s hs c hc)
  replied n a hn := by cases hn
  heard := h.heard
  sequential := h.sequential

theorem move (h : Sound e x) {y : Exchange ι} (hxy : Move x y) : Sound e y := by
  cases hxy with
  | refuse n c hc hstage hstop =>
    exact h.moveTo_of_unsent hc (by rw [hstage]; rfl) (by rw [hstage]; rfl)
      (fun hne => by cases hne) rfl
  | pass n c hc hstage hstop =>
    exact h.moveTo_of_unsent hc (by rw [hstage]; rfl) (by rw [hstage]; rfl)
      (fun hne => by cases hne) rfl
  | send n c s hc hstage hs => exact h.send hc hstage hs
  | bounce n c hc hstage hgone =>
    exact h.moveTo_of_unsent hc (by rw [hstage]; rfl) (by rw [hstage]; rfl)
      (fun hne => by cases hne) rfl
  | receive n c a hc hstage =>
    refine h.moveTo hc (by rw [hstage]; rfl) (Or.inl rfl) (fun hne => by cases hne) fun b hb => ?_
    exact h.heard n c b hc (by rw [hstage]; exact hb)
  | lose n c hc hstage hqueue hserver =>
    refine h.moveTo hc (by rw [hstage]; rfl) (Or.inr fun t ht hn => ?_) (fun hne => by cases hne)
      (fun _ ha => by cases ha)
    -- The call was not served: it waits, and the server is not replying to it.
    rcases List.mem_append.mp ht with ht | ht
    · obtain ⟨s, hs, rfl⟩ := List.mem_map.mp ht
      subst hn
      exact hserver s.answer (h.awaited s hs c hc hstage)
    · exact hqueue t ht hn
  | abandon n c hc hstage =>
    exact h.moveTo hc hstage (Or.inl rfl) (fun hne => by cases hne) (fun _ ha => by cases ha)
  | shutdown =>
    exact ⟨h.engine, h.answers, h.known, h.ordered, h.awaited, h.replied, h.heard, h.sequential⟩
  | look hserver =>
    refine h.turn (h.quiet (by rw [hserver]; rfl)) ?_
    split
    · rfl
    · rfl
  | idle hserver hqueue => exact h.turn (h.quiet (by rw [hserver]; rfl)) rfl
  | serve s t rest a events hserver hqueue hs => exact h.serve hserver hqueue hs
  | reply n c a hserver hc hstage => exact h.reply hserver hc hstage
  | discard n c a hserver hc hstage =>
    refine h.turn (fun s hs d hd hwait => ?_) rfl
    have hboth := hserver.symm.trans (h.awaited s hs d hd hwait)
    cases hboth
    obtain rfl : c = d := Option.some.inj (hc.symm.trans hd)
    exact hstage hwait
  | desert hserver hqueue hnone => exact h.turn (h.quiet (by rw [hserver]; rfl)) rfl
  | leave hserver => exact h.stop (by rw [hserver]; rfl)

theorem step (h : Sound e x) {y : Exchange ι} (hxy : Step x y) : Sound e y := by
  cases hxy with
  | enter client request hhandle hover => exact h.enter request hover
  | release hover =>
    exact ⟨h.engine, h.answers, h.known, h.ordered, h.awaited, h.replied, h.heard, h.sequential⟩
  | move hxy => exact h.move hxy

theorem steps (h : Sound e x) {y : Exchange ι} (hxy : Steps x y) : Sound e y := by
  induction hxy with
  | refl => exact h
  | tail _ hstep ih => exact ih.step hstep

end Sound

theorem Reachable.sound {e : Engine} {capacity : Nat} {x : Exchange ι}
    (h : Reachable e capacity x) : Sound e x := (Sound.start e capacity).steps h

/-! ## What later steps leave alone -/

theorem getElem?_moveTo_of_over {x : Exchange ι} {m n : Nat} {c d : Caller ι} {stage : Stage}
    (hc : x.callers[n]? = some c) (hlive : c.stage.isOver = false) (hd : x.callers[m]? = some d)
    (hover : d.stage.isOver = true) : (x.moveTo n stage).callers[m]? = some d := by
  rw [getElem?_callers_moveTo, hd]
  by_cases h : m = n
  · subst h
    obtain rfl : c = d := Option.some.inj (hc.symm.trans hd)
    rw [hlive] at hover
    cases hover
  · exact congrArg some (if_neg h)

/-- A step changes at most the stage of one call that is not over. -/
theorem Move.callers {x y : Exchange ι} (h : Move x y) :
    y.callers = x.callers ∨ ∃ n c stage, x.callers[n]? = some c ∧ c.stage.isOver = false ∧
      y.callers = (x.moveTo n stage).callers := by
  cases h with
  | refuse n c hc hstage | pass n c hc hstage | bounce n c hc hstage | receive n c a hc hstage
  | lose n c hc hstage =>
    exact Or.inr ⟨n, c, _, hc, by rw [hstage]; rfl, rfl⟩
  | send n c s hc hstage => exact Or.inr ⟨n, c, _, hc, by rw [hstage]; rfl, rfl⟩
  | abandon n c hc hlive => exact Or.inr ⟨n, c, _, hc, hlive, rfl⟩
  | reply n c a hserver hc hstage => exact Or.inr ⟨n, c, _, hc, by rw [hstage]; rfl, rfl⟩
  | shutdown | look | idle | serve | discard | desert | leave => exact Or.inl rfl

theorem Move.exists_of_caller {x y : Exchange ι} (h : Move x y) {m : Nat} {c : Caller ι}
    (hc : y.callers[m]? = some c) :
    ∃ d, x.callers[m]? = some d ∧ c.client = d.client ∧ c.request = d.request := by
  rcases h.callers with hsame | ⟨n, d, stage, -, -, hmoved⟩
  · exact ⟨c, hsame ▸ hc, rfl, rfl⟩
  · rw [hmoved] at hc
    obtain ⟨d, hd, hclient, hrequest, -⟩ := exists_of_moveTo hc
    exact ⟨d, hd, hclient, hrequest⟩

theorem Move.over {x y : Exchange ι} (h : Move x y) {m : Nat} {d : Caller ι}
    (hd : x.callers[m]? = some d) (hover : d.stage.isOver = true) : y.callers[m]? = some d := by
  rcases h.callers with hsame | ⟨n, c, stage, hc, hlive, hmoved⟩
  · rw [hsame]
    exact hd
  · rw [hmoved]
    exact getElem?_moveTo_of_over hc hlive hd hover

theorem Step.over {x y : Exchange ι} (h : Step x y) {m : Nat} {d : Caller ι}
    (hd : x.callers[m]? = some d) (hover : d.stage.isOver = true) : y.callers[m]? = some d := by
  cases h with
  | enter client request hhandle hall => exact getElem?_callers_enter.mpr (Or.inl hd)
  | release hall => exact hd
  | move h => exact h.over hd hover

theorem Steps.over {x y : Exchange ι} (h : Steps x y) {m : Nat} {d : Caller ι}
    (hd : x.callers[m]? = some d) (hover : d.stage.isOver = true) : y.callers[m]? = some d := by
  induction h with
  | refl => exact hd
  | tail _ hstep ih => exact hstep.over ih hover

theorem Move.tickets {x y : Exchange ι} (h : Move x y) {t : Ticket} (ht : t ∈ y.tickets) :
    t ∈ x.tickets ∨ ∃ c, x.callers[t.caller]? = some c ∧ c.stage = .sending := by
  cases h with
  | send n c s hc hstage hs =>
    obtain ⟨-, rfl⟩ := Service.submit_eq_some hs
    rcases List.mem_append.mp ht with ht | ht
    · exact Or.inl (List.mem_append_left _ ht)
    · rcases List.mem_append.mp ht with ht | ht
      · exact Or.inl (List.mem_append_right _ ht)
      · obtain rfl := List.mem_singleton.mp ht
        exact Or.inr ⟨c, hc, hstage⟩
  | serve s u rest a events hserver hqueue hs =>
    obtain ⟨rfl, -, -⟩ := Service.serve_eq_some hqueue hs
    refine Or.inl (List.mem_append.mpr ?_)
    rw [hqueue]
    rcases List.mem_append.mp ht with ht | ht
    · obtain ⟨r, hr, rfl⟩ := List.mem_map.mp ht
      rcases List.mem_append.mp hr with hr | hr
      · exact Or.inl (List.mem_map_of_mem hr)
      · obtain rfl := List.mem_singleton.mp hr
        exact Or.inr List.mem_cons_self
    · exact Or.inr (List.mem_cons_of_mem _ ht)
  | leave =>
    rcases List.mem_append.mp ht with ht | ht
    · exact Or.inl (List.mem_append_left _ ht)
    · exact absurd ht List.not_mem_nil
  | refuse | pass | bounce | receive | lose | abandon | shutdown | look | idle | reply | discard
  | desert => exact Or.inl ht

/-- No call waits for room unless it did before or the service was not told to stop. -/
theorem Move.sending {x y : Exchange ι} (h : Move x y) {m : Nat} {d : Caller ι}
    (hd : y.callers[m]? = some d) (hstage : d.stage = .sending) :
    x.isStopping = false ∨ ∃ c, x.callers[m]? = some c ∧ c.stage = .sending := by
  have back {n : Nat} {stage : Stage} (hne : stage ≠ .sending)
      (hm : (x.moveTo n stage).callers[m]? = some d) :
      ∃ c, x.callers[m]? = some c ∧ c.stage = .sending := by
    obtain ⟨c, hc, -, -, hs⟩ := exists_of_moveTo hm
    by_cases hmn : m = n
    · rw [if_pos hmn, hstage] at hs
      exact absurd hs.symm hne
    · rw [if_neg hmn, hstage] at hs
      exact ⟨c, hc, hs.symm⟩
  cases h with
  | pass n c hc hentering hstop => exact Or.inl hstop
  | refuse | send | bounce | receive | lose | abandon | reply =>
    exact Or.inr (back (fun hne => by cases hne) hd)
  | shutdown | look | idle | serve | discard | desert | leave => exact Or.inr ⟨d, hd, hstage⟩

theorem Move.isStopping {x y : Exchange ι} (h : Move x y) (hstop : x.isStopping = true) :
    y.isStopping = true := by
  cases h with
  | shutdown => rfl
  | _ => exact hstop

/-- Once the service was told to stop, what is served or waits is of calls begun before. -/
theorem Steps.barred {x y : Exchange ι} (h : Steps x y) {k : Nat} (hstop : x.isStopping = true)
    (hsending : ∀ n c, x.callers[n]? = some c → c.stage = .sending → n < k)
    (htickets : ∀ t ∈ x.tickets, t.caller < k) :
    y.isStopping = true ∧ (∀ n c, y.callers[n]? = some c → c.stage = .sending → n < k) ∧
      ∀ t ∈ y.tickets, t.caller < k := by
  induction h with
  | refl => exact ⟨hstop, hsending, htickets⟩
  | tail _ hstep ih =>
    obtain ⟨ihstop, ihsending, ihtickets⟩ := ih
    cases hstep with
    | enter client request hhandle hover =>
      refine ⟨ihstop, fun n c hc hs => ?_, ihtickets⟩
      rcases getElem?_callers_enter.mp hc with hc | ⟨-, rfl⟩
      · exact ihsending n c hc hs
      · cases hs
    | release hover => exact ⟨ihstop, ihsending, ihtickets⟩
    | move hmove =>
      refine ⟨hmove.isStopping ihstop, fun n d hd hs => ?_, fun t ht => ?_⟩
      · rcases hmove.sending hd hs with hnot | ⟨c, hc, hcs⟩
        · rw [ihstop] at hnot
          cases hnot
        · exact ihsending n c hc hcs
      · rcases hmove.tickets ht with ht | ⟨c, hc, hcs⟩
        · exact ihtickets t ht
        · exact ihsending t.caller c hc hcs

end Exchange
end Motif
