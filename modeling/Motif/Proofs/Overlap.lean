import Motif.Integration.Run
import Motif.Proofs.SingleWriter

/-!
Integrated analyses that overlap.  Any number of them share the service with each other and with
other callers.  Discovery of each asks for an evaluation in a call of its own, which may be answered
late or never; when all layers are over, the analysis looks whether it was cancelled, and asks for
its evaluation to be committed in a second call.  The clock is left out: a layer may run into its
limit, fail, panic or be cancelled at any time.
-/

namespace Motif

inductive Party where
  | outsider (i : Nat)
  /-- Discovery of an analysis. -/
  | evaluator (k : Nat)
  /-- An analysis that commits. -/
  | committer (k : Nat)
deriving DecidableEq

structure Task where
  fragment : Stamp
  analysis : Stamp
  code : String
  context : Context

inductive Phase where
  /-- Some layers are not over. -/
  | gathering
  | joined (reports : Reports)
  /-- It has asked for the commit. -/
  | committing (reports : Reports)
  | decided (discovery : Verdict × LayerStatus) (reports : Reports)
  | returned (result : IntegratedResult)
  /-- Its caller does not wait for it any more. -/
  | dropped

namespace Phase

/-- Whether the analysis has not looked yet whether it was cancelled. -/
def isUnchecked : Phase → Bool
  | gathering | joined _ => true
  | _ => false

def isReturned : Phase → Bool
  | returned _ => true
  | _ => false

/-- What has come of discovery. -/
def discovery? : Phase → Option (Verdict × LayerStatus)
  | decided discovery _ => some discovery
  | returned result => some (result.discovery, result.layers.discovery)
  | _ => none

end Phase

structure Undertaking where
  task : Task
  isCancelled : Bool
  found? : Option (Except LayerError (Except EngineError Evaluation))
  phase : Phase

def Undertaking.start (task : Task) : Undertaking := ⟨task, false, none, .gathering⟩

/-- Analyses that overlap, each known by its place in the list. -/
structure Overlap where
  exchange : Exchange Party
  integration : Integration
  undertakings : List Undertaking

namespace Overlap

def start (engine : Engine) (capacity : Nat) (settings : IntegrationSettings) : Overlap :=
  ⟨.start engine capacity, .start settings, []⟩

def change (o : Overlap) (k : Nat) (u : Undertaking) : Overlap :=
  { o with undertakings := o.undertakings.set k u }

def enter (o : Overlap) (p : Party) (r : Request) : Overlap :=
  { o with exchange := o.exchange.enter p r }

/-! ## Steps -/

inductive Step : Overlap → Overlap → Prop
  | begin (o : Overlap) (task : Task) :
      Step o { o with undertakings := o.undertakings ++ [.start task] }
  | cancel (o : Overlap) (k : Nat) (u : Undertaking) (hu : o.undertakings[k]? = some u) :
      Step o (o.change k { u with isCancelled := true })
  | evaluate (o : Overlap) (k : Nat) (u : Undertaking) (hu : o.undertakings[k]? = some u)
      (hfirst : ∀ c ∈ o.exchange.callers, c.client ≠ .evaluator k) :
      Step o (o.enter (.evaluator k) (.evaluate u.task.fragment u.task.code u.task.context))
  | hear (o : Overlap) (k : Nat) (u : Undertaking) (n : Nat) (c : Caller Party)
      (reply : Option Answer) (hu : o.undertakings[k]? = some u) (hphase : u.phase = .gathering)
      (hopen : u.found? = none) (hc : o.exchange.callers[n]? = some c)
      (hclient : c.client = .evaluator k) (hstage : c.stage = .returned reply) :
      Step o (o.change k { u with found? := some (.ok (Answer.toEvaluation reply)) })
  /-- Discovery runs into its limit, is cancelled or panics. -/
  | miss (o : Overlap) (k : Nat) (u : Undertaking) (trouble : Trouble)
      (hu : o.undertakings[k]? = some u) (hphase : u.phase = .gathering)
      (hopen : u.found? = none) :
      Step o (o.change k { u with found? := some (.error ⟨"discovery", trouble⟩) })
  /-- All layers are over, the analyzers with any outcomes. -/
  | join (o : Overlap) (k : Nat) (u : Undertaking) (purpose : Except LayerError PurposeReport)
      (anomalies : Except LayerError AnomalyReport) (intuition : Except LayerError Float)
      (prediction : Except LayerError Prediction) (review : Except LayerError Review)
      (hu : o.undertakings[k]? = some u) (hphase : u.phase = .gathering)
      (hover : u.found? ≠ none) :
      Step o (o.change k { u with
        phase := .joined
          (.ofOutcomes u.task.analysis purpose anomalies intuition prediction review) })
  /-- There is nothing to commit, or the analysis was cancelled. -/
  | skip (o : Overlap) (k : Nat) (u : Undertaking) (reports : Reports)
      (found : Except LayerError (Except EngineError Evaluation)) (d : Verdict × LayerStatus)
      (hu : o.undertakings[k]? = some u) (hphase : u.phase = .joined reports)
      (hfound : u.found? = some found)
      (hd : Integration.approve u.isCancelled found = .error d) :
      Step o (o.change k { u with phase := .decided d reports })
  | commit (o : Overlap) (k : Nat) (u : Undertaking) (reports : Reports)
      (found : Except LayerError (Except EngineError Evaluation)) (v : Evaluation)
      (now : Timestamp) (hu : o.undertakings[k]? = some u) (hphase : u.phase = .joined reports)
      (hfound : u.found? = some found)
      (hv : Integration.approve u.isCancelled found = .ok v) :
      Step o ((o.change k { u with phase := .committing reports }).enter (.committer k)
        (.commit now v))
  | answer (o : Overlap) (k : Nat) (u : Undertaking) (reports : Reports) (n : Nat)
      (c : Caller Party) (reply : Option Answer) (hu : o.undertakings[k]? = some u)
      (hphase : u.phase = .committing reports) (hc : o.exchange.callers[n]? = some c)
      (hclient : c.client = .committer k) (hstage : c.stage = .returned reply) :
      Step o (o.change k { u with
        phase := .decided (Integration.committed (Answer.toOutcome? reply)) reports })
  | conclude (o : Overlap) (k : Nat) (u : Undertaking) (reports : Reports)
      (d : Verdict × LayerStatus) (result : IntegratedResult)
      (hu : o.undertakings[k]? = some u) (hphase : u.phase = .decided d reports)
      (hresult : result = Integration.conclude
        o.integration.settings.recommendationThreshold u.task.analysis d reports) :
      Step o { o.change k { u with phase := .returned result } with
        integration := o.integration.record result }
  /-- The whole analysis is given up. -/
  | drop (o : Overlap) (k : Nat) (u : Undertaking) (hu : o.undertakings[k]? = some u)
      (hphase : u.phase.isReturned = false) : Step o (o.change k { u with phase := .dropped })
  /-- Another client begins a call when its last one is over. -/
  | ask (o : Overlap) (i : Nat) (r : Request)
      (hover : ∀ c ∈ o.exchange.callers, c.client = .outsider i → c.stage.isOver = true) :
      Step o (o.enter (.outsider i) r)
  | move (o : Overlap) (y : Exchange Party) (h : Exchange.Move o.exchange y) :
      Step o { o with exchange := y }

def Steps : Overlap → Overlap → Prop := Relation.ReflTransGen Step

def Reachable (e : Engine) (capacity : Nat) (settings : IntegrationSettings) (o : Overlap) : Prop :=
  Steps (start e capacity settings) o

end Overlap

/-! ## The decisions of one analysis -/

namespace Integration

theorem approve_eq_ok {isCancelled : Bool}
    {found : Except LayerError (Except EngineError Evaluation)} {v : Evaluation}
    (h : approve isCancelled found = .ok v) : isCancelled = false ∧ found = .ok (.ok v) := by
  unfold approve at h
  split at h
  · cases h
  · cases h
  · split at h
    · cases h
    · next hnot =>
      cases h
      exact ⟨Bool.eq_false_iff.mpr hnot, rfl⟩

/-- Discovery that came to nothing shows in the verdict and in the status. -/
theorem approve_eq_error {isCancelled : Bool}
    {found : Except LayerError (Except EngineError Evaluation)} {d : Verdict × LayerStatus}
    (h : approve isCancelled found = .error d) : d.1.isSuccess = false ∧ d.2 ≠ .ok := by
  unfold approve at h
  split at h
  · cases h
    exact ⟨rfl, fun hne => by cases hne⟩
  · next why =>
    cases h
    cases why with
    | refused | unavailable => exact ⟨rfl, fun hne => by cases hne⟩
  · split at h
    · cases h
      exact ⟨rfl, fun hne => by cases hne⟩
    · cases h

end Integration
/-! ## What every step keeps -/

namespace Overlap

/-- Discovery succeeded just if the call for the commit was answered, and otherwise there was no
such call or it returned without an answer. -/
def Tells (o : Overlap) (k : Nat) (d : Verdict × LayerStatus) : Prop :=
  (d.1.isSuccess = true ∧ d.2 = .ok ∧ ∃ (n : Nat) (c : Caller Party) (a : Answer),
    o.exchange.callers[n]? = some c ∧ c.client = .committer k ∧ c.stage = .returned (some a)) ∨
  (d.1.isSuccess = false ∧ d.2 ≠ .ok ∧ ∀ (n : Nat) (c : Caller Party),
    o.exchange.callers[n]? = some c → c.client = .committer k → c.stage = .returned none)

structure Sound (e : Engine) (o : Overlap) : Prop where
  exchange : o.exchange.Sound e
  evaluations : ∀ (n k : Nat) c, o.exchange.callers[n]? = some c → c.client = .evaluator k →
    ∃ u, o.undertakings[k]? = some u ∧
      c.request = .evaluate u.task.fragment u.task.code u.task.context
  found : ∀ (k : Nat) u v, o.undertakings[k]? = some u → u.found? = some (.ok (.ok v)) →
    ∃ e' : Engine, e'.evaluate u.task.fragment u.task.code u.task.context = .ok v
  commits : ∀ (n k : Nat) c, o.exchange.callers[n]? = some c → c.client = .committer k →
    ∃ u v now, o.undertakings[k]? = some u ∧ u.found? = some (.ok (.ok v)) ∧
      u.phase.isUnchecked = false ∧ c.request = .commit now v
  once : ∀ (m n k : Nat) c d, o.exchange.callers[m]? = some c → o.exchange.callers[n]? = some d →
    c.client = .committer k → d.client = .committer k → m = n
  told : ∀ (k : Nat) u d, o.undertakings[k]? = some u → u.phase.discovery? = some d → o.Tells k d

theorem getElem?_undertakings_change {o : Overlap} {k m : Nat} {u w : Undertaking}
    (h : (o.change k u).undertakings[m]? = some w) :
    m = k ∧ w = u ∨ m ≠ k ∧ o.undertakings[m]? = some w := by
  by_cases hmk : m = k
  · subst hmk
    have hlt : m < o.undertakings.length := by
      have := (List.getElem?_eq_some_iff.mp h).1
      rwa [change, List.length_set] at this
    have hset : (o.change m u).undertakings[m]? = some u := List.getElem?_set_self hlt
    exact Or.inl ⟨rfl, Option.some.inj (h.symm.trans hset)⟩
  · rw [change, List.getElem?_set_ne (Ne.symm hmk)] at h
    exact Or.inr ⟨hmk, h⟩

theorem exists_change {o : Overlap} {k m : Nat} {u u' w : Undertaking}
    (hu : o.undertakings[k]? = some u) (hw : o.undertakings[m]? = some w) :
    m = k ∧ w = u ∧ (o.change k u').undertakings[m]? = some u' ∨
      (o.change k u').undertakings[m]? = some w := by
  by_cases hmk : m = k
  · subst hmk
    obtain rfl : u = w := Option.some.inj (hu.symm.trans hw)
    exact Or.inl ⟨rfl, rfl, List.getElem?_set_self (List.getElem?_eq_some_iff.mp hu).1⟩
  · refine Or.inr ?_
    rw [change, List.getElem?_set_ne (Ne.symm hmk)]
    exact hw

namespace Sound

variable {e : Engine} {o : Overlap}

theorem start (e : Engine) (capacity : Nat) (settings : IntegrationSettings) :
    Sound e (Overlap.start e capacity settings) where
  exchange := .start e capacity
  evaluations _ _ _ hc := by cases hc
  found _ _ _ hu := by cases hu
  commits _ _ _ hc := by cases hc
  once _ _ _ _ _ hc := by cases hc
  told _ _ _ hu := by cases hu

theorem begin (h : Sound e o) (task : Task) :
    Sound e { o with undertakings := o.undertakings ++ [.start task] } := by
  have keep {k : Nat} {u : Undertaking} (hu : o.undertakings[k]? = some u) :
      (o.undertakings ++ [Undertaking.start task])[k]? = some u := by
    rw [List.getElem?_append_left (List.getElem?_eq_some_iff.mp hu).1]
    exact hu
  have back {k : Nat} {u : Undertaking}
      (hu : (o.undertakings ++ [Undertaking.start task])[k]? = some u) :
      o.undertakings[k]? = some u ∨ u = .start task := by
    rw [List.getElem?_append] at hu
    split at hu
    · exact Or.inl hu
    · obtain rfl := List.mem_singleton.mp (List.mem_of_getElem? hu)
      exact Or.inr rfl
  refine ⟨h.exchange, fun n k c hc hclient => ?_, fun k u v hu hfound => ?_,
    fun n k c hc hclient => ?_, h.once, fun k u d hu hd => ?_⟩
  · obtain ⟨u, hu, hr⟩ := h.evaluations n k c hc hclient
    exact ⟨u, keep hu, hr⟩
  · rcases back hu with hu | rfl
    · exact h.found k u v hu hfound
    · cases hfound
  · obtain ⟨u, v, now, hu, hrest⟩ := h.commits n k c hc hclient
    exact ⟨u, v, now, keep hu, hrest⟩
  · rcases back hu with hu | rfl
    · exact h.told k u d hu hd
    · cases hd

/-- An analysis goes on.  What it has found stays, and so does that it has looked whether it was
cancelled. -/
theorem change (h : Sound e o) {k : Nat} {u u' : Undertaking} (hu : o.undertakings[k]? = some u)
    (htask : u'.task = u.task)
    (hkeep : ∀ v, u.found? = some (.ok (.ok v)) → u'.found? = some (.ok (.ok v)))
    (hfound : ∀ v, u'.found? = some (.ok (.ok v)) →
      ∃ e' : Engine, e'.evaluate u.task.fragment u.task.code u.task.context = .ok v)
    (hchecked : u.phase.isUnchecked = false → u'.phase.isUnchecked = false)
    (htold : ∀ d, u'.phase.discovery? = some d → o.Tells k d) : Sound e (o.change k u') := by
  refine ⟨h.exchange, fun n m c hc hclient => ?_, fun m w v hw hv => ?_,
    fun n m c hc hclient => ?_, h.once, fun m w d hw hd => ?_⟩
  · obtain ⟨w, hw, hr⟩ := h.evaluations n m c hc hclient
    rcases exists_change hu hw with ⟨rfl, rfl, hw⟩ | hw
    · exact ⟨u', hw, by rw [htask]; exact hr⟩
    · exact ⟨w, hw, hr⟩
  · rcases getElem?_undertakings_change hw with ⟨rfl, rfl⟩ | ⟨-, hw⟩
    · rw [htask]
      exact hfound v hv
    · exact h.found m w v hw hv
  · obtain ⟨w, v, now, hw, hv, hphase, hr⟩ := h.commits n m c hc hclient
    rcases exists_change hu hw with ⟨rfl, rfl, hw⟩ | hw
    · exact ⟨u', v, now, hw, hkeep v hv, hchecked hphase, hr⟩
    · exact ⟨w, v, now, hw, hv, hphase, hr⟩
  · rcases getElem?_undertakings_change hw with ⟨rfl, rfl⟩ | ⟨-, hw⟩
    · exact htold d hd
    · exact h.told m w d hw hd

/-- A call begins.  If it is for a commit, it is the first of its analysis, which has not heard of
its outcome yet. -/
theorem enter (h : Sound e o) {p : Party} {r : Request}
    (hover : ∀ c ∈ o.exchange.callers, c.client = p → c.stage.isOver = true)
    (hevaluation : ∀ k, p = .evaluator k → ∃ u, o.undertakings[k]? = some u ∧
      r = .evaluate u.task.fragment u.task.code u.task.context)
    (hcommit : ∀ k, p = .committer k → (∃ u v now, o.undertakings[k]? = some u ∧
      u.found? = some (.ok (.ok v)) ∧ u.phase.isUnchecked = false ∧
      u.phase.discovery? = none ∧ r = .commit now v) ∧
      ∀ c ∈ o.exchange.callers, c.client ≠ .committer k) : Sound e (o.enter p r) := by
  have back {n : Nat} {c : Caller Party} (hc : (o.enter p r).exchange.callers[n]? = some c) :
      o.exchange.callers[n]? = some c ∨
        n = o.exchange.callers.length ∧ c = ⟨p, r, .entering⟩ :=
    Exchange.getElem?_callers_enter.mp hc
  refine ⟨h.exchange.enter r hover, fun n k c hc hclient => ?_, h.found,
    fun n k c hc hclient => ?_, fun m n k c d hc hd hcc hdd => ?_, fun k u d hu hd => ?_⟩
  · rcases back hc with hc | ⟨-, rfl⟩
    · exact h.evaluations n k c hc hclient
    · exact hevaluation k hclient
  · rcases back hc with hc | ⟨-, rfl⟩
    · exact h.commits n k c hc hclient
    · obtain ⟨⟨u, v, now, hu, hv, hphase, -, hr⟩, -⟩ := hcommit k hclient
      exact ⟨u, v, now, hu, hv, hphase, hr⟩
  · rcases back hc with hc | ⟨hm, rfl⟩
    · rcases back hd with hd | ⟨hn, rfl⟩
      · exact h.once m n k c d hc hd hcc hdd
      · exact absurd hcc ((hcommit k hdd).2 c (List.mem_of_getElem? hc))
    · rcases back hd with hd | ⟨hn, rfl⟩
      · exact absurd hdd ((hcommit k hcc).2 d (List.mem_of_getElem? hd))
      · rw [hm, hn]
  · rcases h.told k u d hu hd with ⟨hs, hok, n, c, a, hc, hrest⟩ | ⟨hs, hnot, hnone⟩
    · exact Or.inl ⟨hs, hok, n, c, a, Exchange.getElem?_callers_enter.mpr (Or.inl hc), hrest⟩
    · refine Or.inr ⟨hs, hnot, fun n c hc hclient => ?_⟩
      rcases back hc with hc | ⟨-, rfl⟩
      · exact hnone n c hc hclient
      · obtain ⟨⟨w, -, -, hw, -, -, hundecided, -⟩, -⟩ := hcommit k hclient
        obtain rfl : u = w := Option.some.inj (hu.symm.trans hw)
        rw [hundecided] at hd
        cases hd

theorem move (h : Sound e o) {y : Exchange Party} (hy : Exchange.Move o.exchange y) :
    Sound e { o with exchange := y } := by
  refine ⟨h.exchange.move hy, fun n k c hc hclient => ?_, h.found, fun n k c hc hclient => ?_,
    fun m n k c d hc hd hcc hdd => ?_, fun k u d hu hd => ?_⟩
  · obtain ⟨c', hc', hcl, hr⟩ := hy.exists_of_caller hc
    rw [hr]
    exact h.evaluations n k c' hc' (hcl.symm.trans hclient)
  · obtain ⟨c', hc', hcl, hr⟩ := hy.exists_of_caller hc
    rw [hr]
    exact h.commits n k c' hc' (hcl.symm.trans hclient)
  · obtain ⟨c', hc', hcl, -⟩ := hy.exists_of_caller hc
    obtain ⟨d', hd', hdl, -⟩ := hy.exists_of_caller hd
    exact h.once m n k c' d' hc' hd' (hcl.symm.trans hcc) (hdl.symm.trans hdd)
  · rcases h.told k u d hu hd with ⟨hs, hok, n, c, a, hc, hclient, hstage⟩ | ⟨hs, hnot, hnone⟩
    · exact Or.inl ⟨hs, hok, n, c, a, hy.over hc (by rw [hstage]; rfl), hclient, hstage⟩
    · refine Or.inr ⟨hs, hnot, fun n c hc hclient => ?_⟩
      -- The call was over before the step, so it is what it was.
      obtain ⟨c', hc', hcl, -⟩ := hy.exists_of_caller hc
      have hstage := hnone n c' hc' (hcl.symm.trans hclient)
      have hsame := hy.over hc' (by rw [hstage]; rfl)
      obtain rfl : c' = c := Option.some.inj (hsame.symm.trans hc)
      exact hstage

/-- An analysis that has not looked yet whether it was cancelled has not asked for a commit. -/
theorem client_ne_committer (h : Sound e o) {k : Nat} {u : Undertaking}
    (hu : o.undertakings[k]? = some u) (hphase : u.phase.isUnchecked = true) {c : Caller Party}
    (hc : c ∈ o.exchange.callers) : c.client ≠ .committer k := by
  intro hclient
  obtain ⟨n, hn⟩ := List.mem_iff_getElem?.mp hc
  obtain ⟨w, -, -, hw, -, hchecked, -⟩ := h.commits n k c hn hclient
  obtain rfl : u = w := Option.some.inj (hu.symm.trans hw)
  rw [hphase] at hchecked
  cases hchecked

/-- An analysis enters a new phase, with what it has found before. -/
theorem turn (h : Sound e o) {k : Nat} {u : Undertaking} (hu : o.undertakings[k]? = some u)
    {phase : Phase} (hchecked : u.phase.isUnchecked = false → phase.isUnchecked = false)
    (htold : ∀ d, phase.discovery? = some d → o.Tells k d) :
    Sound e (o.change k { u with phase }) :=
  h.change hu rfl (fun _ hv => hv) (fun v hv => h.found k u v hu hv) hchecked htold

/-- What a call for an evaluation is answered with is an evaluation of the code. -/
theorem exists_evaluate_of_answer (h : Sound e o) {n k : Nat} {c : Caller Party} {u : Undertaking}
    {reply : Option Answer} {v : Evaluation} (hu : o.undertakings[k]? = some u)
    (hc : o.exchange.callers[n]? = some c) (hclient : c.client = .evaluator k)
    (hstage : c.stage = .returned reply) (hv : Answer.toEvaluation reply = .ok v) :
    ∃ e' : Engine, e'.evaluate u.task.fragment u.task.code u.task.context = .ok v := by
  obtain ⟨w, hw, hr⟩ := h.evaluations n k c hc hclient
  obtain rfl : u = w := Option.some.inj (hu.symm.trans hw)
  cases reply with
  | none => cases hv
  | some a =>
    obtain ⟨e', rfl⟩ := h.exchange.exists_answer hc (a := a) (by rw [hstage]; rfl)
    refine ⟨e', ?_⟩
    rw [hr] at hv
    cases he : e'.evaluate u.task.fragment u.task.code u.task.context with
    | ok w =>
      rw [Engine.serve_evaluate_of_ok he] at hv
      cases hv
      rfl
    | error why =>
      rw [Engine.serve_evaluate_of_error he] at hv
      cases hv

/-- Discovery comes to what the call for the commit is answered with. -/
theorem tells_committed (h : Sound e o) {n k : Nat} {c : Caller Party} {reply : Option Answer}
    (hc : o.exchange.callers[n]? = some c) (hclient : c.client = .committer k)
    (hstage : c.stage = .returned reply) :
    o.Tells k (Integration.committed (Answer.toOutcome? reply)) := by
  cases reply with
  | none =>
    refine Or.inr ⟨rfl, (fun hne => by cases hne), fun m b hb hbclient => ?_⟩
    obtain rfl := h.once n m k c b hc hb hclient hbclient
    obtain rfl : c = b := Option.some.inj (hc.symm.trans hb)
    exact hstage
  | some a =>
    obtain ⟨w, v, now, -, -, -, hr⟩ := h.commits n k c hc hclient
    obtain ⟨e', rfl⟩ := h.exchange.exists_answer hc (a := a) (by rw [hstage]; rfl)
    refine Or.inl ⟨?_, ?_, n, c, _, hc, hclient, hstage⟩
    · rw [hr]
      rfl
    · rw [hr]
      rfl

/-- The request for a commit is the first that the analysis makes. -/
theorem commit (h : Sound e o) {k : Nat} {u : Undertaking} {reports : Reports} {v : Evaluation}
    (now : Timestamp) (hu : o.undertakings[k]? = some u) (hphase : u.phase = .joined reports)
    (hfound : u.found? = some (.ok (.ok v))) :
    Sound e ((o.change k { u with phase := .committing reports }).enter (.committer k)
      (.commit now v)) := by
  have hchanged : Sound e (o.change k { u with phase := .committing reports }) :=
    h.turn hu (fun _ => rfl) (fun d hd => by cases hd)
  have hfirst (c : Caller Party) (hc : c ∈ o.exchange.callers) : c.client ≠ .committer k :=
    h.client_ne_committer hu (by rw [hphase]; rfl) hc
  refine hchanged.enter (fun c hc hclient => absurd hclient (hfirst c hc))
    (fun m hm => by cases hm) fun m hm => ?_
  cases hm
  have hset : (o.change k { u with phase := .committing reports }).undertakings[k]? =
      some { u with phase := .committing reports } :=
    List.getElem?_set_self (List.getElem?_eq_some_iff.mp hu).1
  exact ⟨⟨_, v, now, hset, hfound, rfl, rfl, rfl⟩, hfirst⟩

theorem step (h : Sound e o) {o' : Overlap} (hstep : Step o o') : Sound e o' := by
  cases hstep with
  | begin task => exact h.begin task
  | cancel k u hu =>
    exact h.change hu rfl (fun _ hv => hv) (fun v hv => h.found k u v hu hv) (fun hp => hp)
      (fun d hd => h.told k u d hu hd)
  | evaluate k u hu hfirst =>
    refine h.enter (fun c hc hclient => absurd hclient (hfirst c hc)) (fun m hm => ?_)
      (fun m hm => by cases hm)
    cases hm
    exact ⟨u, hu, rfl⟩
  | hear k u n c reply hu hphase hopen hc hclient hstage =>
    refine h.change hu rfl (fun v hv => ?_) (fun v hv => ?_) (fun hp => hp)
      (fun d hd => h.told k u d hu hd)
    · rw [hopen] at hv
      cases hv
    · have hv : Answer.toEvaluation reply = .ok v := by
        injection Option.some.inj hv
      exact h.exists_evaluate_of_answer hu hc hclient hstage hv
  | miss k u trouble hu hphase hopen =>
    refine h.change hu rfl (fun v hv => ?_) (fun v hv => by cases hv) (fun hp => hp)
      (fun d hd => h.told k u d hu hd)
    rw [hopen] at hv
    cases hv
  | join k u purpose anomalies intuition prediction review hu hphase hover =>
    refine h.turn hu (fun hp => ?_) (fun d hd => by cases hd)
    rw [hphase] at hp
    cases hp
  | skip k u reports found d hu hphase hfound hd =>
    refine h.turn hu (fun _ => rfl) fun d' hd' => ?_
    obtain rfl : d = d' := Option.some.inj hd'
    obtain ⟨hs, hnot⟩ := Integration.approve_eq_error hd
    refine Or.inr ⟨hs, hnot, fun n c hc hclient => absurd hclient ?_⟩
    exact h.client_ne_committer hu (by rw [hphase]; rfl) (List.mem_of_getElem? hc)
  | commit k u reports found v now hu hphase hfound hv =>
    obtain ⟨-, rfl⟩ := Integration.approve_eq_ok hv
    exact h.commit now hu hphase hfound
  | answer k u reports n c reply hu hphase hc hclient hstage =>
    refine h.turn hu (fun _ => rfl) fun d hd => ?_
    obtain rfl := Option.some.inj hd
    exact h.tells_committed hc hclient hstage
  | conclude k u reports d result hu hphase hresult =>
    have hchanged : Sound e (o.change k { u with phase := .returned result }) := by
      refine h.turn hu (fun _ => rfl) fun d' hd' => ?_
      obtain rfl : (result.discovery, result.layers.discovery) = d' := Option.some.inj hd'
      rw [hresult]
      exact h.told k u d hu (by rw [hphase]; rfl)
    exact ⟨hchanged.exchange, hchanged.evaluations, hchanged.found, hchanged.commits,
      hchanged.once, hchanged.told⟩
  | drop k u hu hphase => exact h.turn hu (fun _ => rfl) (fun d hd => by cases hd)
  | ask i r hover =>
    exact h.enter hover (fun k hk => by cases hk) (fun k hk => by cases hk)
  | move y hy => exact h.move hy

theorem steps (h : Sound e o) {o' : Overlap} (hsteps : Steps o o') : Sound e o' := by
  induction hsteps with
  | refl => exact h
  | tail _ hstep ih => exact ih.step hstep

end Sound

theorem Reachable.sound {e : Engine} {capacity : Nat} {settings : IntegrationSettings} {o : Overlap}
    (h : Reachable e capacity settings o) : Sound e o := (Sound.start e capacity settings).steps h

end Overlap
end Motif
