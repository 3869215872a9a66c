import Motif.Proofs.Findings
import Motif.Proofs.Undisturbed

/-!
An integrated analysis commits once or not at all, and says which.  The main statement holds for any
number of analyses that overlap, wherever the cancellations, the time limits and the stop of the
service fall.
-/

namespace Motif
namespace Overlap

variable {e : Engine} {capacity : Nat} {settings : IntegrationSettings} {o : Overlap}

/-- Whose request was served. -/
def client? (o : Overlap) (s : Served) : Option Party :=
  o.exchange.callers[s.ticket.caller]?.map (·.client)

/-- The commits that an analysis had applied. -/
def commitsOf (o : Overlap) (k : Nat) : List Served :=
  o.exchange.log.filter fun s => o.client? s = some (.committer k)

/-- The requests that were served without those of an analysis. -/
def without (o : Overlap) (k : Nat) : List Request :=
  (o.exchange.log.filter fun s =>
    o.client? s ≠ some (.evaluator k) ∧ o.client? s ≠ some (.committer k)).map (·.ticket.request)

theorem client?_eq_some {s : Served} {p : Party} : o.client? s = some p ↔
    ∃ c, o.exchange.callers[s.ticket.caller]? = some c ∧ c.client = p :=
  Option.map_eq_some_iff

theorem mem_commitsOf {k : Nat} {s : Served} : s ∈ o.commitsOf k ↔ s ∈ o.exchange.log ∧
    ∃ c, o.exchange.callers[s.ticket.caller]? = some c ∧ c.client = .committer k := by
  rw [commitsOf, List.mem_filter, decide_eq_true_iff, client?_eq_some]

namespace Sound

theorem length_commitsOf_le_one (h : Sound e o) (k : Nat) : (o.commitsOf k).length ≤ 1 := by
  have hlog : (o.exchange.log.map (·.ticket)).Pairwise o.exchange.Precedes :=
    (List.pairwise_append.mp h.exchange.ordered).1
  have hordered : (o.commitsOf k).Pairwise fun s t => o.exchange.Precedes s.ticket t.ticket :=
    (List.pairwise_map.mp hlog).filter _
  -- Two of them would be of one call, and a request does not precede itself.
  cases hl : o.commitsOf k with
  | nil => exact Nat.zero_le 1
  | cons s rest =>
    cases rest with
    | nil => exact Nat.le_refl 1
    | cons t rest =>
      have hs : s ∈ o.commitsOf k := by
        rw [hl]
        exact List.mem_cons_self
      have ht : t ∈ o.commitsOf k := by
        rw [hl]
        exact List.mem_cons_of_mem _ List.mem_cons_self
      obtain ⟨-, c, hc, hcc⟩ := mem_commitsOf.mp hs
      obtain ⟨-, d, hd, hdd⟩ := mem_commitsOf.mp ht
      rw [hl] at hordered
      have hlt := (List.pairwise_cons.mp hordered).1 t List.mem_cons_self c d hc hd
        (hcc.trans hdd.symm)
      have heq := h.once s.ticket.caller t.ticket.caller k c d hc hd hcc hdd
      omega

theorem commitsOf_eq_nil (h : Sound e o) {k : Nat}
    (hnone : ∀ (n : Nat) c, o.exchange.callers[n]? = some c → c.client = .committer k →
      c.stage = .returned none) : o.commitsOf k = [] := by
  refine List.eq_nil_iff_forall_not_mem.mpr fun s hs => ?_
  obtain ⟨hlog, c, hc, hclient⟩ := mem_commitsOf.mp hs
  have hstage := hnone s.ticket.caller c hc hclient
  have hout := h.exchange.not_mem_tickets hc (by rw [hstage]; rfl)
  exact hout s.ticket (Exchange.mem_tickets_of_log hlog) rfl

/-- An analysis that committed nothing left the engine to the others. -/
theorem engine_eq_without (h : Sound e o) {k : Nat} (hnone : o.commitsOf k = []) :
    o.exchange.service.engine = (e.serveAll (o.without k)).engine := by
  rw [h.exchange.engine]
  refine (Engine.engine_serveAll_filter (fun s : Served => s.ticket.request) _ e o.exchange.log
    fun s hs hp e' => ?_).symm
  have hcases : o.client? s = some (.evaluator k) ∨ o.client? s = some (.committer k) := by
    by_cases hev : o.client? s = some (.evaluator k)
    · exact Or.inl hev
    · by_cases hco : o.client? s = some (.committer k)
      · exact Or.inr hco
      · exact absurd ⟨hev, hco⟩ (of_decide_eq_false hp)
  rcases hcases with hev | hco
  · -- An evaluation changes nothing.
    obtain ⟨c, hc, hclient⟩ := client?_eq_some.mp hev
    obtain ⟨u, -, hr⟩ := h.evaluations s.ticket.caller k c hc hclient
    rw [← h.exchange.request_eq hs hc, hr]
    exact e'.engine_serve_evaluate _ _ _
  · have hmem : s ∈ o.commitsOf k := mem_commitsOf.mpr ⟨hs, client?_eq_some.mp hco⟩
    rw [hnone] at hmem
    exact absurd hmem List.not_mem_nil

theorem told_iff (h : Sound e o) {k : Nat} {d : Verdict × LayerStatus} (hd : o.Tells k d) :
    ((o.commitsOf k).length = 1 ↔ d.1.isSuccess = true) ∧ (d.1.isSuccess = true ↔ d.2 = .ok) := by
  rcases hd with ⟨hs, hok, n, c, a, hc, hclient, hstage⟩ | ⟨hs, hnot, hnone⟩
  · obtain ⟨i, hi, -⟩ := h.exchange.servedOnce hc (a := a) (by rw [hstage]; rfl)
    have hmem := mem_commitsOf.mpr ⟨List.mem_of_getElem? hi, c, hc, hclient⟩
    have hpos := List.length_pos_of_mem hmem
    have hle := h.length_commitsOf_le_one k
    exact ⟨⟨fun _ => hs, fun _ => by omega⟩, ⟨fun _ => hok, fun _ => hs⟩⟩
  · have hnil := h.commitsOf_eq_nil hnone
    refine ⟨⟨fun hone => ?_, fun hyes => ?_⟩, ⟨fun hyes => ?_, fun hok => absurd hok hnot⟩⟩
    · rw [hnil] at hone
      cases hone
    · rw [hs] at hyes
      cases hyes
    · rw [hs] at hyes
      cases hyes

end Sound

/-! ## Analyses that never commit -/

/-- The analysis was cancelled, or discovery has come to something other than an evaluation. -/
def IsVoid (u : Undertaking) : Prop :=
  u.isCancelled = true ∨ ∃ found, u.found? = some found ∧ ∀ v, found ≠ .ok (.ok v)

def IsSpared (o : Overlap) (k : Nat) : Prop :=
  (∃ u, o.undertakings[k]? = some u ∧ IsVoid u) ∧
    ∀ c ∈ o.exchange.callers, c.client ≠ .committer k

/-- Discovery that has come to nothing yet may come to anything. -/
theorem IsVoid.of_open {u u' : Undertaking} (h : IsVoid u) (hopen : u.found? = none)
    (hcancelled : u'.isCancelled = u.isCancelled) : IsVoid u' := by
  rcases h with hc | ⟨found, hfound, -⟩
  · exact Or.inl (hcancelled.trans hc)
  · rw [hopen] at hfound
    cases hfound

theorem IsSpared.change {k m : Nat} {u u' : Undertaking} (h : o.IsSpared k)
    (hu : o.undertakings[m]? = some u) (hvoid : IsVoid u → IsVoid u') :
    (o.change m u').IsSpared k := by
  obtain ⟨⟨w, hw, hwvoid⟩, hcallers⟩ := h
  refine ⟨?_, hcallers⟩
  rcases exists_change hu hw with ⟨rfl, rfl, hw'⟩ | hw'
  · exact ⟨u', hw', hvoid hwvoid⟩
  · exact ⟨w, hw', hwvoid⟩

namespace IsSpared

variable {k m : Nat} {u : Undertaking}

theorem begin (h : o.IsSpared k) (task : Task) :
    IsSpared { o with undertakings := o.undertakings ++ [.start task] } k := by
  obtain ⟨⟨u, hu, hvoid⟩, hcallers⟩ := h
  refine ⟨⟨u, ?_, hvoid⟩, hcallers⟩
  show (o.undertakings ++ [Undertaking.start task])[k]? = some u
  rw [List.getElem?_append_left (List.getElem?_eq_some_iff.mp hu).1]
  exact hu

theorem enter {p : Party} {r : Request} (h : o.IsSpared k) (hp : p ≠ .committer k) :
    (o.enter p r).IsSpared k := by
  refine ⟨h.1, fun c hc => ?_⟩
  rcases List.mem_append.mp hc with hc | hc
  · exact h.2 c hc
  · obtain rfl := List.mem_singleton.mp hc
    exact hp

/-- The analysis that asks for a commit is not void. -/
theorem ne_of_approve (h : o.IsSpared k) (hu : o.undertakings[m]? = some u)
    {found : Except LayerError (Except EngineError Evaluation)} {v : Evaluation}
    (hfound : u.found? = some found)
    (hv : Integration.approve u.isCancelled found = .ok v) : m ≠ k := by
  rintro rfl
  obtain ⟨hnot, rfl⟩ := Integration.approve_eq_ok hv
  obtain ⟨⟨w, hw, hvoid⟩, -⟩ := h
  obtain rfl : u = w := Option.some.inj (hu.symm.trans hw)
  rcases hvoid with hc | ⟨found, hfound', hne⟩
  · rw [hnot] at hc
    cases hc
  · obtain rfl := Option.some.inj (hfound.symm.trans hfound')
    exact hne v rfl

theorem move (h : o.IsSpared k) {y : Exchange Party} (hy : Exchange.Move o.exchange y) :
    IsSpared { o with exchange := y } k := by
  refine ⟨h.1, fun c hc => ?_⟩
  obtain ⟨n, hn⟩ := List.mem_iff_getElem?.mp hc
  obtain ⟨d, hd, hclient, -⟩ := hy.exists_of_caller hn
  rw [hclient]
  exact h.2 d (List.mem_of_getElem? hd)

/-- What is found stays found, and who is cancelled stays cancelled. -/
theorem step (h : o.IsSpared k) {o' : Overlap} (hstep : Step o o') : o'.IsSpared k := by
  cases hstep with
  | begin task => exact h.begin task
  | cancel m u hu => exact h.change hu fun _ => Or.inl rfl
  | evaluate m u hu hfirst => exact h.enter (fun hne => by cases hne)
  | hear m u n c reply hu hphase hopen => exact h.change hu fun hv => hv.of_open hopen rfl
  | miss m u trouble hu hphase hopen => exact h.change hu fun hv => hv.of_open hopen rfl
  | join m u purpose anomalies intuition prediction review hu => exact h.change hu fun hv => hv
  | skip m u reports found d hu => exact h.change hu fun hv => hv
  | commit m u reports found v now hu hphase hfound hv =>
    have hother : m ≠ k := h.ne_of_approve hu hfound hv
    have hchanged : (o.change m { u with phase := .committing reports }).IsSpared k :=
      h.change hu fun hvoid => hvoid
    exact hchanged.enter fun heq => hother (Party.committer.inj heq)
  | answer m u reports n c reply hu => exact h.change hu fun hv => hv
  | conclude m u reports d result hu hphase hresult =>
    have hchanged : (o.change m { u with phase := .returned result }).IsSpared k :=
      h.change hu fun hv => hv
    exact hchanged
  | drop m u hu hphase => exact h.change hu fun hv => hv
  | ask i r hover => exact h.enter (fun hne => by cases hne)
  | move y hy => exact h.move hy

theorem steps (h : o.IsSpared k) {o' : Overlap} (hsteps : Steps o o') : o'.IsSpared k := by
  induction hsteps with
  | refl => exact h
  | tail _ hstep ih => exact ih.step hstep

end IsSpared

/-! ## All analyses -/

/-- However the steps of the analyses, of the other callers and of the server fall: an analysis has
at most one commit applied, that of the evaluation of its own code.  When it returns, it has had one
applied just if discovery shows as a success, and just if the layer shows as answered.  An analysis
that was cancelled before it looked, or whose discovery came to nothing, leaves the engine where the
requests of the others put it. -/
theorem commit_atomicity (ho : Reachable e capacity settings o) (k : Nat) :
    (o.commitsOf k).length ≤ 1 ∧
    (∀ s ∈ o.commitsOf k, ∃ u v now, o.undertakings[k]? = some u ∧
      u.found? = some (.ok (.ok v)) ∧ s.ticket.request = .commit now v ∧
      ∃ e' : Engine, e'.evaluate u.task.fragment u.task.code u.task.context = .ok v) ∧
    (∀ u result, o.undertakings[k]? = some u → u.phase = .returned result →
      ((o.commitsOf k).length = 1 ↔ result.discovery.isSuccess = true) ∧
      (result.discovery.isSuccess = true ↔ result.layers.discovery = .ok)) ∧
    (o.commitsOf k = [] → o.exchange.service.engine = (e.serveAll (o.without k)).engine) ∧
    ∀ u, o.undertakings[k]? = some u →
      (u.phase.isUnchecked = true ∧ u.isCancelled = true ∨
        (∃ error, u.found? = some (.error error)) ∨
        ∃ error, u.found? = some (.ok (.error error))) →
      ∀ o', Steps o o' → o'.commitsOf k = [] ∧
        o'.exchange.service.engine = (e.serveAll (o'.without k)).engine := by
  have h := ho.sound
  refine ⟨h.length_commitsOf_le_one k, fun s hs => ?_, fun u result hu hphase => ?_,
    h.engine_eq_without, fun u hu hvoid o' hsteps => ?_⟩
  · obtain ⟨hlog, c, hc, hclient⟩ := mem_commitsOf.mp hs
    obtain ⟨u, v, now, hu, hv, -, hr⟩ := h.commits s.ticket.caller k c hc hclient
    have hrequest := h.exchange.request_eq hlog hc
    exact ⟨u, v, now, hu, hv, hrequest.symm.trans hr, h.found k u v hu hv⟩
  · have htold := h.told k u (result.discovery, result.layers.discovery) hu (by rw [hphase]; rfl)
    exact h.told_iff htold
  · have hspared : o.IsSpared k := by
      refine ⟨⟨u, hu, ?_⟩, fun c hc hclient => ?_⟩
      · rcases hvoid with ⟨-, hc⟩ | ⟨error, hf⟩ | ⟨error, hf⟩
        · exact Or.inl hc
        · exact Or.inr ⟨_, hf, fun v hne => by cases hne⟩
        · exact Or.inr ⟨_, hf, fun v hne => by cases hne⟩
      · obtain ⟨n, hn⟩ := List.mem_iff_getElem?.mp hc
        obtain ⟨w, v, now, hw, hv, hchecked, -⟩ := h.commits n k c hn hclient
        obtain rfl : u = w := Option.some.inj (hu.symm.trans hw)
        rcases hvoid with ⟨hp, -⟩ | ⟨error, hf⟩ | ⟨error, hf⟩
        · rw [hchecked] at hp
          cases hp
        · rw [hf] at hv
          cases hv
        · rw [hf] at hv
          cases hv
    have h' := h.steps hsteps
    have hnil : o'.commitsOf k = [] := h'.commitsOf_eq_nil fun n c hc hclient =>
      absurd hclient ((hspared.steps hsteps).2 c (List.mem_of_getElem? hc))
    exact ⟨hnil, h'.engine_eq_without hnil⟩

/-- One analysis alone, of two words, commits under the standard settings. -/
theorem commit_atomicity_alone : ∃ o : Overlap,
    Reachable (Engine.make .standard) 1 .standard o ∧ (o.commitsOf 0).length = 1 := by
  let first : Overlap := .start (Engine.make .standard) 1 .standard
  let task : Task := ⟨default, default, "return builder", default⟩
  have hidle : first.exchange.Idle := Exchange.idle_start _ 1
  obtain ⟨v, hv⟩ := ((Engine.make .standard).exists_evaluate_iff task.fragment task.code
    task.context).mpr ⟨by decide, by decide⟩
  obtain ⟨o, u, ho, hphase, hstands⟩ := first.exists_steps_integrate hidle
    (fun _ hc => absurd hc List.not_mem_nil) default none task
  have hok := discovery_integrate_eq_ok hidle first.integration (by decide) default task hv
  obtain ⟨hone, hstatus⟩ := (commit_atomicity ho 0).2.2.1 u _ hstands.undertaking hphase
  exact ⟨o, ho, hone.mpr (hstatus.mpr hok)⟩

end Overlap
end Motif
