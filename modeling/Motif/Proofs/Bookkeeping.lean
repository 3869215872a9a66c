import Mathlib
import Motif.Integration.Run

/-!
Bookkeeping of integrated analyses.  Each analysis is counted three times: in the totals, in the
history, which holds the latest results, and by its events on the bus.  Analyses overlap in any way,
and each does its bookkeeping in small steps: one event for each layer that fell back, the record of
its result, and the event that tells of its completion.
-/

namespace Motif

/-! ## Any number of records -/

namespace Integration

/-- What the integration has become when it has recorded the results in their order. -/
def after (settings : IntegrationSettings) (results : List IntegratedResult) : Integration :=
  results.foldl record (start settings)

theorem after_concat (settings : IntegrationSettings) (results : List IntegratedResult)
    (r : IntegratedResult) :
    after settings (results ++ [r]) = (after settings results).record r := by
  rw [after, List.foldl_concat]
  rfl

/-- The totals count all results, and the history holds the latest. -/
theorem after_eq (settings : IntegrationSettings) (results : List IntegratedResult) :
    after settings results =
      { settings
        history := Sequence.latest (max settings.historyLimit 1) results
        totalAnalyses := results.length
        correlationsFound := (results.map (·.correlations.length)).sum
        totalFallbacks := (results.map (·.layers.fallbacks)).sum } := by
  induction results using List.reverseRecOn with
  | nil => simp only [after, List.foldl_nil, start, List.map_nil, List.sum_nil, List.length_nil,
      Sequence.latest, List.drop_nil]
  | append_singleton results r ih =>
    rw [after_concat, ih, record, Sequence.latest_latest_append]
    simp only [List.length_append, List.map_append, List.sum_append, List.length_singleton,
      List.map_singleton, List.sum_singleton]

end Integration

/-! ## Events of one analysis -/

/-- The event, if it tells of the analysis. -/
def Event.about? (id : Uuid) : Event → Option IntegrationEvent
  | .engine _ => none
  | .integration e => if e.analysis = id then some e else none

namespace Event

variable {id : Uuid} {events : List IntegrationEvent}

theorem filterMap_about?_of_eq (h : ∀ e ∈ events, e.analysis = id) :
    (events.map Event.integration).filterMap (about? id) = events := by
  rw [List.filterMap_map]
  calc events.filterMap (about? id ∘ Event.integration) = events.filterMap some :=
        List.filterMap_congr fun e he => if_pos (h e he)
    _ = events := List.filterMap_some

theorem filterMap_about?_of_ne (h : ∀ e ∈ events, e.analysis ≠ id) :
    (events.map Event.integration).filterMap (about? id) = [] := by
  rw [List.filterMap_map, List.filterMap_eq_nil_iff]
  exact fun e he => if_neg (h e he)

end Event

namespace Reports

/-- What came of the layers of an analysis, whatever it was. -/
def IsOf (analysis : Stamp) (r : Reports) : Prop :=
  ∃ purpose anomalies intuition prediction review,
    r = ofOutcomes analysis purpose anomalies intuition prediction review

theorem filter_status_ofOutcome {α : Type} (analysis : Stamp) (fallback : α)
    (x : Except LayerError α) :
    ([(Settled.ofOutcome analysis fallback x).status].filter (!·.isOk)).length =
      (Settled.ofOutcome analysis fallback x).events.length := by
  cases x <;> rfl

variable {analysis : Stamp} {r : Reports}

/-- One event for each layer that fell back. -/
theorem IsOf.length_events (h : r.IsOf analysis) (discovery : LayerStatus) :
    r.events.length = (r.layers discovery).fallbacks := by
  obtain ⟨purpose, anomalies, intuition, prediction, review, rfl⟩ := h
  have hlayers (a b c d e : LayerStatus) : [a, b, c, d, e] = [a] ++ [b] ++ [c] ++ [d] ++ [e] := rfl
  rw [LayerStatuses.fallbacks, LayerStatuses.analyzers, hlayers]
  simp only [List.filter_append, List.length_append, events, layers, ofOutcomes,
    filter_status_ofOutcome]

theorem IsOf.of_mem_events (h : r.IsOf analysis) {e : IntegrationEvent} (he : e ∈ r.events) :
    ∃ layer reason, e = .fellBack analysis.id layer reason analysis.time := by
  have hsettled {α : Type} (fallback : α) (x : Except LayerError α)
      (he : e ∈ (Settled.ofOutcome analysis fallback x).events) :
      ∃ layer reason, e = .fellBack analysis.id layer reason analysis.time := by
    cases x with
    | ok a => cases he
    | error why => exact ⟨_, _, List.mem_singleton.mp he⟩
  obtain ⟨purpose, anomalies, intuition, prediction, review, rfl⟩ := h
  simp only [events, ofOutcomes, List.mem_append] at he
  rcases he with (((he | he) | he) | he) | he <;> exact hsettled _ _ he

end Reports

/-! ## The books -/

/-- How far an analysis is with its bookkeeping. -/
inductive Progress where
  /-- Some layers are not over. -/
  | open
  /-- The layers are over, and the events that are left have not been published yet. -/
  | telling (discovery : Verdict × LayerStatus) (reports : Reports) (left : List IntegrationEvent)
  | recorded (result : IntegratedResult)
  /-- Its completion was published. -/
  | finished (result : IntegratedResult)

structure Account where
  analysis : Stamp
  progress : Progress

def Account.result? (a : Account) : Option IntegratedResult :=
  match a.progress with
  | .recorded result | .finished result => some result
  | .open | .telling .. => none

structure Books where
  integration : Integration
  /-- All that was published, the oldest first. -/
  bus : List Event
  accounts : List Account
  /-- All results in the order in which they were recorded. -/
  recorded : List IntegratedResult

namespace Books

def start (settings : IntegrationSettings) : Books := ⟨.start settings, [], [], []⟩

/-- The events that tell of an analysis, the oldest first. -/
def eventsOf (b : Books) (id : Uuid) : List IntegrationEvent := b.bus.filterMap (Event.about? id)

/-- The engine may publish at any time.  No two analyses have the same identifier. -/
inductive Step : Books → Books → Prop
  | engine (b : Books) (e : EngineEvent) : Step b { b with bus := b.bus ++ [.engine e] }
  | begin (b : Books) (analysis : Stamp)
      (hnew : analysis.id ∉ b.accounts.map (·.analysis.id)) :
      Step b { b with accounts := b.accounts ++ [⟨analysis, .open⟩] }
  | settle (i : Integration) (bus : List Event) (before after : List Account)
      (recorded : List IntegratedResult) (analysis : Stamp) (discovery : Verdict × LayerStatus)
      (reports : Reports) (h : reports.IsOf analysis) :
      Step ⟨i, bus, before ++ ⟨analysis, .open⟩ :: after, recorded⟩
        ⟨i, bus, before ++ ⟨analysis, .telling discovery reports reports.events⟩ :: after, recorded⟩
  | tell (i : Integration) (bus : List Event) (before after : List Account)
      (recorded : List IntegratedResult) (analysis : Stamp) (discovery : Verdict × LayerStatus)
      (reports : Reports) (e : IntegrationEvent) (left : List IntegrationEvent) :
      Step ⟨i, bus, before ++ ⟨analysis, .telling discovery reports (e :: left)⟩ :: after, recorded⟩
        ⟨i, bus ++ [.integration e],
          before ++ ⟨analysis, .telling discovery reports left⟩ :: after, recorded⟩
  | record (i : Integration) (bus : List Event) (before after : List Account)
      (recorded : List IntegratedResult) (analysis : Stamp) (discovery : Verdict × LayerStatus)
      (reports : Reports) (result : IntegratedResult)
      (h : result =
        Integration.conclude i.settings.recommendationThreshold analysis discovery reports) :
      Step ⟨i, bus, before ++ ⟨analysis, .telling discovery reports []⟩ :: after, recorded⟩
        ⟨i.record result, bus, before ++ ⟨analysis, .recorded result⟩ :: after,
          recorded ++ [result]⟩
  | finish (i : Integration) (bus : List Event) (before after : List Account)
      (recorded : List IntegratedResult) (analysis : Stamp) (result : IntegratedResult) :
      Step ⟨i, bus, before ++ ⟨analysis, .recorded result⟩ :: after, recorded⟩
        ⟨i, bus ++ [.integration (Integration.completion result)],
          before ++ ⟨analysis, .finished result⟩ :: after, recorded⟩

def Steps : Books → Books → Prop := Relation.ReflTransGen Step

def Reachable (settings : IntegrationSettings) (b : Books) : Prop := Steps (start settings) b

end Books

/-! ## What every step keeps -/

/-- What an analysis has published fits how far it is. -/
def Account.Sound (threshold : Float) (published : List IntegrationEvent) (a : Account) : Prop :=
  let comesTo (result : IntegratedResult) (reports : Reports) : Prop :=
    reports.IsOf a.analysis ∧
      ∃ discovery, result = Integration.conclude threshold a.analysis discovery reports
  match a.progress with
  | .open => published = []
  | .telling _ reports left => reports.IsOf a.analysis ∧ published ++ left = reports.events
  | .recorded result => ∃ reports, comesTo result reports ∧ published = reports.events
  | .finished result => ∃ reports, comesTo result reports ∧
      published = reports.events ++ [Integration.completion result]

namespace Books

structure Sound (settings : IntegrationSettings) (b : Books) : Prop where
  integration : b.integration = Integration.after settings b.recorded
  recorded : b.recorded.Perm (b.accounts.filterMap Account.result?)
  nodup : (b.accounts.map (·.analysis.id)).Nodup
  accounts : ∀ a ∈ b.accounts, a.Sound settings.recommendationThreshold (b.eventsOf a.analysis.id)
  others : ∀ id, id ∉ b.accounts.map (·.analysis.id) → b.eventsOf id = []

variable {settings : IntegrationSettings} {b : Books}

namespace Sound

theorem start (settings : IntegrationSettings) : Sound settings (start settings) where
  integration := rfl
  recorded := .nil
  nodup := .nil
  accounts _ ha := absurd ha List.not_mem_nil
  others _ _ := rfl

theorem engine (h : Sound settings b) (e : EngineEvent) :
    Sound settings { b with bus := b.bus ++ [.engine e] } := by
  have hevents (id : Uuid) :
      eventsOf { b with bus := b.bus ++ [.engine e] } id = b.eventsOf id := by
    rw [eventsOf, List.filterMap_append]
    exact List.append_nil _
  refine ⟨h.integration, h.recorded, h.nodup, fun a ha => ?_, fun id hid => ?_⟩
  · rw [hevents]
    exact h.accounts a ha
  · rw [hevents]
    exact h.others id hid

theorem begin (h : Sound settings b) {analysis : Stamp}
    (hnew : analysis.id ∉ b.accounts.map (·.analysis.id)) :
    Sound settings { b with accounts := b.accounts ++ [⟨analysis, .open⟩] } := by
  refine ⟨h.integration, ?_, ?_, fun a ha => ?_, fun id hid => ?_⟩
  · rw [List.filterMap_append]
    exact (List.append_nil _).symm ▸ h.recorded
  · rw [List.map_append, List.map_singleton, ← List.concat_eq_append]
    exact h.nodup.concat hnew
  · rcases List.mem_append.mp ha with ha | ha
    · exact h.accounts a ha
    · obtain rfl := List.mem_singleton.mp ha
      exact h.others _ hnew
  · rw [List.map_append] at hid
    exact h.others id fun hin => hid (List.mem_append_left _ hin)

/-- The accounts beside one of them are of other analyses. -/
theorem id_ne_of_mem {i : Integration} {bus : List Event} {before after : List Account}
    {rs : List IntegratedResult} {analysis : Stamp} {p : Progress}
    (h : Sound settings ⟨i, bus, before ++ ⟨analysis, p⟩ :: after, rs⟩) {a : Account}
    (ha : a ∈ before ∨ a ∈ after) : a.analysis.id ≠ analysis.id := by
  have hnodup := h.nodup
  rw [List.map_append, List.map_cons, List.nodup_middle, List.nodup_cons, ← List.map_append]
    at hnodup
  exact fun heq => hnodup.1 (List.mem_map.mpr ⟨a, List.mem_append.mpr ha, heq⟩)

/-- One analysis goes on and publishes events of its own.  The others and their events stay. -/
theorem advance {i i' : Integration} {bus : List Event} {before after : List Account}
    {rs rs' : List IntegratedResult} {analysis : Stamp} {p : Progress}
    (h : Sound settings ⟨i, bus, before ++ ⟨analysis, p⟩ :: after, rs⟩) (p' : Progress)
    (published : List IntegrationEvent)
    (hi : i' = Integration.after settings rs')
    (hrs : rs'.Perm ((before ++ ⟨analysis, p'⟩ :: after).filterMap Account.result?))
    (hpublished : ∀ e ∈ published, e.analysis = analysis.id)
    (hsound : Account.Sound settings.recommendationThreshold
      (bus.filterMap (Event.about? analysis.id) ++ published) ⟨analysis, p'⟩) :
    Sound settings
      ⟨i', bus ++ published.map .integration, before ++ ⟨analysis, p'⟩ :: after, rs'⟩ := by
  have hids : (before ++ ⟨analysis, p'⟩ :: after).map (·.analysis.id) =
      (before ++ ⟨analysis, p⟩ :: after).map (·.analysis.id) := by
    simp only [List.map_append, List.map_cons]
  have hother {id : Uuid} (hne : id ≠ analysis.id) :
      eventsOf ⟨i', bus ++ published.map .integration, before ++ ⟨analysis, p'⟩ :: after, rs'⟩ id =
        bus.filterMap (Event.about? id) := by
    have hnone : ∀ e ∈ published, e.analysis ≠ id := fun e he heq =>
      hne (heq.symm.trans (hpublished e he))
    rw [eventsOf, List.filterMap_append, Event.filterMap_about?_of_ne hnone, List.append_nil]
  refine ⟨hi, hrs, hids ▸ h.nodup, fun a ha => ?_, fun id hid => ?_⟩
  · rcases List.mem_append.mp ha with hin | hin
    · rw [hother (h.id_ne_of_mem (.inl hin))]
      exact h.accounts a (List.mem_append_left _ hin)
    · rcases List.mem_cons.mp hin with rfl | hin
      · rw [eventsOf, List.filterMap_append, Event.filterMap_about?_of_eq hpublished]
        exact hsound
      · rw [hother (h.id_ne_of_mem (.inr hin))]
        exact h.accounts a (List.mem_append_right _ (List.mem_cons_of_mem _ hin))
  · rw [hids] at hid
    have hne : id ≠ analysis.id := by
      rintro rfl
      exact hid (List.mem_map_of_mem (List.mem_append_right _ List.mem_cons_self))
    rw [hother hne]
    exact h.others id hid

/-- A step in which nothing is recorded. -/
theorem advance_of_result?_eq {i : Integration} {bus : List Event} {before after : List Account}
    {rs : List IntegratedResult} {analysis : Stamp} {p : Progress}
    (h : Sound settings ⟨i, bus, before ++ ⟨analysis, p⟩ :: after, rs⟩) (p' : Progress)
    (published : List IntegrationEvent)
    (hresult : Account.result? ⟨analysis, p'⟩ = Account.result? ⟨analysis, p⟩)
    (hpublished : ∀ e ∈ published, e.analysis = analysis.id)
    (hsound : Account.Sound settings.recommendationThreshold
      (bus.filterMap (Event.about? analysis.id) ++ published) ⟨analysis, p'⟩) :
    Sound settings
      ⟨i, bus ++ published.map .integration, before ++ ⟨analysis, p'⟩ :: after, rs⟩ := by
  refine h.advance p' published h.integration ?_ hpublished hsound
  rw [List.filterMap_append, List.filterMap_cons, hresult, ← List.filterMap_cons,
    ← List.filterMap_append]
  exact h.recorded

section

variable {i : Integration} {bus : List Event} {before after : List Account}
  {rs : List IntegratedResult} {analysis : Stamp} {discovery : Verdict × LayerStatus}
  {reports : Reports} {result : IntegratedResult}

/-- The layers are over, and nothing is published yet. -/
theorem settle (h : Sound settings ⟨i, bus, before ++ ⟨analysis, .open⟩ :: after, rs⟩)
    (discovery : Verdict × LayerStatus) (hreports : reports.IsOf analysis) :
    Sound settings
      ⟨i, bus, before ++ ⟨analysis, .telling discovery reports reports.events⟩ :: after, rs⟩ := by
  have hopen : bus.filterMap (Event.about? analysis.id) = [] :=
    h.accounts ⟨analysis, .open⟩ (List.mem_append_right _ List.mem_cons_self)
  have hsound : Account.Sound settings.recommendationThreshold
      (bus.filterMap (Event.about? analysis.id) ++ [])
      ⟨analysis, .telling discovery reports reports.events⟩ := by
    rw [hopen]
    exact ⟨hreports, rfl⟩
  have hadvanced := h.advance_of_result?_eq (.telling discovery reports reports.events) [] rfl
    (fun _ he => absurd he List.not_mem_nil) hsound
  rwa [List.map_nil, List.append_nil] at hadvanced

/-- The next of the events that are left is published. -/
theorem tell {e : IntegrationEvent} {left : List IntegrationEvent}
    (h : Sound settings
      ⟨i, bus, before ++ ⟨analysis, .telling discovery reports (e :: left)⟩ :: after, rs⟩) :
    Sound settings ⟨i, bus ++ [.integration e],
      before ++ ⟨analysis, .telling discovery reports left⟩ :: after, rs⟩ := by
  obtain ⟨hreports, hleft⟩ : reports.IsOf analysis ∧
      bus.filterMap (Event.about? analysis.id) ++ e :: left = reports.events :=
    h.accounts _ (List.mem_append_right _ List.mem_cons_self)
  have hmem : e ∈ reports.events := hleft ▸ List.mem_append_right _ List.mem_cons_self
  obtain ⟨layer, reason, rfl⟩ := hreports.of_mem_events hmem
  have hown : ∀ e ∈ [IntegrationEvent.fellBack analysis.id layer reason analysis.time],
      e.analysis = analysis.id := fun e he => by
    rw [List.mem_singleton.mp he]
    rfl
  refine h.advance_of_result?_eq (.telling discovery reports left) _ rfl hown ⟨hreports, ?_⟩
  rw [List.append_assoc]
  exact hleft

/-- The result comes last among those recorded, wherever its account stands. -/
theorem perm_concat
    (h : Sound settings
      ⟨i, bus, before ++ ⟨analysis, .telling discovery reports []⟩ :: after, rs⟩)
    (result : IntegratedResult) :
    (rs ++ [result]).Perm
      ((before ++ ⟨analysis, .recorded result⟩ :: after).filterMap Account.result?) := by
  have hold : rs.Perm (before.filterMap Account.result? ++ after.filterMap Account.result?) := by
    have hrecorded := h.recorded
    rw [List.filterMap_append, List.filterMap_cons_none rfl] at hrecorded
    exact hrecorded
  have hresult : Account.result? ⟨analysis, .recorded result⟩ = some result := rfl
  rw [List.filterMap_append, List.filterMap_cons_some hresult]
  refine (List.perm_append_singleton result rs).trans ?_
  exact (hold.cons result).trans List.perm_middle.symm

/-- The result is recorded when all fallbacks have been told. -/
theorem record
    (h : Sound settings
      ⟨i, bus, before ++ ⟨analysis, .telling discovery reports []⟩ :: after, rs⟩)
    (hresult : result =
      Integration.conclude i.settings.recommendationThreshold analysis discovery reports) :
    Sound settings ⟨i.record result, bus, before ++ ⟨analysis, .recorded result⟩ :: after,
      rs ++ [result]⟩ := by
  obtain ⟨hreports, htold⟩ : reports.IsOf analysis ∧
      bus.filterMap (Event.about? analysis.id) ++ [] = reports.events :=
    h.accounts _ (List.mem_append_right _ List.mem_cons_self)
  have hi : i = Integration.after settings rs := h.integration
  have hthreshold : i.settings.recommendationThreshold = settings.recommendationThreshold := by
    rw [hi, Integration.after_eq]
  have hsound : Account.Sound settings.recommendationThreshold
      (bus.filterMap (Event.about? analysis.id) ++ []) ⟨analysis, .recorded result⟩ :=
    ⟨reports, ⟨hreports, discovery, hthreshold ▸ hresult⟩, htold⟩
  have hnext : i.record result = Integration.after settings (rs ++ [result]) := by
    rw [hi, Integration.after_concat]
  have hadvanced := h.advance _ [] hnext (h.perm_concat result)
    (fun _ he => absurd he List.not_mem_nil) hsound
  rwa [List.map_nil, List.append_nil] at hadvanced

/-- The completion is published last. -/
theorem finish (h : Sound settings ⟨i, bus, before ++ ⟨analysis, .recorded result⟩ :: after, rs⟩) :
    Sound settings ⟨i, bus ++ [.integration (Integration.completion result)],
      before ++ ⟨analysis, .finished result⟩ :: after, rs⟩ := by
  obtain ⟨reports, ⟨hreports, discovery, hresult⟩, htold⟩ : ∃ reports : Reports,
      (reports.IsOf analysis ∧ ∃ discovery, result =
        Integration.conclude settings.recommendationThreshold analysis discovery reports) ∧
        bus.filterMap (Event.about? analysis.id) = reports.events :=
    h.accounts _ (List.mem_append_right _ List.mem_cons_self)
  have hid : result.id = analysis.id := by
    rw [hresult]
    rfl
  have hown : ∀ e ∈ [Integration.completion result], e.analysis = analysis.id := fun e he => by
    rw [List.mem_singleton.mp he]
    exact hid
  refine h.advance_of_result?_eq (.finished result) _ rfl hown
    ⟨reports, ⟨hreports, discovery, hresult⟩, ?_⟩
  rw [htold]

end

theorem step (h : Sound settings b) {b' : Books} (hstep : Step b b') : Sound settings b' := by
  cases hstep with
  | engine _ e => exact h.engine e
  | begin _ analysis hnew => exact h.begin hnew
  | settle i bus before after rs analysis discovery reports hreports =>
    exact h.settle discovery hreports
  | tell => exact h.tell
  | record i bus before after rs analysis discovery reports result hresult =>
    exact h.record hresult
  | finish => exact h.finish

theorem steps (h : Sound settings b) {b' : Books} (hsteps : Steps b b') : Sound settings b' := by
  induction hsteps with
  | refl => exact h
  | tail _ hstep ih => exact ih.step hstep

end Sound

theorem Reachable.sound (h : Reachable settings b) : Sound settings b :=
  (Sound.start settings).steps h

/-! ## Runs -/

theorem steps_engine (b : Books) (events : List EngineEvent) :
    Steps b { b with bus := b.bus ++ events.map .engine } := by
  induction events generalizing b with
  | nil =>
    rw [List.map_nil, List.append_nil]
    exact .refl
  | cons e rest ih =>
    have hrest := ih { b with bus := b.bus ++ [.engine e] }
    rw [List.append_assoc] at hrest
    exact .head (.engine b e) hrest

theorem steps_tell (i : Integration) (bus : List Event) (before after : List Account)
    (recorded : List IntegratedResult) (analysis : Stamp) (discovery : Verdict × LayerStatus)
    (reports : Reports) (left : List IntegrationEvent) :
    Steps ⟨i, bus, before ++ ⟨analysis, .telling discovery reports left⟩ :: after, recorded⟩
      ⟨i, bus ++ left.map .integration,
        before ++ ⟨analysis, .telling discovery reports []⟩ :: after, recorded⟩ := by
  induction left generalizing bus with
  | nil =>
    rw [List.map_nil, List.append_nil]
    exact .refl
  | cons e rest ih =>
    have hrest := ih (bus ++ [.integration e])
    rw [List.append_assoc] at hrest
    exact .head (.tell i bus before after recorded analysis discovery reports e rest) hrest

/-- Integrating an analysis is such a run, in which it begins and finishes while the others rest. -/
theorem steps_integrate (b : Books) (s : Service) (calls : Calls) (circumstances : Circumstances)
    (fragment analysis : Stamp) (code : String) (context : Context)
    (hnew : analysis.id ∉ b.accounts.map (·.analysis.id)) :
    let step := b.integration.integrate s calls circumstances fragment analysis code context
    Steps b ⟨step.integration, b.bus ++ step.events,
      b.accounts ++ [⟨analysis, .finished step.result⟩], b.recorded ++ [step.result]⟩ := by
  intro step
  let bounds : Bounds := ⟨b.integration.settings.timeout, circumstances.cancel⟩
  let evaluation := Integration.evaluate bounds circumstances.evaluation s fragment code context
  let isCancelled := bounds.isCancelledBy
    (Integration.joined bounds (circumstances.evaluation.delay :: calls.durations))
  let commit :=
    Integration.commit isCancelled circumstances.commit s analysis.time evaluation.1
  let reports := Integration.settle bounds calls analysis
  have hreports : reports.IsOf analysis := ⟨_, _, _, _, _, rfl⟩
  have hbus : b.bus ++ step.events = b.bus ++ (evaluation.2 ++ commit.2.2).map .engine ++
      reports.events.map .integration ++ [.integration (Integration.completion step.result)] := by
    show b.bus ++ ((evaluation.2 ++ commit.2.2).map .engine ++
      (reports.events ++ [Integration.completion step.result]).map .integration) = _
    rw [@List.map_append _ _ Event.integration, List.map_singleton]
    simp only [List.append_assoc]
  rw [hbus]
  refine .head (.begin b analysis hnew) ((steps_engine _ (evaluation.2 ++ commit.2.2)).trans ?_)
  refine .head (.settle _ _ b.accounts [] _ analysis commit.2.1 reports hreports) ?_
  refine (steps_tell _ _ b.accounts [] _ analysis commit.2.1 reports reports.events).trans ?_
  exact .tail (.single (.record _ _ b.accounts [] _ analysis commit.2.1 reports step.result rfl))
    (.finish _ _ b.accounts [] _ analysis step.result)

/-- The totals, the history and the events on the bus count the same analyses.  The totals count all
that were recorded, in whatever order they completed, the history holds the latest of them, and an
analysis that is over has published one event for each layer that fell back and then its
completion. -/
theorem bookkeeping_is_exact (settings : IntegrationSettings) (b : Books) (s : Service)
    (h : Reachable settings b) :
    let n := b.recorded.length
    let limit := max settings.historyLimit 1
    let metrics := (b.integration.summary s).metrics
    b.recorded.Perm (b.accounts.filterMap Account.result?) ∧
    b.integration.history = b.recorded.drop (n - min n limit) ∧
    metrics.totalAnalyses = n ∧
    metrics.correlationsFound = (b.recorded.map (·.correlations.length)).sum ∧
    metrics.totalFallbacks = (b.recorded.map (·.layers.fallbacks)).sum ∧
    metrics.averageConfidence = Confidence.average (b.integration.history.map (·.confidence)) ∧
    ∀ a ∈ b.accounts, ∀ result, a.progress = .finished result →
      result ∈ b.recorded ∧ result.id = a.analysis.id ∧
      ∃ told, b.eventsOf result.id = told ++
          [.completed result.id result.confidence result.correlations.length
            result.layers.fallbacks result.time] ∧
        told.length = result.layers.fallbacks ∧
        ∀ e ∈ told, ∃ layer reason, e = .fellBack result.id layer reason result.time := by
  intro n limit metrics
  have hsound := h.sound
  have hi := hsound.integration
  rw [Integration.after_eq] at hi
  refine ⟨hsound.recorded, ?_, ?_, ?_, ?_, rfl, fun a ha result hfinished => ?_⟩
  · have hcount : n - min n limit = n - limit := by omega
    rw [hi, hcount]
    rfl
  · exact congrArg Integration.totalAnalyses hi
  · exact congrArg Integration.correlationsFound hi
  · exact congrArg Integration.totalFallbacks hi
  · have haccount := hsound.accounts a ha
    rw [Account.Sound, hfinished] at haccount
    obtain ⟨reports, ⟨hreports, discovery, hresult⟩, hpublished⟩ := haccount
    have hid : result.id = a.analysis.id := by
      rw [hresult]
      rfl
    have htime : result.time = a.analysis.time := by
      rw [hresult]
      rfl
    have hmem : result ∈ b.accounts.filterMap Account.result? := by
      refine List.mem_filterMap.mpr ⟨a, ha, ?_⟩
      rw [Account.result?, hfinished]
    refine ⟨hsound.recorded.mem_iff.mpr hmem, hid, reports.events,
      (congrArg b.eventsOf hid).trans hpublished, ?_, ?_⟩
    · rw [hresult]
      exact hreports.length_events discovery.2
    · rw [hid, htime]
      exact fun e he => hreports.of_mem_events he

/-- Two analyses that overlap, where the one that began last records last but finishes first, with
room for one result. -/
theorem bookkeeping_is_exact_overlapping :
    let settings := { IntegrationSettings.standard with historyLimit := 0 }
    let service := Service.start (Engine.make EngineSettings.standard) 1
    let x : Stamp := ⟨Uuid.ofNat 1, default⟩
    let y : Stamp := ⟨Uuid.ofNat 2, default⟩
    let clean := Reports.ofOutcomes x (.ok default) (.ok default) (.ok 0.5) (.ok default)
      (.ok default)
    let failing := Reports.ofOutcomes y (.error ⟨"purpose", .cancelled⟩) (.ok default) (.ok 0.5)
      (.ok default) (.ok default)
    let discovery := Integration.committed none
    let first := Integration.conclude settings.recommendationThreshold x discovery clean
    let second := Integration.conclude settings.recommendationThreshold y discovery failing
    ∃ b, Reachable settings b ∧ b.recorded = [first, second] ∧ b.integration.history = [second] ∧
      (b.integration.summary service).metrics.totalAnalyses = 2 ∧
      (b.integration.summary service).metrics.totalFallbacks = 1 ∧
      ∃ told, b.eventsOf second.id = told ++ [Integration.completion second] ∧ told.length = 1 := by
  intro settings service x y clean failing discovery first second
  have hsteps : Steps (start settings)
      ⟨((Integration.start settings).record first).record second,
        failing.events.map .integration ++ [.integration (Integration.completion second),
          .integration (Integration.completion first)],
        [⟨x, .finished first⟩, ⟨y, .finished second⟩], [first, second]⟩ := by
    refine .head (.begin _ x List.not_mem_nil) (.head (.begin _ y (by decide)) ?_)
    refine .head (.settle _ _ [⟨x, .open⟩] [] _ y discovery failing ⟨_, _, _, _, _, rfl⟩) ?_
    refine .head (.settle _ _ [] [_] _ x discovery clean ⟨_, _, _, _, _, rfl⟩) ?_
    refine .head (.record _ _ [] [_] _ x discovery clean first rfl) ?_
    refine .head (.tell _ _ [_] [] _ y discovery failing _ []) ?_
    refine .head (.record _ _ [_] [] _ y discovery failing second rfl) ?_
    exact .head (.finish _ _ [_] [] _ y second) (.single (.finish _ _ [] [_] _ x first))
  obtain ⟨-, hhistory, htotal, -, hfallbacks, -, hfinished⟩ :=
    bookkeeping_is_exact settings _ service hsteps
  obtain ⟨-, -, told, hevents, hlength, -⟩ :=
    hfinished ⟨y, .finished second⟩ (List.mem_cons_of_mem _ List.mem_cons_self) second rfl
  exact ⟨_, hsteps, rfl, hhistory, htotal, hfallbacks, told, hevents, hlength⟩

end Books
end Motif
