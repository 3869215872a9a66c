import Mathlib.Data.List.Basic
import Motif.Integration.Run

/-!
Events of fallbacks.  For each layer without an answer there is one event, in the order of the
layers and with the reason that the layer's status gives.  The event takes the name of the layer
from the error, which is that of the layer asked unless an analyzer blames another in an error of
its own.
-/

namespace Motif

/-- The layer and the reason, if the event tells of a fallback. -/
def Event.fallback? : Event → Option (String × String)
  | .integration (.fellBack _ layer reason _) => some (layer, reason)
  | .integration (.completed ..) | .engine _ => none

/-- The layer and the reason, if the status is that of a fallback. -/
def LayerStatus.fallen (layer : String) : LayerStatus → List (String × String)
  | ok => []
  | fallback reason => [(layer, reason)]

/-- The layers of the analyzers that fell back, each with its reason. -/
def LayerStatuses.fallen (l : LayerStatuses) : List (String × String) :=
  l.purpose.fallen "purpose" ++ l.anomaly.fallen "anomaly" ++ l.intuition.fallen "intuition" ++
    l.prediction.fallen "prediction" ++ l.review.fallen "holistic"

/-! ## Errors of layers -/

/-- A layer together with the error that it got instead of an answer. -/
structure Setback where
  layer : String
  error : LayerError

namespace Setback

def named (t : Setback) : String × String := (t.layer, t.error.message)

def blamed (t : Setback) : String × String := (t.error.layer, t.error.message)

end Setback

section

variable {α : Type} (b : Bounds) (layer : String) (call : Call α)

def Bounds.setbacks : List Setback :=
  match b.outcome layer call with
  | .ok _ => []
  | .error e => [⟨layer, e⟩]

/-- An error of the call's own, if it comes through, blames no other layer. -/
def Call.BlamesOnly : Prop :=
  b.isCancelledBy (b.endOf call.duration) = false → call.duration < b.limit →
    ∀ e, call.ending = .erred e → e.layer = layer

variable {b layer call}

theorem Bounds.forall_setbacks_iff :
    (∀ t ∈ b.setbacks layer call, t.error.layer = t.layer) ↔ call.BlamesOnly b layer := by
  rw [setbacks, outcome, Call.BlamesOnly]
  by_cases hcancelled : b.isCancelledBy (b.endOf call.duration) = true
  · simp [hcancelled]
  · rw [if_neg hcancelled]
    by_cases hlate : b.limit ≤ call.duration
    · have hnot : ¬call.duration < b.limit := Nat.not_lt.mpr hlate
      simp [hlate, hnot]
    · rw [if_neg hlate]
      have hintime : call.duration < b.limit := Nat.lt_of_not_le hlate
      cases hending : call.ending with
      | answered a => simp [Ending.toExcept]
      | panicked payload => simp [Ending.toExcept]
      | erred e => simp [Ending.toExcept, hcancelled, hintime]

/-- What a layer with a setback tells, and what its status says. -/
theorem Settled.tells_setbacks (analysis : Stamp) (fallback : α) :
    let settled := Settled.ofOutcome analysis fallback (b.outcome layer call)
    (settled.events.map Event.integration).filterMap Event.fallback? =
        (b.setbacks layer call).map Setback.blamed ∧
      settled.status.fallen layer = (b.setbacks layer call).map Setback.named := by
  rw [Bounds.setbacks]
  cases b.outcome layer call with
  | ok a => exact ⟨rfl, rfl⟩
  | error e => exact ⟨rfl, rfl⟩

end

namespace Calls

/-- The setbacks of all layers, in their order. -/
def setbacks (b : Bounds) (c : Calls) : List Setback :=
  b.setbacks "purpose" c.purpose ++ b.setbacks "anomaly" c.anomalies ++
    b.setbacks "intuition" c.intuition ++ b.setbacks "prediction" c.prediction ++
    b.setbacks "holistic" c.review

/-- No analyzer blames another layer in an error of its own. -/
structure BlameOnlyThemselves (b : Bounds) (c : Calls) : Prop where
  purpose : c.purpose.BlamesOnly b "purpose"
  anomalies : c.anomalies.BlamesOnly b "anomaly"
  intuition : c.intuition.BlamesOnly b "intuition"
  prediction : c.prediction.BlamesOnly b "prediction"
  review : c.review.BlamesOnly b "holistic"

variable {b : Bounds} {c : Calls}

theorem forall_setbacks_iff :
    (∀ t ∈ c.setbacks b, t.error.layer = t.layer) ↔ c.BlameOnlyThemselves b := by
  simp only [setbacks, List.forall_mem_append, Bounds.forall_setbacks_iff]
  constructor
  · rintro ⟨⟨⟨⟨h1, h2⟩, h3⟩, h4⟩, h5⟩
    exact ⟨h1, h2, h3, h4, h5⟩
  · rintro ⟨h1, h2, h3, h4, h5⟩
    exact ⟨⟨⟨⟨h1, h2⟩, h3⟩, h4⟩, h5⟩

end Calls

/-! ## One integrated analysis -/

namespace Integration

section

variable (i : Integration) (s : Service) (calls : Calls) (circumstances : Circumstances)
  (fragment analysis : Stamp) (code : String) (context : Context)

/-- The events of the engine and that of the completion tell of no fallback. -/
theorem filterMap_fallback?_integrate :
    (i.integrate s calls circumstances fragment analysis code context).events.filterMap
        Event.fallback? =
      (calls.setbacks ⟨i.settings.timeout, circumstances.cancel⟩).map Setback.blamed := by
  have hengine (told : List EngineEvent) : (told.map Event.engine).filterMap Event.fallback? = [] := by
    simp [Event.fallback?]
  have hcompletion (r : IntegratedResult) :
      [Event.integration (completion r)].filterMap Event.fallback? = [] := rfl
  rw [integrate]
  simp only [List.filterMap_append, List.map_append, List.map_cons, List.map_nil, hengine,
    hcompletion, Reports.events, settle, Reports.ofOutcomes, (Settled.tells_setbacks analysis _).1]
  simp only [Calls.setbacks, List.map_append, List.nil_append, List.append_nil]

theorem fallen_integrate :
    (i.integrate s calls circumstances fragment analysis code context).result.layers.fallen =
      (calls.setbacks ⟨i.settings.timeout, circumstances.cancel⟩).map Setback.named := by
  simp only [integrate, conclude, Reports.layers, LayerStatuses.fallen, settle, Reports.ofOutcomes,
    (Settled.tells_setbacks analysis _).2, Calls.setbacks, List.map_append]

/-- The events of an integrated analysis that tell of fallbacks are one for each layer of an
analyzer that fell back, in the order of the layers and with the reasons that the statuses give.
They name these layers if and only if no analyzer blames another layer in an error that comes
through; the errors of calls that are late, cancelled or in a panic never do. -/
theorem fallback_events_name_blamed_layers :
    let b : Bounds := ⟨i.settings.timeout, circumstances.cancel⟩
    let step := i.integrate s calls circumstances fragment analysis code context
    let told := step.events.filterMap Event.fallback?
    told.map (·.2) = step.result.layers.fallen.map (·.2) ∧
      (told = step.result.layers.fallen ↔ calls.BlameOnlyThemselves b) := by
  intro b step told
  have htold : told = (calls.setbacks b).map Setback.blamed :=
    filterMap_fallback?_integrate i s calls circumstances fragment analysis code context
  have hfallen : step.result.layers.fallen = (calls.setbacks b).map Setback.named :=
    fallen_integrate i s calls circumstances fragment analysis code context
  rw [htold, hfallen]
  constructor
  · rw [List.map_map, List.map_map]
    rfl
  · rw [List.map_inj_left, ← Calls.forall_setbacks_iff]
    refine forall₂_congr fun t _ => ?_
    simp [Setback.blamed, Setback.named]

end

/-- An analyzer that answers for two layers and signs the error of one with the name of the other:
the event names a layer that did not fall back, and none names the one that did. -/
theorem borrowed_name_misleads :
    let calls : Calls :=
      { Calls.lexical "let x = 1;" with intuition := ⟨0, .erred ⟨"anomaly", .failed "down"⟩⟩ }
    let step := (start .standard).integrate
      (Service.start (Engine.make .standard) Service.defaultCapacity) calls .calm default default
      "let x = 1;" default
    step.events.filterMap Event.fallback? = [("anomaly", "anomaly analyzer failed: down")] ∧
      step.result.layers.fallen = [("intuition", "anomaly analyzer failed: down")] := by
  intro calls step
  rw [filterMap_fallback?_integrate, fallen_integrate]
  decide +kernel

end Integration
end Motif
