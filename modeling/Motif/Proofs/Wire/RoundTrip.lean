import Motif.Proofs.Wire.Forms
import Motif.Proofs.Wire.Text

/-!
What is sent is what is received.  A value is written as a document and the document as text; the
text is read back as the document, whatever its layout, and the document as the value.
-/

namespace Motif

open Document

namespace Json

/-- The text of every value that can be written exactly, on one line or indented, is read back as
that value. -/
def RoundTrips {α : Type} (encode : α → Json) (decode : Decoder Json α) : Prop :=
  ∀ a : α, (encode a).Writable →
    ∀ level : Option Nat, (parse? ((encode a).render level)).map decode = some (.ok a)

theorem roundTrips_of_decodes {α : Type} {encode : α → Json} {decode : Decoder Json α}
    (h : ∀ a, Decodes decode (encode a) a) : RoundTrips encode decode := fun a hw level => by
  rw [parse?_render hw level, Option.map_some, h a hw]

end Json

open Json (RoundTrips roundTrips_of_decodes)

theorem wire_format_round_trips :
    RoundTrips Pattern.toJson Pattern.ofJson ∧
    RoundTrips Fragment.toJson Fragment.ofJson ∧
    RoundTrips (Json.ofDictionary : Context → Json) dictionary ∧
    RoundTrips Verdict.toJson Verdict.ofJson ∧
    RoundTrips LayerStatus.toJson LayerStatus.ofJson ∧
    RoundTrips LayerStatuses.toJson LayerStatuses.ofJson ∧
    RoundTrips Correlation.toJson Correlation.ofJson ∧
    RoundTrips Manifest.toJson Manifest.decode ∧
    RoundTrips EngineEvent.toJson EngineEvent.ofJson ∧
    RoundTrips IntegrationEvent.toJson IntegrationEvent.ofJson ∧
    RoundTrips Event.toJson Event.ofJson :=
  ⟨roundTrips_of_decodes Pattern.decodes_toJson,
    roundTrips_of_decodes Fragment.decodes_toJson,
    roundTrips_of_decodes Json.Decodes.dictionary,
    roundTrips_of_decodes Verdict.decodes_toJson,
    roundTrips_of_decodes LayerStatus.decodes_toJson,
    roundTrips_of_decodes LayerStatuses.decodes_toJson,
    roundTrips_of_decodes Correlation.decodes_toJson,
    roundTrips_of_decodes Manifest.decodes_toJson,
    roundTrips_of_decodes EngineEvent.decodes_toJson,
    roundTrips_of_decodes IntegrationEvent.decodes_toJson,
    roundTrips_of_decodes Event.decodes_toJson⟩

/-- An observation whose name has to be escaped, with the greatest count. -/
def observation : EngineEvent :=
  .candidateObserved "a \"name\"\n" Uuid.zero Decimal.word64 0.15 Timestamp.epoch

theorem writable_observation : observation.toJson.Writable := by
  refine .obj (List.forall_mem_cons.mpr ⟨.str _, ?_⟩)
  simp only [observation, List.forall_mem_cons]
  exact ⟨.str _, .str _, .int (by decide) (by decide), .float (by decide), .str _, nofun⟩

theorem wire_format_round_trips_observation :
    observation.toJson.Writable ∧
      (Json.parse? (observation.toJson.render (some 0))).map EngineEvent.ofJson =
        some (.ok observation) :=
  ⟨writable_observation,
    wire_format_round_trips.2.2.2.2.2.2.2.2.1 observation writable_observation (some 0)⟩

end Motif
