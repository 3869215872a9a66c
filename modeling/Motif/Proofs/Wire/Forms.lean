import Motif.Form.Event
import Motif.Form.Integration
import Motif.Form.Manifest
import Motif.Proofs.Wire.Atoms

/-!
The forms of the model's types.  Each is read back from the document that it is written as: records
field by field, and variants behind the tag that names them.
-/

namespace Motif

open Document Document.Fields Json

/-! ## Patterns and fragments -/

theorem Pattern.decodes_toJson (p : Pattern) : Decodes ofJson p.toJson p :=
  Reads.decodes <| reads_pure mk
    |>.required rfl (.text p.name)
    |>.required rfl (.wordSet p.indicators)
    |>.required rfl (.real p.baseConfidence)
    |>.required rfl (.text p.description)

theorem Features.decodes_toJson (f : Features) : Decodes ofJson f.toJson f :=
  Reads.decodes <| reads_pure mk
    |>.required rfl (.bool f.hasDeclarations)
    |>.required rfl (.bool f.hasAsync)
    |>.required rfl (.bool f.hasChaining)
    |>.required rfl (.bool f.hasConditionals)
    |>.required rfl (.bool f.hasLoops)
    |>.required rfl (.word f.lineCount)
    |>.required rfl (.word f.nonBlankLines)
    |>.required rfl (.text f.category)

theorem Fragment.decodes_toJson (f : Fragment) : Decodes ofJson f.toJson f :=
  Reads.decodes <| reads_pure mk
    |>.required rfl (.uuid f.id)
    |>.required rfl (.text f.code)
    |>.required rfl f.features.decodes_toJson
    |>.required rfl (.dictionary f.context)
    |>.required rfl (.real f.confidence)
    |>.required rfl (.time f.time)

/-! ## Results of analyses -/

theorem Match.decodes_toJson (m : Match) : Decodes ofJson m.toJson m :=
  Reads.decodes <| reads_pure mk
    |>.required rfl (.text m.pattern)
    |>.required rfl (.real m.confidence)
    |>.required rfl (.word m.found)
    |>.required rfl (.word m.total)
    |>.required rfl (.strings m.indicators)
    |>.required rfl (.text m.description)

theorem Tier.decodes_inner (t : Tier) : Decodes (innerChoice? options) t.toJson t := fun _ => by
  cases t <;> rfl

theorem Proposal.decodes_inner (p : Proposal) : Decodes ofInnerJson p.toJson p :=
  Reads.decodes <| reads_pure mk
    |>.required rfl (.text p.name)
    |>.required rfl (.text p.description)
    |>.required rfl (.real p.confidence)
    |>.required rfl p.tier.decodes_inner
    |>.required rfl (.strings p.evidence)

theorem Emerging.decodes_toJson (e : Emerging) : Decodes ofJson e.toJson e :=
  Reads.decodes <| reads_pure mk
    |>.required rfl (.text e.name)
    |>.required rfl (.word e.occurrences)
    |>.required rfl (.real e.confidence)

theorem Insights.decodes_toJson (i : Insights) : Decodes ofJson i.toJson i :=
  Reads.decodes <| reads_pure mk
    |>.required rfl (.word i.totalFragments)
    |>.required rfl (.word i.totalAnalyses)
    |>.required rfl (.word i.retainedRecords)
    |>.required rfl (.list fun e _ => e.decodes_toJson)
    |>.required rfl (.real i.averageConfidence)
    |>.required rfl (.real i.reliability)

theorem Outcome.reads (o : Outcome) : (fields Proposal.ofInnerJson).Reads o.toFields o :=
  reads_pure mk
    |>.required rfl o.fragment.decodes_toJson
    |>.required rfl (.list fun m _ => m.decodes_toJson)
    |>.required rfl (.list fun p _ => p.decodes_inner)
    |>.required rfl (.real o.confidence)
    |>.required rfl (.word o.observationCount)
    |>.required rfl o.insights.decodes_toJson

theorem Verdict.decodes_toJson (v : Verdict) : Decodes ofJson v.toJson v := by
  cases v with
  | success o => exact (reads_pure success |>.also o.reads).decodes_tagged rfl rfl
  | failure error reason =>
    have hfields : failureFields.Reads
        ([("error", .str error)] ++ Json.optional "reason" (reason.map .str))
        (failure error reason) :=
      reads_pure failure
        |>.required (by simp) (.text error)
        |>.omitted (by simp) (fun _ => rfl) .text
    exact hfields.decodes_tagged (by simp) rfl

/-! ## Integrated results -/

theorem LayerStatus.decodes_toJson (s : LayerStatus) : Decodes ofJson s.toJson s := by
  cases s with
  | ok => exact (reads_pure ok).decodes_tagged rfl rfl
  | fallback reason =>
    exact (reads_pure fallback |>.required rfl (.text reason)).decodes_tagged rfl rfl

theorem LayerStatuses.decodes_toJson (l : LayerStatuses) : Decodes ofJson l.toJson l :=
  Reads.decodes <| reads_pure mk
    |>.required rfl l.discovery.decodes_toJson
    |>.required rfl l.purpose.decodes_toJson
    |>.required rfl l.anomaly.decodes_toJson
    |>.required rfl l.intuition.decodes_toJson
    |>.required rfl l.prediction.decodes_toJson
    |>.required rfl l.review.decodes_toJson

theorem Correlation.decodes_toJson (c : Correlation) : Decodes ofJson c.toJson c := by
  cases c with
  | alignment purpose pattern sharedToken confidence =>
    exact (reads_pure alignment
      |>.required rfl (.text purpose)
      |>.required rfl (.text pattern)
      |>.required rfl (.text sharedToken)
      |>.required rfl (.real confidence)).decodes_tagged rfl rfl
  | mismatch anomalies message confidence =>
    exact (reads_pure mismatch
      |>.required rfl (.word anomalies)
      |>.required rfl (.text message)
      |>.required rfl (.real confidence)).decodes_tagged rfl rfl
  | validation prediction pattern confidence =>
    exact (reads_pure validation
      |>.required rfl (.text prediction)
      |>.required rfl (.text pattern)
      |>.required rfl (.real confidence)).decodes_tagged rfl rfl

/-! ## Manifests -/

theorem EngineSettings.decodes_toJson (s : EngineSettings) : Decodes decode s.toJson s :=
  Reads.decodes <| reads_pure mk
    |>.defaulted rfl (.word s.minFragmentLength)
    |>.defaulted rfl (.real s.fragmentReinforcement)
    |>.defaulted rfl (.real s.patternReinforcement)
    |>.defaulted rfl (.real s.patternCap)
    |>.defaulted rfl (.real s.candidateCap)
    |>.defaulted rfl (.real s.candidateNudge)
    |>.defaulted rfl (.real s.triggerConfidence)
    |>.defaulted rfl (.real s.confidenceFloor)
    |>.defaulted rfl (.word s.retentionWindow)

theorem IntegrationSettings.decodes_toJson (s : IntegrationSettings) : Decodes decode s.toJson s :=
  Reads.decodes <| reads_pure mk
    |>.defaulted rfl (.word s.historyLimit)
    |>.defaulted rfl (.word s.trendWindow)
    |>.defaulted rfl (.real s.trendEpsilon)
    |>.defaulted rfl (.real s.recommendationThreshold)
    |>.defaulted rfl (.word s.timeout)

theorem Metadata.decodes_toJson (m : Metadata) : Decodes decode m.toJson m :=
  Reads.decodes <| reads_pure mk
    |>.required (by simp) (.text m.name)
    |>.possible (by simp) (fun _ => rfl) .text
    |>.possible (by simp) (fun _ => rfl) .dictionary

theorem Logging.decodes_toJson (l : Logging) : Decodes decode l.toJson l :=
  Reads.decodes <| reads_pure mk
    |>.defaulted rfl (.text l.level)
    |>.defaulted rfl (.text l.format)

theorem Observability.decodes_toJson (o : Observability) : Decodes decode o.toJson o :=
  Reads.decodes <| reads_pure mk
    |>.possible (by simp) (fun _ => rfl) Logging.decodes_toJson

theorem Spec.decodes_toJson (s : Spec) : Decodes decode s.toJson s :=
  Reads.decodes <| reads_pure mk
    |>.defaulted (by simp) s.engine.decodes_toJson
    |>.defaulted (by simp) s.integration.decodes_toJson
    |>.possible (by simp) (fun _ => rfl) Observability.decodes_toJson

theorem Manifest.decodes_toJson (m : Manifest) : Decodes decode m.toJson m :=
  Reads.decodes <| reads_pure mk
    |>.required rfl (.text m.apiVersion)
    |>.required rfl (.text m.kind)
    |>.required rfl m.metadata.decodes_toJson
    |>.defaulted rfl m.spec.decodes_toJson

/-! ## Events -/

theorem EngineEvent.decodes_toJson (e : EngineEvent) : Decodes ofJson e.toJson e := by
  cases e with
  | patternReinforced pattern fragment before after time =>
    exact (reads_pure patternReinforced
      |>.required rfl (.text pattern)
      |>.required rfl (.uuid fragment)
      |>.required rfl (.real before)
      |>.required rfl (.real after)
      |>.required rfl (.time time)).decodes_tagged rfl rfl
  | candidateDiscovered candidate fragment confidence time =>
    exact (reads_pure candidateDiscovered
      |>.required rfl (.text candidate)
      |>.required rfl (.uuid fragment)
      |>.required rfl (.real confidence)
      |>.required rfl (.time time)).decodes_tagged rfl rfl
  | candidateObserved candidate fragment occurrences confidence time =>
    exact (reads_pure candidateObserved
      |>.required rfl (.text candidate)
      |>.required rfl (.uuid fragment)
      |>.required rfl (.word occurrences)
      |>.required rfl (.real confidence)
      |>.required rfl (.time time)).decodes_tagged rfl rfl
  | analysisRecorded fragment matched proposed confidence time =>
    exact (reads_pure analysisRecorded
      |>.required rfl (.uuid fragment)
      |>.required rfl (.word matched)
      |>.required rfl (.word proposed)
      |>.required rfl (.real confidence)
      |>.required rfl (.time time)).decodes_tagged rfl rfl
  | historyTrimmed removed retained time =>
    exact (reads_pure historyTrimmed
      |>.required rfl (.word removed)
      |>.required rfl (.word retained)
      |>.required rfl (.time time)).decodes_tagged rfl rfl
  | fragmentRejected reason time =>
    exact (reads_pure fragmentRejected
      |>.required rfl (.text reason)
      |>.required rfl (.time time)).decodes_tagged rfl rfl

theorem IntegrationEvent.decodes_toJson (e : IntegrationEvent) : Decodes ofJson e.toJson e := by
  cases e with
  | fellBack analysis layer reason time =>
    exact (reads_pure fellBack
      |>.required rfl (.uuid analysis)
      |>.required rfl (.text layer)
      |>.required rfl (.text reason)
      |>.required rfl (.time time)).decodes_tagged rfl rfl
  | completed analysis confidence correlations fallbacks time =>
    exact (reads_pure completed
      |>.required rfl (.uuid analysis)
      |>.required rfl (.real confidence)
      |>.required rfl (.word correlations)
      |>.required rfl (.word fallbacks)
      |>.required rfl (.time time)).decodes_tagged rfl rfl

theorem Event.decodes_toJson (e : Event) : Decodes ofJson e.toJson e := by
  cases e with
  | engine e =>
    exact (reads_pure engine |>.required rfl e.decodes_toJson).decodes_taggedBy rfl rfl
  | integration e =>
    exact (reads_pure integration |>.required rfl e.decodes_toJson).decodes_taggedBy rfl rfl

end Motif
