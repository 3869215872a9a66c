import Motif.Manifest.Document
import Motif.Proofs.Wire.Pruned
import Motif.Proofs.Wire.Text

/-!
Manifests of which some fields were left out.  A section or a setting that is not there has its
standard value, and nothing else changes.  Without a version, a kind, metadata or their name there
is no manifest.
-/

namespace Motif

open Document Document.Fields Json

/-! ## Settings with some of them left out -/

namespace EngineSettings

/-- The settings, with the standard value for each that is gone. -/
def reset (gone : List String → Bool) (s : EngineSettings) : EngineSettings :=
  { minFragmentLength :=
      if gone ["min_fragment_length"] then standard.minFragmentLength else s.minFragmentLength
    fragmentReinforcement :=
      if gone ["fragment_reinforcement"] then standard.fragmentReinforcement
      else s.fragmentReinforcement
    patternReinforcement :=
      if gone ["pattern_reinforcement"] then standard.patternReinforcement
      else s.patternReinforcement
    patternCap := if gone ["pattern_confidence_cap"] then standard.patternCap else s.patternCap
    candidateCap :=
      if gone ["candidate_confidence_cap"] then standard.candidateCap else s.candidateCap
    candidateNudge := if gone ["candidate_nudge"] then standard.candidateNudge else s.candidateNudge
    triggerConfidence :=
      if gone ["trigger_confidence"] then standard.triggerConfidence else s.triggerConfidence
    confidenceFloor :=
      if gone ["confidence_floor"] then standard.confidenceFloor else s.confidenceFloor
    retentionWindow :=
      if gone ["retention_window"] then standard.retentionWindow else s.retentionWindow }

theorem means_prune {ν : Type} [Format ν] (gone : List String → Bool) (s : EngineSettings) :
    Means (ν := ν) decode (s.toJson.prune gone) (s.reset gone) [] :=
  Leaves.means_read <| leaves_pure mk
    |>.defaulted rfl (.word s.minFragmentLength)
    |>.defaulted rfl (.real s.fragmentReinforcement)
    |>.defaulted rfl (.real s.patternReinforcement)
    |>.defaulted rfl (.real s.patternCap)
    |>.defaulted rfl (.real s.candidateCap)
    |>.defaulted rfl (.real s.candidateNudge)
    |>.defaulted rfl (.real s.triggerConfidence)
    |>.defaulted rfl (.real s.confidenceFloor)
    |>.defaulted rfl (.word s.retentionWindow)

end EngineSettings

namespace IntegrationSettings

def reset (gone : List String → Bool) (s : IntegrationSettings) : IntegrationSettings :=
  { historyLimit := if gone ["history_limit"] then standard.historyLimit else s.historyLimit
    trendWindow := if gone ["trend_window"] then standard.trendWindow else s.trendWindow
    trendEpsilon := if gone ["trend_epsilon"] then standard.trendEpsilon else s.trendEpsilon
    recommendationThreshold :=
      if gone ["recommendation_threshold"] then standard.recommendationThreshold
      else s.recommendationThreshold
    timeout := if gone ["collaborator_timeout_ms"] then standard.timeout else s.timeout }

theorem means_prune {ν : Type} [Format ν] (gone : List String → Bool) (s : IntegrationSettings) :
    Means (ν := ν) decode (s.toJson.prune gone) (s.reset gone) [] :=
  Leaves.means_read <| leaves_pure mk
    |>.defaulted rfl (.word s.historyLimit)
    |>.defaulted rfl (.word s.trendWindow)
    |>.defaulted rfl (.real s.trendEpsilon)
    |>.defaulted rfl (.real s.recommendationThreshold)
    |>.defaulted rfl (.word s.timeout)

end IntegrationSettings

namespace Logging

def reset (gone : List String → Bool) (l : Logging) : Logging :=
  { level := if gone ["level"] then standard.level else l.level
    format := if gone ["format"] then standard.format else l.format }

theorem means_prune {ν : Type} [Format ν] (gone : List String → Bool) (l : Logging) :
    Means (ν := ν) decode (l.toJson.prune gone) (l.reset gone) [] :=
  Leaves.means_read <| leaves_pure mk
    |>.defaulted rfl (.text l.level)
    |>.defaulted rfl (.text l.format)

end Logging

namespace Observability

def reset (gone : List String → Bool) (o : Observability) : Observability :=
  { logging := o.logging.map (·.reset (beneath "logging" gone)) }

theorem means_prune {ν : Type} [Format ν] {gone : List String → Bool}
    (hkept : gone ["logging"] = false) (o : Observability) :
    Means (ν := ν) decode (o.toJson.prune gone) (o.reset gone) [] :=
  Leaves.means_read <| leaves_pure mk
    |>.possible (by simp) hkept (fun _ => rfl) (Logging.means_prune _)

end Observability

namespace Spec

def reset (gone : List String → Bool) (s : Spec) : Spec :=
  { engine :=
      if gone ["discovery"] then EngineSettings.standard
      else s.engine.reset (beneath "discovery" gone)
    integration :=
      if gone ["bridge"] then IntegrationSettings.standard
      else s.integration.reset (beneath "bridge" gone)
    observability := s.observability.map (·.reset (beneath "observability" gone)) }

theorem means_prune {ν : Type} [Format ν] {gone : List String → Bool}
    (hkept : gone ["observability"] = false) (hkept' : gone ["observability", "logging"] = false)
    (s : Spec) : Means (ν := ν) decode (s.toJson.prune gone) (s.reset gone) [] :=
  Leaves.means_read <| leaves_pure mk
    |>.defaulted (by simp) (s.engine.means_prune _)
    |>.defaulted (by simp) (s.integration.means_prune _)
    |>.possible (by simp) hkept (fun _ => rfl) (Observability.means_prune hkept')

end Spec

/-- Metadata of which at most the name is gone. -/
theorem Metadata.means_prune {ν : Type} [Format ν] {gone : List String → Bool}
    (hkept : ∀ key path, key ≠ "name" → gone (key :: path) = false) (m : Metadata) :
    Means (ν := ν) decode (m.toJson.prune gone) m (if gone ["name"] then ["name"] else []) := by
  have hversion (s : String) :
      Means (ν := ν) text ((Json.str s).prune (beneath "version" gone)) s [] :=
    .text s
  have hlabels (d : Dictionary) : Means (ν := ν) dictionary
      ((Json.ofDictionary d).prune (beneath "labels" gone)) d [] := by
    have hnone : ∀ path, beneath "labels" gone path = false :=
      fun path => hkept "labels" path (by decide)
    rw [prune_of_none hnone]
    exact .dictionary d
  have hread : Means (ν := ν) decode (m.toJson.prune gone)
      ⟨m.name, m.version.map id, m.labels.map id⟩ (if gone ["name"] then ["name"] else []) :=
    Leaves.means_read <| leaves_pure mk
      |>.required (j := .str m.name) (by simp) (.text m.name)
      |>.possible (by simp) (hkept "version" [] (by decide)) (fun _ => rfl) hversion
      |>.possible (by simp) (hkept "labels" [] (by decide)) (fun _ => rfl) hlabels
  rwa [Option.map_id, Option.map_id] at hread

namespace Manifest

/-! ## Manifests with fields left out -/

/-- The fields that may be left out. -/
def optionalPaths : List (List String) :=
  [["spec"], ["spec", "discovery"], ["spec", "bridge"],
    ["spec", "discovery", "min_fragment_length"], ["spec", "discovery", "fragment_reinforcement"],
    ["spec", "discovery", "pattern_reinforcement"],
    ["spec", "discovery", "pattern_confidence_cap"],
    ["spec", "discovery", "candidate_confidence_cap"], ["spec", "discovery", "candidate_nudge"],
    ["spec", "discovery", "trigger_confidence"], ["spec", "discovery", "confidence_floor"],
    ["spec", "discovery", "retention_window"], ["spec", "bridge", "history_limit"],
    ["spec", "bridge", "trend_window"], ["spec", "bridge", "trend_epsilon"],
    ["spec", "bridge", "recommendation_threshold"], ["spec", "bridge", "collaborator_timeout_ms"],
    ["spec", "observability", "logging", "level"], ["spec", "observability", "logging", "format"]]

/-- The fields without which there is no manifest. -/
def requiredPaths : List (List String) :=
  [["apiVersion"], ["kind"], ["metadata"], ["metadata", "name"]]

/-- The manifest, with the standard value for each setting that is gone. -/
def reset (gone : List String → Bool) (m : Manifest) : Manifest :=
  { m with spec := if gone ["spec"] then Spec.standard else m.spec.reset (beneath "spec" gone) }

/-- The manifest comes back, and has standard values where fields are gone, unless one that is
required is.  In that case such a field is named as missing. -/
structure ComesBack (m : Manifest) (gone : List String → Bool) (r : Except Failure Manifest) :
    Prop where
  kept : (∀ path ∈ requiredPaths, gone path = false) → r = .ok (m.reset gone)
  lost : (∃ path ∈ requiredPaths, gone path = true) →
    ∃ f, r = .error f ∧
      ∃ path ∈ requiredPaths, gone path = true ∧ f.cause = .missing (path.getLastD "")

variable {gone : List String → Bool}

/-- The names of the required fields that are gone. -/
def lacking (gone : List String → Bool) : List String :=
  (if gone ["apiVersion"] then ["apiVersion"] else []) ++
    (if gone ["kind"] then ["kind"] else []) ++
    (if gone ["metadata"] then ["metadata"]
      else if gone ["metadata", "name"] then ["name"] else [])

theorem lacking_eq_nil_iff :
    lacking gone = [] ↔ ∀ path ∈ requiredPaths, gone path = false := by
  by_cases hmetadata : gone ["metadata"] = true <;> simp [lacking, requiredPaths, hmetadata]

theorem exists_path_of_mem_lacking {field : String} (h : field ∈ lacking gone) :
    ∃ path ∈ requiredPaths, gone path = true ∧ path.getLastD "" = field := by
  have hnamed {path : List String} (hpath : path ∈ requiredPaths) (hgone : gone path = true)
      (hfield : field ∈ [path.getLastD ""]) :
      ∃ path ∈ requiredPaths, gone path = true ∧ path.getLastD "" = field :=
    ⟨path, hpath, hgone, (List.mem_singleton.mp hfield).symm⟩
  simp only [lacking, List.mem_append, List.mem_ite_nil_right] at h
  rcases h with (⟨hgone, hfield⟩ | ⟨hgone, hfield⟩) | h
  · exact hnamed (by decide) hgone hfield
  · exact hnamed (by decide) hgone hfield
  · split at h
    · next hgone => exact hnamed (by decide) hgone h
    · exact hnamed (by decide) (List.mem_ite_nil_right.mp h).1 (List.mem_ite_nil_right.mp h).2

theorem comesBack_of_settles {m : Manifest} {r : Except Failure Manifest}
    (h : Settles (·.cause) (m.reset gone) (lacking gone) r) : m.ComesBack gone r := by
  generalize hlacking : lacking gone = fields at h
  constructor
  · intro hkept
    obtain rfl : fields = [] := hlacking ▸ lacking_eq_nil_iff.mpr hkept
    cases h with
    | ok => rfl
    | missing hfield => exact absurd hfield List.not_mem_nil
  · rintro ⟨path, hpath, hgone⟩
    cases h with
    | ok => exact absurd hgone (Bool.not_eq_true _ ▸ lacking_eq_nil_iff.mp hlacking path hpath)
    | @missing _ field e hfield hcause =>
      obtain ⟨path, hpath, hgone, rfl⟩ := exists_path_of_mem_lacking (hlacking ▸ hfield)
      exact ⟨e, rfl, path, hpath, hgone, hcause⟩

theorem means_prune {ν : Type} [Format ν]
    (hgone : ∀ path, gone path = true → path ∈ optionalPaths ∨ path ∈ requiredPaths)
    (m : Manifest) : Means (ν := ν) decode (m.toJson.prune gone) (m.reset gone) (lacking gone) := by
  have hkept {path : List String} (h : path ∉ optionalPaths ++ requiredPaths) :
      gone path = false :=
    Bool.eq_false_iff.mpr fun hpath => h (List.mem_append.mpr (hgone path hpath))
  have hmetadata : ∀ key path, key ≠ "name" → beneath "metadata" gone (key :: path) = false :=
    fun key path hkey => hkept (by simp [optionalPaths, requiredPaths, hkey])
  have hobservability : beneath "spec" gone ["observability"] = false := hkept (by decide)
  have hlogging : beneath "spec" gone ["observability", "logging"] = false := hkept (by decide)
  exact Leaves.means_read <| leaves_pure mk
    |>.required rfl (.text m.apiVersion)
    |>.required rfl (.text m.kind)
    |>.required rfl (m.metadata.means_prune hmetadata)
    |>.defaulted rfl (m.spec.means_prune hobservability hlogging)

/-! ## Texts -/

/-- A text that is one YAML document, which shows the value. -/
def Presents (text : String) (v : Json) : Prop :=
  let t := Yaml.Tree.ofText text
  Shows (⟨t.anchored, t.root, false⟩ : Yaml.Value) v ∧ t.closing = .final

instance (text : String) (v : Json) : Decidable (Presents text v) :=
  inferInstanceAs (Decidable (_ ∧ _))

theorem ofYaml_of_presents {text : String} {v : Json} {m : Manifest} {fields : List String}
    (h : Presents text v) (hmeans : Means (ν := Yaml.Value) decode v m fields) :
    ∃ r, Settles (·.cause) m fields r ∧ ofYaml text = r.mapError .content := by
  have hsettles := hmeans _ h.1
  refine ⟨_, hsettles, ?_⟩
  rw [ofYaml, Yaml.read]
  generalize decode (_ : Yaml.Value) = r at hsettles
  cases hsettles with
  | ok => exact if_pos h.2
  | @missing _ _ e _ hcause =>
    have hbroken : e.cause ≠ .broken := by simp [hcause]
    exact congrArg Except.error (if_neg hbroken)

/-- From a manifest any set of optional fields may be taken away: in every format the rest is read
as the manifest with the standard values in their place, and everything else as it was.  If fields
are taken away that are required, one of them is reported as missing.  This holds of JSON texts in
any layout and of all YAML texts that present the rest. -/
theorem partial_manifests_mean_defaults (m : Manifest) (gone : List String → Bool)
    (hm : m.toJson.Writable)
    (hgone : ∀ path, gone path = true → path ∈ optionalPaths ∨ path ∈ requiredPaths) :
    let rest := m.toJson.prune gone
    (∀ (ν : Type) [Format ν] (v : ν), Shows v rest → m.ComesBack gone (decode v)) ∧
    (∀ level, ∃ v, Json.parse? (rest.render level) = some v ∧ m.ComesBack gone (decode v)) ∧
    (∀ text, Presents text rest →
      ∃ r, m.ComesBack gone r ∧ ofYaml text = r.mapError Yaml.Fault.content) ∧
    EngineSettings.standard = ⟨10, 0.1, 0.01, 0.95, 0.7, 0.05, 0.4, 0.1, 1000⟩ ∧
    IntegrationSettings.standard = ⟨100, 10, 0.05, 0.6, 5000⟩ ∧
    Logging.standard = ⟨"info", "compact"⟩ := by
  intro rest
  refine ⟨fun ν _ v hv => comesBack_of_settles (means_prune hgone m v hv), fun level => ?_,
    fun text htext => ?_, rfl, rfl, rfl⟩
  · have hrest : rest.Writable := hm.prune
    exact ⟨rest, Json.parse?_render hrest level,
      comesBack_of_settles (means_prune hgone m rest (shows_self hrest))⟩
  · obtain ⟨r, hsettles, hread⟩ := ofYaml_of_presents htext (means_prune hgone m)
    exact ⟨r, comesBack_of_settles hsettles, hread⟩

/-- A retention window of 50 as the only setting that is left, and a manifest without a name. -/
theorem partial_manifests_mean_defaults_window :
    let s : EngineSettings :=
      { EngineSettings.standard with confidenceFloor := 0.2, retentionWindow := 50 }
    let m : Manifest := { Manifest.standard with spec := { Spec.standard with engine := s } }
    let left : List (List String) :=
      [["spec"], ["spec", "discovery"], ["spec", "discovery", "retention_window"]]
    let text := "apiVersion: archetype.dev/v1\nkind: DiscoveryConfig\nmetadata:\n" ++
      "  name: archetype-engine\n  version: 1.0.0\nspec:\n  discovery:\n    retention_window: 50\n"
    let window : EngineSettings := { EngineSettings.standard with retentionWindow := 50 }
    Yaml.Printer.document (m.toJson.prune (optionalPaths.removeAll left).contains) = text ∧
      m.toJson.Writable ∧
      (∀ path, (optionalPaths.removeAll left).contains path = true →
        path ∈ optionalPaths ∨ path ∈ requiredPaths) ∧
      ofYaml text =
        .ok { Manifest.standard with spec := { Spec.standard with engine := window } } ∧
      ∃ f, decode (m.toJson.prune (· == ["metadata", "name"])) = .error f ∧
        f.cause = .missing "name" := by
  intro s m left text window
  have hengine : s.toJson.Writable := by
    refine .obj ?_
    simp only [List.forall_mem_cons]
    exact ⟨.int (by decide) (by decide), .float (by decide), .float (by decide),
      .float (by decide), .float (by decide), .float (by decide), .float (by decide),
      .float (by decide), .int (by decide) (by decide), nofun⟩
  have hintegration : IntegrationSettings.standard.toJson.Writable := by
    refine .obj ?_
    simp only [IntegrationSettings.standard, List.forall_mem_cons]
    exact ⟨.int (by decide) (by decide), .int (by decide) (by decide), .float (by decide),
      .float (by decide), .int (by decide) (by decide), nofun⟩
  have hm : m.toJson.Writable := by
    refine .obj ?_
    simp only [List.forall_mem_cons]
    refine ⟨.str _, .str _, .obj ?_, .obj ?_, nofun⟩
    · exact List.forall_mem_cons.mpr ⟨.str _, List.forall_mem_cons.mpr ⟨.str _, nofun⟩⟩
    · exact List.forall_mem_cons.mpr ⟨hengine, List.forall_mem_cons.mpr ⟨hintegration, nofun⟩⟩
  have hgone : ∀ path, (optionalPaths.removeAll left).contains path = true →
      path ∈ optionalPaths ∨ path ∈ requiredPaths := fun path hpath =>
    Or.inl (List.mem_of_mem_filter (List.contains_iff_mem.mp hpath))
  have hname : ∀ path, (path == ["metadata", "name"]) = true →
      path ∈ optionalPaths ∨ path ∈ requiredPaths := fun path hpath => by
    rw [eq_of_beq hpath]
    exact Or.inr (by decide)
  refine ⟨by decide +kernel, hm, hgone, ?_, ?_⟩
  · obtain ⟨-, -, htexts, -⟩ := partial_manifests_mean_defaults m _ hm hgone
    obtain ⟨r, hr, hread⟩ := htexts text (by decide +kernel)
    rw [hread, hr.kept (by decide)]
    rfl
  · obtain ⟨hany, -⟩ := partial_manifests_mean_defaults m _ hm hname
    obtain ⟨f, hf, path, -, hgone, hcause⟩ :=
      (hany Json _ (shows_self hm.prune)).lost ⟨["metadata", "name"], by decide, rfl⟩
    rw [eq_of_beq hgone] at hcause
    exact ⟨f, hf, hcause⟩

end Manifest
end Motif
