import Motif.Settings

/-!
The manifest: a versioned document that holds all settings.
-/

namespace Motif

structure Metadata where
  name : String
  version : Option String
  labels : Option Dictionary
deriving BEq, Inhabited

structure Logging where
  level : String
  format : String
deriving BEq, Inhabited

def Logging.standard : Logging := ⟨"info", "compact"⟩

structure Observability where
  logging : Option Logging
deriving BEq, Inhabited

structure Spec where
  engine : EngineSettings
  integration : IntegrationSettings
  observability : Option Observability
deriving BEq, Inhabited

def Spec.standard : Spec := ⟨EngineSettings.standard, IntegrationSettings.standard, none⟩

structure Manifest where
  apiVersion : String
  kind : String
  metadata : Metadata
  spec : Spec
deriving BEq, Inhabited

namespace Manifest

def supportedVersion : String := "archetype.dev/v1"

def supportedKind : String := "DiscoveryConfig"

def standard : Manifest :=
  { apiVersion := supportedVersion, kind := supportedKind
    metadata := ⟨"archetype-engine", some "1.0.0", none⟩, spec := Spec.standard }

def logging? (m : Manifest) : Option Logging := m.spec.observability.bind (·.logging)

def logLevel (m : Manifest) : String := ((m.logging?).map (·.level)).getD "info"

end Manifest
end Motif
