import Motif.Decimal.Numeral
import Motif.Manifest.Basic
import Motif.Text.Blank

/-!
Settings taken from variables of the environment.  A number that cannot be read is ignored.
-/

namespace Motif
namespace Manifest

def windowVariable : String := "ARCHETYPE_RETENTION_WINDOW"

def timeoutVariable : String := "ARCHETYPE_COLLABORATOR_TIMEOUT_MS"

def levelVariable : String := "ARCHETYPE_LOG_LEVEL"

def pathVariable : String := "ARCHETYPE_CONFIG_PATH"

/-- A number of 64 bits between white space. -/
def number? (s : String) : Option Nat := Decimal.word64? (Text.trim s.toList)

def withWindow (m : Manifest) (window : Nat) : Manifest :=
  { m with spec := { m.spec with engine := { m.spec.engine with retentionWindow := window } } }

def withTimeout (m : Manifest) (timeout : Nat) : Manifest :=
  { m with spec := { m.spec with integration := { m.spec.integration with timeout } } }

def withLevel (m : Manifest) (level : String) : Manifest :=
  let logging := { m.logging?.getD Logging.standard with level }
  { m with spec := { m.spec with observability := some ⟨some logging⟩ } }

def override (lookup : String → Option String) (m : Manifest) : Manifest :=
  let m := match (lookup windowVariable).bind number? with
    | some window => m.withWindow window
    | none => m
  let m := match (lookup timeoutVariable).bind number? with
    | some timeout => m.withTimeout timeout
    | none => m
  match lookup levelVariable with
  | some level => m.withLevel level
  | none => m

end Manifest
end Motif
