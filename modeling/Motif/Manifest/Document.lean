import Motif.Form.Manifest
import Motif.Yaml.Decode
import Motif.Yaml.Printer

/-!
Manifests as YAML documents.
-/

namespace Motif
namespace Manifest

def ofYaml (s : String) : Except Yaml.Fault Manifest := Yaml.read decode s

def toYaml (m : Manifest) : String := Yaml.Printer.document m.toJson

end Manifest
end Motif
