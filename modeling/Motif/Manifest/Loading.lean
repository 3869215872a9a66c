import Motif.Manifest.Document
import Motif.Manifest.Override
import Motif.Program.Host
import Motif.Program.Path

/-!
Loading the manifest.  A path that is given must lead to a manifest.  Without one, the first of the
usual places that exists counts, and the standard manifest if none does.  Variables of the
environment override what was loaded.
-/

namespace Motif
namespace Manifest

inductive LoadFault where
  | unreadable (why : FileFault)
  | rejected (why : Yaml.Fault)
deriving DecidableEq, Inhabited

def LoadFault.message : LoadFault → String
  | unreadable why => why.message
  | rejected why => why.message

structure LoadFailure where
  /-- The path, if it was given. -/
  path : Option String
  fault : LoadFault
deriving DecidableEq, Inhabited

def LoadFailure.message (f : LoadFailure) : String :=
  match f.path with
  | some path => "Failed to load config at " ++ Path.quoted path ++ ": " ++ f.fault.message
  | none => f.fault.message

/-- The usual place in the working directory. -/
def localPath : String := "./archetype-config.yaml"

/-- The usual places, the first one being that of a variable. -/
def places (given home : Option String) : List String :=
  given.toList ++ [localPath] ++ (home.map (Path.below · ".archetype/config.yaml")).toList ++
    ["/etc/archetype/config.yaml"]

variable {m : Type → Type} [Monad m]

/-- The first of the paths that exists. -/
def firstThere (host : Host m) : List String → m (Option String)
  | [] => return none
  | path :: rest => do
    if ← host.isThere path then return some path else firstThere host rest

def discover (host : Host m) : m (Option String) := do
  let given ← host.lookup pathVariable
  let home ← host.home?
  firstThere host (places given home)

def readFile (host : Host m) (path : String) : m (Except LoadFault Manifest) := do
  match ← host.read path with
  | .error why => return .error (.unreadable why)
  | .ok text => return (ofYaml text).mapError .rejected

/-- Applies the variables of the environment. -/
def overridden (host : Host m) (manifest : Manifest) : m Manifest := do
  let window ← host.lookup windowVariable
  let timeout ← host.lookup timeoutVariable
  let level ← host.lookup levelVariable
  let values := [(windowVariable, window), (timeoutVariable, timeout), (levelVariable, level)]
  return manifest.override fun name => (values.lookup name).join

/-- Loads from a path that is given, or else from a usual place. -/
def load (host : Host m) (given : Option String) : m (Except LoadFailure Manifest) := do
  let found ← match given with
    | some path => pure (some path)
    | none => discover host
  let loaded ← match found with
    | some path => readFile host path
    | none => pure (.ok standard)
  match loaded with
  | .error fault => return .error ⟨given, fault⟩
  | .ok manifest => return .ok (← overridden host manifest)

end Manifest
end Motif
