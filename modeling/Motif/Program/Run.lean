import Motif.Manifest.Validation
import Motif.Program.Command
import Motif.Program.Session

/-!
Running the program: reads the arguments, loads the manifest, carries out the command, and returns
the exit code.
-/

namespace Motif

/-- Why the program fails. -/
structure Complaint where
  message : String
  cause : Option String
deriving DecidableEq, Inhabited

namespace Complaint

def alone (message : String) : Complaint := ⟨message, none⟩

/-- Indents the lines of a cause. -/
def indented (cause : String) : String :=
  cause.toList.foldl (fun text c => if c == '\n' then text ++ "\n    " else text.push c) "    "

def text (c : Complaint) : String :=
  "Error: " ++ c.message ++ match c.cause with
    | some cause => "\n\nCaused by:\n" ++ indented cause ++ "\n"
    | none => "\n"

def notLoaded (f : Manifest.LoadFailure) : Complaint :=
  ⟨"Failed to load configuration", some f.message⟩

def notValid (f : Manifest.Fault) : Complaint :=
  ⟨"Configuration validation failed", some f.message⟩

def notWritten (path : String) (why : FileFault) : Complaint :=
  ⟨"Failed to write config to " ++ Path.quoted path, some why.message⟩

end Complaint

/-! ## Texts -/

namespace Manifest

/-- What is told about a manifest that is in use. -/
def description (m : Manifest) : List String :=
  let e := m.spec.engine
  let i := m.spec.integration
  let real := Decimal.plain.render
  ["Current configuration:",
    "  Name: " ++ m.metadata.name,
    "  Log level: " ++ m.logLevel,
    "",
    "Discovery:",
    "  Minimum fragment length: " ++ toString e.minFragmentLength,
    "  Reinforcement: fragment " ++ real e.fragmentReinforcement ++ " / pattern " ++
      real e.patternReinforcement ++ " (cap " ++ real e.patternCap ++ ")",
    "  Candidates: cap " ++ real e.candidateCap ++ " / nudge " ++ real e.candidateNudge ++
      " / trigger " ++ real e.triggerConfidence,
    "  Confidence floor: " ++ real e.confidenceFloor,
    "  Retention window: " ++ toString e.retentionWindow,
    "",
    "Bridge:",
    "  History limit: " ++ toString i.historyLimit,
    "  Trend: window " ++ toString i.trendWindow ++ " / epsilon " ++ real i.trendEpsilon,
    "  Recommendation threshold: " ++ real i.recommendationThreshold,
    "  Collaborator timeout: " ++ toString i.timeout ++ " ms"]

/-- Where a manifest is looked for. -/
def searchDescription (given inherited : Option String) : List String :=
  ["Configuration discovery paths:",
    "  1. --config flag: " ++ given.getD "(not set)",
    "  2. " ++ pathVariable ++ ": " ++ inherited.getD "(not set)",
    "  3. ./archetype-config.yaml",
    "  4. ~/.archetype/config.yaml",
    "  5. /etc/archetype/config.yaml",
    ""]

end Manifest

/-! ## Commands -/

namespace Program

variable {m : Type → Type} [Monad m]

def printLine (host : Host m) (line : String) : m Unit := host.print (line ++ "\n")

def printLines (host : Host m) : List String → m Unit
  | [] => return ()
  | line :: rest => do
    printLine host line
    printLines host rest

def tell (host : Host m) : List Notice → m Unit
  | [] => return ()
  | n :: rest => do
    if n.isWarning then host.warn (n.text ++ "\n") else printLine host n.text
    tell host rest

/-- Loads a manifest and has it checked. -/
def loadValid (host : Host m) (path : Option String) : m (Except Complaint Manifest) := do
  match ← Manifest.load host path with
  | .error f => return .error (.notLoaded f)
  | .ok manifest =>
    match manifest.fault? with
    | some f => return .error (.notValid f)
    | none => return .ok manifest

def analyzeFile (host : Host m) (s : Session) (path : String) : m Session := do
  tell host [.heading path]
  let content ← host.read path
  let fragment ← host.stamp
  let analysis ← host.stamp
  let (s, notices) := s.analyze ⟨path, content, fragment, analysis⟩
  tell host notices
  return s

def analyzeFiles (host : Host m) : Session → List String → m Session
  | s, [] => return s
  | s, path :: rest => do
    let s ← analyzeFile host s path
    analyzeFiles host s rest

def analyze (host : Host m) (manifest : Option String) (files : List String)
    (context : List (String × String)) (isIntegrated withSummary : Bool) :
    m (Except Complaint Unit) := do
  match ← loadValid host manifest with
  | .error c => return .error c
  | .ok manifest =>
    let s ← analyzeFiles host (.start manifest isIntegrated context) files
    if withSummary then tell host s.summary
    match s.complaint? files.length with
    | some message => return .error (.alone message)
    | none => return .ok ()

def describe (host : Host m) (path : Option String) (withPaths : Bool) :
    m (Except Complaint Unit) := do
  match ← Manifest.load host path with
  | .error f => return .error (.notLoaded f)
  | .ok manifest =>
    let inherited ← host.lookup Manifest.pathVariable
    if withPaths then printLines host (Manifest.searchDescription path inherited)
    printLines host manifest.description
    return .ok ()

def validate (host : Host m) (path : Option String) : m (Except Complaint Unit) := do
  printLine host "Validating configuration..."
  match ← loadValid host path with
  | .error c => return .error c
  | .ok _ =>
    printLine host "✓ Configuration is valid"
    return .ok ()

def generate (host : Host m) (path : String) (isForced : Bool) : m (Except Complaint Unit) := do
  if (← host.isThere path) && !isForced then
    return .error (.alone (path ++ " already exists (use --force to overwrite)"))
  else
    match ← host.write path Manifest.standard.toYaml with
    | .error why => return .error (.notWritten path why)
    | .ok () =>
      printLine host ("✓ Configuration generated: " ++ path)
      return .ok ()

/-- Carries out a command and returns the exit code. -/
def carryOut (host : Host m) (i : Invocation) : m Nat := do
  let result ← match i.command with
    | .absent =>
      host.warn "No command specified. Use --help for usage.\n"
      return 1
    | .analyze files context isIntegrated withSummary =>
      analyze host i.manifest files context isIntegrated withSummary
    | .describe withPaths => describe host i.manifest withPaths
    | .validate file => validate host (file.or i.manifest)
    | .generate path isForced => generate host path isForced
  match result with
  | .ok () => return 0
  | .error c =>
    host.warn c.text
    return 1

/-- Runs the program with the arguments behind its name. -/
def run (host : Host m) (args : List String) : m Nat := do
  let inherited ← host.lookup Manifest.pathVariable
  match Invocation.ofArguments args inherited with
  | .ok i => carryOut host i
  | .error .misuse =>
    host.warn Command.help
    return 2
  | .error .help =>
    host.print Command.help
    return 0
  | .error (.version names) =>
    printLine host (String.intercalate "-" names ++ " " ++ Command.version)
    return 0

end Program
end Motif
