import Motif.Form.Integration
import Motif.Integration.Run
import Motif.Json.Printer
import Motif.Manifest.Basic
import Motif.Program.Host
import Motif.Program.Path

/-!
A session analyzes files one after the other with one engine, so what is learned from a file counts
for those after it.  A file that cannot be read is counted and passed over.
-/

namespace Motif

/-- What is told about a session while it runs. -/
inductive Notice where
  /-- What comes next. -/
  | heading (title : String)
  | warning (path message : String)
  | verdict (v : Verdict)
  | integrated (r : IntegratedResult)
  | summary (s : Summary) (emerging : List Emerging)
  | integratedSummary (s : IntegratedSummary)

namespace Notice

def isWarning : Notice → Bool
  | warning _ _ => true
  | _ => false

def text : Notice → String
  | heading title => "==> " ++ title
  | warning path message => "⚠ " ++ path ++ ": " ++ message
  | verdict v => v.toJson.pretty
  | integrated r => r.toJson.pretty
  | summary s emerging =>
    (Json.obj [("summary", s.toJson),
      ("emerging_patterns", Json.ofList Emerging.toJson emerging)]).pretty
  | integratedSummary s => s.toJson.pretty

end Notice

structure Session where
  isIntegrated : Bool
  /-- What is attached to every fragment. -/
  extra : List (String × String)
  service : Service
  integration : Integration
  failures : Nat

namespace Session

def start (m : Manifest) (isIntegrated : Bool) (extra : List (String × String)) : Session :=
  { isIntegrated, extra
    service := Service.start (Engine.make m.spec.engine) Service.defaultCapacity
    integration := Integration.start m.spec.integration
    failures := 0 }

/-- The path of a file, its extension if it has one, and what is attached, which wins over both. -/
def context (extra : List (String × String)) (path : String) : Context :=
  let extension := (Path.extension? path).map ("extension", ·)
  Dictionary.ofList ([("path", path)] ++ extension.toList ++ extra)

/-- A file, and two stamps for what becomes of it. -/
structure Input where
  path : String
  content : Except FileFault String
  fragment : Stamp
  analysis : Stamp

/-- Counts a failure unless `isGood`. -/
def count (isGood : Bool) (s : Session) : Session :=
  if isGood then s else { s with failures := s.failures + 1 }

def analyzePlain (s : Session) (input : Input) (code : String) : Session × List Notice :=
  let (service, v, _) := s.service.analyze input.fragment code (context s.extra input.path)
  let warnings := v.error?.toList.map (Notice.warning input.path)
  (count v.isSuccess { s with service }, warnings ++ [.verdict v])

def analyzeIntegrated (s : Session) (input : Input) (code : String) : Session × List Notice :=
  let step := s.integration.integrate s.service (.lexical code) .calm input.fragment input.analysis
    code (context s.extra input.path)
  (count step.result.discovery.isSuccess
    { s with service := step.service, integration := step.integration },
    [.integrated step.result])

/-- Analyzes one file. -/
def analyze (s : Session) (input : Input) : Session × List Notice :=
  match input.content with
  | .error why => (count false s, [.warning input.path why.message])
  | .ok code => if s.isIntegrated then s.analyzeIntegrated input code else s.analyzePlain input code

/-- Analyzes files one after the other. -/
def analyzeAll (s : Session) : List Input → Session × List Notice
  | [] => (s, [])
  | input :: rest =>
    let (s, notices) := s.analyze input
    let (s, more) := s.analyzeAll rest
    (s, .heading input.path :: notices ++ more)

def summary (s : Session) : List Notice :=
  .heading "summary" ::
    if s.isIntegrated then [.integratedSummary (s.integration.summary s.service)]
    else [.summary (s.service.summary?.getD Summary.none) (s.service.emerging?.getD [])]

/-- What is wrong with the session after `total` files. -/
def complaint? (s : Session) (total : Nat) : Option String :=
  if s.failures = 0 then none
  else some (toString s.failures ++ " of " ++ toString total ++ " files could not be analyzed")

end Session
end Motif
