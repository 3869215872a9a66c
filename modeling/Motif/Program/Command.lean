import Motif.Manifest.Loading
import Motif.Program.Arguments
import Motif.Text.Blank

/-!
The commands of the program, and how they are given on the command line.
-/

namespace Motif

open Arguments

inductive Command where
  /-- No command was given. -/
  | absent
  | analyze (files : List String) (context : List (String × String))
      (isIntegrated withSummary : Bool)
  | describe (withPaths : Bool)
  | validate (file : Option String)
  | generate (path : String) (isForced : Bool)
deriving DecidableEq, Inhabited

/-- A command, and the path of the manifest if one is given. -/
structure Invocation where
  manifest : Option String
  command : Command
deriving DecidableEq, Inhabited

namespace Command

def version : String := "0.3.0-pre-alpha"

/-- A key and a value with an equals sign between.  The key is trimmed and must not be blank. -/
def pair? (s : String) : Option (String × String) :=
  let key := s.toList.takeWhile (· != '=')
  let trimmed := Text.trim key
  match s.toList.drop key.length with
  | [] => none
  | _ :: value =>
    if trimmed.isEmpty then none else some (String.ofList trimmed, String.ofList value)

/-! ## Grammar -/

def flag (name : String) : Switch := ⟨name, none, none, false⟩

def anyText : String → Bool := fun _ => true

def isPath : String → Bool := fun s => !s.isEmpty

/-- Switches of all commands. -/
def common : List Switch :=
  [⟨"config", some 'c', some isPath, false⟩, ⟨"log-level", none, some anyText, false⟩,
    ⟨"log-format", none, some anyText, false⟩]

def analyzeGrammar : Grammar :=
  { name := "analyze"
    switches := common ++ [flag "integrated", flag "summary",
      ⟨"context", none, some fun s => (pair? s).isSome, true⟩]
    operands := .atLeastOne, subcommands := [], needsSubcommand := false }

def configGrammar : Grammar :=
  { name := "config", switches := common, operands := .none, needsSubcommand := true
    subcommands := [
      { name := "show", switches := common ++ [flag "paths"], operands := .none
        subcommands := [], needsSubcommand := false },
      { name := "validate", switches := common, operands := .atMostOne
        subcommands := [], needsSubcommand := false },
      { name := "generate"
        switches := common ++ [flag "force", ⟨"output", some 'o', some isPath, false⟩]
        operands := .none, subcommands := [], needsSubcommand := false }] }

def grammar : Grammar :=
  { name := "archetype", switches := common, operands := .none
    subcommands := [analyzeGrammar, configGrammar], needsSubcommand := false }

/-- What is shown when help is asked for. -/
def help : String :=
  String.intercalate "\n" [
    "Usage: archetype [OPTIONS] [COMMAND]",
    "",
    "Commands:",
    "  analyze <FILE>...         look for known and emerging patterns in source files",
    "      --integrated          run the other analyzers too and join the results",
    "      --context KEY=VALUE   attach a text to every fragment",
    "      --summary             end with a summary",
    "  config show               show the configuration",
    "      --paths               show where it is looked for",
    "  config validate [FILE]    check a configuration",
    "  config generate           write the standard configuration",
    "  -o, --output FILE         where to write it",
    "      --force               replace an existing file",
    "",
    "Options:",
    "  -c, --config FILE         path of the configuration",
    "      --log-level LEVEL     least level of log messages",
    "      --log-format FORMAT   form of log messages",
    "  -h, --help                show this text",
    "  -V, --version             show the version",
    ""]

/-! ## Command lines -/

/-- The command of a command line that fits the grammar, the innermost command first. -/
def ofGiven : List Given → Command
  | g :: _ =>
    match g.command with
    | "analyze" =>
      .analyze g.operands ((g.values "context").filterMap pair?) (g.has "integrated")
        (g.has "summary")
    | "show" => .describe (g.has "paths")
    | "validate" => .validate g.operands.head?
    | "generate" =>
      .generate ((g.values "output").head?.getD Manifest.localPath) (g.has "force")
    | _ => .absent
  | [] => .absent

/-- The path of the manifest: the one given to the innermost command, or else the inherited one.
An empty inherited one is refused unless every command is given a path. -/
def manifestPath (given : List Given) (inherited : Option String) : Except Stop (Option String) :=
  if inherited == some "" && !given.all (·.has "config") then .error .misuse
  else .ok (((given.flatMap (·.values "config")).head?).or inherited)

end Command

namespace Invocation

/-- Reads a command line; `inherited` is the path that the environment gives for the manifest. -/
def ofArguments (args : List String) (inherited : Option String) : Except Stop Invocation := do
  let given ← Arguments.read Command.grammar args
  let manifest ← Command.manifestPath given inherited
  return ⟨manifest, Command.ofGiven given⟩

end Invocation
end Motif
