/-!
Reading the arguments of a command line.  A grammar says which switches, operands and subcommands a
command has.  Switches are written with a name behind two dashes or with a letter behind one;
letters may be written together.  A value stands behind an equals sign or is the next argument,
which must not start with a dash then.  Behind two bare dashes everything is an operand.
-/

namespace Motif
namespace Arguments

structure Switch where
  name : String
  letter : Option Char
  /-- Which values it takes, if it takes a value. -/
  accepts : Option (String → Bool)
  isRepeatable : Bool

/-- How many operands a command takes. -/
inductive Operands where
  | none
  | atMostOne
  | atLeastOne
deriving DecidableEq

structure Grammar where
  name : String
  switches : List Switch
  operands : Operands
  subcommands : List Grammar
  needsSubcommand : Bool

/-- What was given to one command. -/
structure Given where
  command : String
  /-- The switches by name, with their values. -/
  switches : List (String × String)
  operands : List String
deriving DecidableEq, Inhabited

/-- Why a command is not run. -/
inductive Stop where
  | misuse
  | help
  /-- The version was asked for, of a command with the given names. -/
  | version (names : List String)
deriving DecidableEq, Inhabited

namespace Given

def start (command : String) : Given := ⟨command, [], []⟩

def has (g : Given) (name : String) : Bool := (g.switches.lookup name).isSome

def values (g : Given) (name : String) : List String :=
  (g.switches.filter (·.1 == name)).map (·.2)

/-- Takes a switch with its value, or with an empty one if it takes none. -/
def take (g : Given) (s : Switch) (value : String) : Except Stop Given :=
  let isAccepted := match s.accepts with
    | some accepts => accepts value
    | none => true
  if isAccepted && (s.isRepeatable || !g.has s.name) then
    .ok { g with switches := g.switches ++ [(s.name, value)] }
  else .error .misuse

/-- Takes an operand.  Empty ones are refused. -/
def operand (g : Given) (operands : Operands) (value : String) : Except Stop Given :=
  let hasRoom := match operands with
    | .none => false
    | .atMostOne => g.operands.isEmpty
    | .atLeastOne => true
  if hasRoom && !value.isEmpty then .ok { g with operands := g.operands ++ [value] }
  else .error .misuse

end Given

/-! ## Single arguments -/

inductive Shape where
  | operand
  | terminator
  | named (name : String) (value : Option String)
  | letters (letters : List Char)

namespace Shape

def of (arg : String) : Shape :=
  match arg.toList with
  | ['-', '-'] => terminator
  | '-' :: '-' :: rest =>
    let name := rest.takeWhile (· != '=')
    let value := match rest.drop name.length with
      | [] => none
      | _ :: value => some (String.ofList value)
    named (String.ofList name) value
  | '-' :: c :: rest => letters (c :: rest)
  | _ => operand

def isOperand : Shape → Bool
  | operand => true
  | _ => false

end Shape

/-- Asks for help or for the version, as every command does that is told to. -/
def stop? (name : String) (path : List String) : Option Stop :=
  if name == "help" then some .help
  else if name == "version" then some (.version path)
  else none

def stopLetter? (letter : Char) (path : List String) : Option Stop :=
  if letter == 'h' then some .help else if letter == 'V' then some (.version path) else none

/-- Takes letters that are written together.  The last one may wait for its value. -/
def takeLetters (switches : List Switch) (path : List String) :
    Given → List Char → Except Stop (Given × Option Switch)
  | given, [] => .ok (given, none)
  | given, c :: rest =>
    match stopLetter? c path, switches.find? (·.letter == some c) with
    | some stop, _ => .error stop
    | none, none => .error .misuse
    | none, some s =>
      if s.accepts.isNone then
        (given.take s "").bind fun given => takeLetters switches path given rest
      else match rest with
        | [] => .ok (given, some s)
        | '=' :: value => (given.take s (String.ofList value)).map (·, none)
        | value => (given.take s (String.ofList value)).map (·, none)

/-- Takes a switch by its name.  It may wait for its value. -/
def takeNamed (switches : List Switch) (path : List String) (given : Given) (name : String)
    (value : Option String) : Except Stop (Given × Option Switch) :=
  match stop? name path, switches.find? (·.name == name) with
  | some stop, _ => .error (if value.isSome then .misuse else stop)
  | none, none => .error .misuse
  | none, some s =>
    match s.accepts, value with
    | some _, some value => (given.take s value).map (·, none)
    | some _, none => .ok (given, some s)
    | none, some _ => .error .misuse
    | none, none => (given.take s "").map (·, none)

/-! ## Command lines -/

/-- Help on a subcommand, which has to exist. -/
def helpOn : Grammar → List String → Stop
  | _, [] => .help
  | g, name :: rest =>
    match g.subcommands.find? (·.name == name) with
    | some sub => helpOn sub rest
    | none =>
      if name == "help" && !g.subcommands.isEmpty && rest.isEmpty then .help else .misuse

def finish (g : Grammar) (given : Given) (outer : List Given) : Except Stop (List Given) :=
  if g.needsSubcommand || (g.operands == .atLeastOne && given.operands.isEmpty) then .error .misuse
  else .ok (given :: outer)

/-- Reads on with the command `g`, inside the commands `outer`.  What was given to the commands is
returned with the innermost first. -/
def readFrom (g : Grammar) (outer : List Given) (given : Given) (isTerminated : Bool) :
    List String → Except Stop (List Given)
  | [] => finish g given outer
  | arg :: rest =>
    let path := ((given :: outer).map (·.command)).reverse
    if isTerminated then
      (given.operand g.operands arg).bind fun given => readFrom g outer given true rest
    else
      match g.subcommands.find? (·.name == arg) with
      | some sub => readFrom sub (given :: outer) (.start sub.name) false rest
      | none =>
        if arg == "help" && !g.subcommands.isEmpty then .error (helpOn g rest)
        else
          let taken : Except Stop (Given × Option Switch) := match Shape.of arg with
            | .terminator => .ok (given, none)
            | .operand => (given.operand g.operands arg).map (·, none)
            | .named name value => takeNamed g.switches path given name value
            | .letters letters => takeLetters g.switches path given letters
          match taken with
          | .error stop => .error stop
          | .ok (given, none) => readFrom g outer given (arg == "--") rest
          | .ok (given, some s) =>
            match rest with
            | [] => .error .misuse
            | value :: rest =>
              if (Shape.of value).isOperand then
                (given.take s value).bind fun given => readFrom g outer given false rest
              else .error .misuse

def read (g : Grammar) (args : List String) : Except Stop (List Given) :=
  readFrom g [] (.start g.name) false args

end Arguments
end Motif
