import Motif.Novelty.Basic

/-!
The built-in rules.  Each has trigger words and a structural check made of regular expressions.
-/

namespace Motif
namespace Rule

open Regex

/-! ## Fluent builder -/

def selfReturn : Regex :=
  either (literal "return" ++ someBlanks ++ oneOf ["this", "self"] ++ wordEdge)
    (either (literal "=>" ++ blanks ++ literal "this" ++ wordEdge)
      (literal "->" ++ blanks ++ literal "Self" ++ wordEdge))

def finalizer : Regex :=
  char '.' ++ oneOf ["build", "run", "execute", "collect", "done", "finish"] ++ call ++ blanks ++
    char ')'

def fluentBuilder (v : View) : Option (List String) :=
  let chained := Features.chained.count v.code
  if selfReturn.occursIn v.code ∧ 2 ≤ chained then
    (finalizer.find? v.code).map fun m =>
      ["self-returning method", toString chained ++ " chained calls",
        "finalizing call " ++ String.ofList m.text]
  else none

/-! ## Switch factory -/

def dispatch : Regex := word ["switch", "match"]

def arm : Regex := either (word ["case"]) (literal "=>")

def instantiation : Regex :=
  let capital := one Text.isAsciiUpper ++ wordChars
  either (wordEdge ++ literal "new" ++ someBlanks ++ capital ++ call)
    (wordEdge ++ capital ++ literal "::new" ++ call)

/-- Arms and instantiations are counted in the text from the dispatch on, taken as a text of its
own. -/
def switchFactory (v : View) : Option (List String) :=
  (dispatch.find? v.code).bind fun m =>
    let tail := m.text ++ m.after
    let arms := arm.count tail
    let instantiations := instantiation.count tail
    if 2 ≤ arms ∧ 2 ≤ instantiations then
      some [String.ofList m.text ++ " dispatch", toString arms ++ " arms",
        toString instantiations ++ " instantiating arms"]
    else none

/-! ## Object pool -/

def eitherCaseOf : List String → Regex
  | [] => one fun _ => false
  | [s] => literalEitherCase s
  | s :: rest => either (literalEitherCase s) (eitherCaseOf rest)

def acquire : Regex :=
  wordEdge ++ eitherCaseOf ["acquire", "checkout", "obtain"] ++ wordChars ++ call

def release : Regex :=
  wordEdge ++ eitherCaseOf ["release", "checkin", "recycle"] ++ wordChars ++ call

def reuse : Regex :=
  char '.' ++ oneOf ["pop", "push", "shift", "unshift", "pop_front", "push_back", "pop_back"] ++
    call

/-- The text of a call without its opening parenthesis. -/
def callee (s : List Char) : List Char := (s.reverse.dropWhile (· == '(')).reverse

def objectPool (v : View) : Option (List String) :=
  match acquire.find? v.code, release.find? v.code, reuse.find? v.code with
  | some a, some r, some u =>
    some ["acquire via " ++ String.ofList (Text.trim (callee a.text)),
      "release via " ++ String.ofList (Text.trim (callee r.text)),
      "reuse via " ++ String.ofList (callee u.text)]
  | _, _, _ => none

/-! ## Middleware chain -/

def nextParameter : Regex :=
  char '(' ++ many (noneOf ['(', ')']) ++ wordEdge ++ literal "next" ++ blanks ++ char ')'

def nextCall : Regex := wordEdge ++ literal "next" ++ call

def registration : Regex := literal ".use" ++ call

def middlewareChain (v : View) : Option (List String) :=
  if nextParameter.occursIn v.code ∧ nextCall.occursIn v.code ∧ registration.occursIn v.code then
    some ["handler receives next", "next() invoked", ".use() registration"]
  else none

/-! ## Memoization -/

def cache : Regex := oneOf ["cache", "memo"] ++ wordChars ++ char '.'

def lookup : Regex := cache ++ oneOf ["has", "get", "contains_key", "containskey"] ++ call

def store : Regex := cache ++ oneOf ["set", "insert", "put"] ++ call

def returning : Regex := word ["return"]

def memoization (v : View) : Option (List String) :=
  if lookup.occursIn v.lowered ∧ store.occursIn v.lowered ∧ returning.occursIn v.lowered then
    some ["cache lookup", "cache store", "cached return"]
  else none

/-! ## The table -/

def builtIn : List Rule := [
  { name := "Fluent Builder"
    description := "Chained self-returning calls closed by a finalizing call"
    triggers := ["=> this", "return this", "return self", ".build()", ".run()", "chain", "fluent"]
    threshold := 2, strength := 0.65, check := fluentBuilder },
  { name := "Switch Factory"
    description := "Type dispatch whose arms each construct a different implementation"
    triggers := ["switch", "match ", "case ", "::new(", "new ", "kind"]
    threshold := 3, strength := 0.6, check := switchFactory },
  { name := "Object Pool"
    description := "Instances handed out and returned for reuse instead of being recreated"
    triggers := ["pool", "acquire", "release", "idle", "reuse", "checkout"]
    threshold := 2, strength := 0.6, check := objectPool },
  { name := "Middleware Chain"
    description := "Handlers registered in order, each deciding whether to call the next"
    triggers := ["middleware", "next(", ".use(", "pipeline", "handler"]
    threshold := 2, strength := 0.55, check := middlewareChain },
  { name := "Memoization"
    description := "Results cached by input and returned on repeat calls"
    triggers := ["memo", "cache", ".has(", ".get(", ".set(", "contains_key", ".insert("]
    threshold := 3, strength := 0.55, check := memoization }]

end Rule

def Detector.builtIn : Detector := Detector.make (Rule.builtIn.map (·.toHeuristic))

end Motif
