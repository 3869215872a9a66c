import Motif.Confidence
import Motif.Ordered.WordSet
import Motif.Text.Blank
import Motif.Text.LowerCase

/-!
Known patterns.  A pattern is recognised by its indicators, which are kept trimmed, in lower case
and without blanks among them.  Its base confidence only climbs, in capped steps.
-/

namespace Motif

/-- An entry offered to a catalog. -/
structure Provider where
  name : String
  indicators : List String
  weight : Float
  description : String
deriving BEq, Inhabited

structure Pattern where
  name : String
  indicators : WordSet
  baseConfidence : Float
  description : String
deriving BEq, Inhabited

namespace Pattern

/-- Upper bound of any known pattern's base confidence and of any match confidence. -/
def defaultCap : Float := 0.95

/-- The form in which an indicator is kept. -/
def normalize (indicator : String) : String :=
  String.ofList (Text.lower (Text.trim indicator.toList))

def indicatorSet (indicators : List String) : WordSet :=
  WordSet.ofList ((indicators.map normalize).filter (!·.isEmpty))

def ofProvider (p : Provider) : Pattern :=
  { name := p.name, indicators := indicatorSet p.indicators
    baseConfidence := Confidence.clampUnit p.weight, description := p.description }

/-- A pattern offers itself as it is. -/
def toProvider (p : Pattern) : Provider :=
  { name := p.name, indicators := p.indicators.words, weight := p.baseConfidence
    description := p.description }

/-- Raises the base confidence by `delta`, never past `cap` and never down. -/
def reinforce (p : Pattern) (delta cap : Float) : Pattern :=
  { p with
    baseConfidence := Confidence.greatest p.baseConfidence
      (Confidence.least (Confidence.raised p.baseConfidence delta) cap) }

def limitTo (p : Pattern) (cap : Float) : Pattern :=
  { p with baseConfidence := Confidence.least p.baseConfidence cap }

/-! ## The built-in patterns -/

def seeds : List Provider := [
  { name := "Builder Pattern"
    indicators := ["builder", "build(", "return this", "return self", ".build()"]
    weight := 0.85
    description := "Step-by-step construction through chained setters ending in a build call" },
  { name := "Factory Pattern"
    indicators := ["factory", "create", "switch", "case ", "return new"]
    weight := 0.8
    description := "Centralised object creation selected by a type or kind argument" },
  { name := "Observer Pattern"
    indicators := ["observer", "subscribe", "unsubscribe", "notify", "listener", "emit("]
    weight := 0.8
    description := "Subscribers register interest and are notified of state changes" },
  { name := "Singleton Pattern"
    indicators := ["singleton", "getinstance", "instance", "static "]
    weight := 0.75
    description := "A single shared instance exposed through a static accessor" },
  { name := "Strategy Pattern"
    indicators := ["strategy", "algorithm", "setstrategy", "execute("]
    weight := 0.75
    description := "Interchangeable algorithms selected behind a common interface" },
  { name := "Decorator Pattern"
    indicators := ["decorator", "wrap", "wrapped", "@"]
    weight := 0.7
    description := "Behaviour layered onto an object by wrapping it" },
  { name := "Repository Pattern"
    indicators := ["repository", "findbyid", "findall", "save(", "delete("]
    weight := 0.75
    description := "Collection-like access to persisted aggregates" }]

end Pattern
end Motif
