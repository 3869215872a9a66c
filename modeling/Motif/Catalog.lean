import Motif.Pattern
import Motif.Sequence

/-!
The catalog of known patterns.  Patterns are kept in the order in which they were registered, each
name once, and none is ever removed.  No base confidence lies above the cap.
-/

namespace Motif

structure Catalog where
  patterns : List Pattern
  cap : Float
deriving BEq, Inhabited

namespace Catalog

def empty : Catalog := ⟨[], Pattern.defaultCap⟩

def get? (c : Catalog) (name : String) : Option Pattern := c.patterns.find? (·.name == name)

def size (c : Catalog) : Nat := c.patterns.length

/-- A new pattern.  If its weight lies above the cap, it is made once more out of itself with the cap
for its weight. -/
def adopt (c : Catalog) (p : Provider) : Pattern :=
  let pattern := Pattern.ofProvider p
  if c.cap < pattern.baseConfidence then
    Pattern.ofProvider { pattern.toProvider with weight := c.cap }
  else pattern

/-- Adds a pattern unless its name is taken, and says whether it was added. -/
def register (c : Catalog) (p : Provider) : Catalog × Bool :=
  if (c.get? p.name).isSome then (c, false)
  else ({ c with patterns := c.patterns ++ [c.adopt p] }, true)

def ofProviders (ps : List Provider) : Catalog := ps.foldl (fun c p => (c.register p).1) empty

def seeded : Catalog := ofProviders Pattern.seeds

/-- Sets the cap and lowers every pattern above it. -/
def withCap (c : Catalog) (cap : Float) : Catalog :=
  let cap := Confidence.clamp 0.0 1.0 cap
  { patterns := c.patterns.map (·.limitTo cap), cap }

/-- What one reinforcement did. -/
structure Reinforcement where
  pattern : String
  before : Float
  after : Float
deriving BEq, Inhabited

/-- Raises the base confidence of a pattern, if the catalog has it. -/
def reinforce (c : Catalog) (name : String) (delta : Float) : Catalog × Option Reinforcement :=
  match c.get? name with
  | none => (c, none)
  | some p =>
    ({ c with
        patterns := Sequence.changeFirst (·.name == name) (·.reinforce delta c.cap) c.patterns },
      some ⟨name, p.baseConfidence, (p.reinforce delta c.cap).baseConfidence⟩)

end Catalog
end Motif
