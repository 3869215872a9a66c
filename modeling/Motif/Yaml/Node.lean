import Motif.Yaml.Event
import Std.Data.TreeMap

/-!
The nodes of a YAML document.  A document may break off in error.  What was read before that counts
all the same: the collections that are open then stay unfinished.

An alias refers to an anchored node by a number.  A name that is given to a node takes the number of
names known before, so where a name is given again two nodes can have the same number; the one that
starts later is meant then.
-/

namespace Motif
namespace Yaml

inductive Node where
  | scalar (style : Style) (tag : Option String) (text : String)
  | reference (number : Nat)
  | sequence (items : List Node) (isWhole : Bool)
  | mapping (entries : List (Node × Node)) (isWhole : Bool)
  /-- What is missing because the document breaks off. -/
  | cut

namespace Node

def blank : Node := scalar .plain none ""

def isReference : Node → Bool
  | reference _ => true
  | _ => false

end Node

/-- What tells an anchored node from others. -/
structure Anchor where
  number : Nat
  /-- How many anchored nodes start before it. -/
  start : Nat
deriving DecidableEq

/-- The node that each number means, and how many anchored nodes start before it. -/
abbrev Anchored := Std.TreeMap Nat (Nat × Node)

namespace Anchored

def add (nodes : Anchored) (a : Anchor) (node : Node) : Anchored :=
  match nodes[a.number]? with
  | some (start, _) => if a.start < start then nodes else nodes.insert a.number (a.start, node)
  | none => nodes.insert a.number (a.start, node)

/-- The node that an alias with this number stands for. -/
def node? (nodes : Anchored) (number : Nat) : Option Node := nodes[number]?.map (·.2)

end Anchored

/-- A collection that is being read. -/
structure Frame where
  anchor : Option Anchor
  isMapping : Bool
  /-- Its nodes so far, backwards; in a mapping keys and values by turns. -/
  nodes : List Node

namespace Frame

/-- Keys and values.  The last value may be missing. -/
def pairs : List Node → List (Node × Node)
  | [] => []
  | [key] => [(key, .cut)]
  | key :: value :: rest => (key, value) :: pairs rest

def node (f : Frame) (isWhole : Bool) : Node :=
  if f.isMapping then .mapping (pairs f.nodes.reverse) isWhole
  else .sequence f.nodes.reverse isWhole

end Frame

/-- A document that is being put together. -/
structure Builder where
  /-- The collections that are open, the innermost first. -/
  frames : List Frame
  /-- The names of anchors, with their numbers. -/
  names : Std.TreeMap String Nat
  anchored : Anchored
  started : Nat
  root : Option Node

namespace Builder

def empty : Builder := ⟨[], {}, {}, 0, none⟩

/-- Gives a name to the node that starts. -/
def name (b : Builder) : Option String → Option Anchor × Builder
  | none => (none, b)
  | some name =>
    let number := b.names.size
    (some ⟨number, b.started⟩,
      { b with names := b.names.insert name number, started := b.started + 1 })

/-- Puts a node to the others of its collection. -/
def add (b : Builder) (anchor : Option Anchor) (node : Node) : Builder :=
  let b := match anchor with
    | some a => { b with anchored := b.anchored.add a node }
    | none => b
  match b.frames with
  | [] => { b with root := some node }
  | f :: rest => { b with frames := { f with nodes := node :: f.nodes } :: rest }

def openFrame (b : Builder) (anchor : Option String) (isMapping : Bool) : Builder :=
  let (anchor, b) := b.name anchor
  { b with frames := ⟨anchor, isMapping, []⟩ :: b.frames }

def closeFrame (b : Builder) (isWhole : Bool) : Builder :=
  match b.frames with
  | f :: rest => { b with frames := rest }.add f.anchor (f.node isWhole)
  | [] => b

/-- Takes up an event.  An alias to a name that is not known is refused. -/
def step (b : Builder) : Event → Option Builder
  | .scalar anchor tag text style =>
    let (anchor, b) := b.name anchor
    some (b.add anchor (.scalar style tag text))
  | .reference name => b.names[name]?.map fun n => b.add none (.reference n)
  | .sequenceStart anchor => some (b.openFrame anchor false)
  | .mappingStart anchor => some (b.openFrame anchor true)
  | .sequenceEnd => some (b.closeFrame true)
  | .mappingEnd => some (b.closeFrame true)

/-- Takes up events as far as possible, and says whether these were all. -/
def run : Builder → List Event → Builder × Bool
  | b, [] => (b, true)
  | b, e :: rest =>
    match b.step e with
    | some b => run b rest
    | none => (b, false)

/-- Closes what is open, unfinished as it is. -/
def finish (b : Builder) : Builder := b.frames.foldl (fun b _ => b.closeFrame false) b

end Builder

/-- The first document of a stream. -/
structure Tree where
  root : Node
  anchored : Anchored
  closing : Closing

namespace Tree

/-- An empty stream counts as a blank scalar. -/
def ofEvents (e : Events) : Tree :=
  let (b, isKnown) := Builder.empty.run e.events
  let b := b.finish
  let closing := if isKnown then e.closing else .broken
  { root := b.root.getD (if closing = .broken then .cut else .blank)
    anchored := b.anchored
    closing }

def ofText (s : String) : Tree := ofEvents (Events.ofTokens (Tokens.scan (Stream.ofChars s.toList)))

end Tree
end Yaml
end Motif
