import Motif.Yaml.Token

/-!
The events of a YAML document: scalars, aliases, and the starts and ends of collections, in the
order of the text.  What is left out counts as an empty scalar.  The tokens are read with a stack of
goals, each of which says what may come next.
-/

namespace Motif
namespace Yaml

inductive Event where
  | scalar (anchor : Option String) (tag : Option String) (text : String) (style : Style)
  | reference (name : String)
  | sequenceStart (anchor : Option String)
  | sequenceEnd
  | mappingStart (anchor : Option String)
  | mappingEnd
deriving DecidableEq

namespace Event

/-- A scalar that is not written. -/
def blank : Event := scalar none none "" .plain

end Event

/-- What is to be read next. -/
inductive Goal where
  /-- A node; whether block collections are allowed, and whether a sequence need not be indented. -/
  | node (inBlock compact : Bool)
  /-- An entry of a block sequence, or its end. -/
  | entry
  /-- An entry of a sequence that is not indented. -/
  | compactEntry
  /-- A key of a block mapping, or its end. -/
  | key
  | value
  /-- An item of a flow sequence, or its end. -/
  | item (isFirst : Bool)
  /-- A key and a value that stand in a flow sequence as a mapping of their own. -/
  | pairKey
  | pairValue
  | pairEnd
  /-- A key of a flow mapping, or its end. -/
  | flowKey (isFirst : Bool)
  | flowValue
  /-- The value of a key that no colon follows. -/
  | noValue
deriving DecidableEq

/-- What stands before the content of a node. -/
structure Properties where
  anchor : Option String
  tag : Option Tag

namespace Properties

/-- An anchor and a tag, in either order. -/
def read : List Token → Properties × List Token
  | .anchor a :: .tag t :: rest => (⟨some a, some t⟩, rest)
  | .tag t :: .anchor a :: rest => (⟨some a, some t⟩, rest)
  | .anchor a :: rest => (⟨some a, none⟩, rest)
  | .tag t :: rest => (⟨none, some t⟩, rest)
  | rest => (⟨none, none⟩, rest)

def isSome (p : Properties) : Bool := p.anchor.isSome || p.tag.isSome

end Properties

/-- What the handles of tags stand for. -/
abbrev Handles := List (String × String)

namespace Handles

def standard : Handles := [("!", "!"), ("!!", "tag:yaml.org,2002:")]

def resolve? (h : Handles) (t : Tag) : Option String :=
  if t.handle.isEmpty then some t.suffix else (h.lookup t.handle).map (· ++ t.suffix)

end Handles

/-- What came of one goal: events, and the goals and tokens that are left. -/
structure Progress where
  events : List Event
  goals : List Goal
  rest : List Token

namespace Goal

def blanked (goals : List Goal) (rest : List Token) : Option Progress :=
  some ⟨[.blank], goals, rest⟩

/-- The tag of a node.  A handle that was not declared is refused. -/
def tag? (h : Handles) (p : Properties) : Option (Option String) :=
  match p.tag with
  | some t => (h.resolve? t).map some
  | none => some none

/-- The tag that leaves the kind of a scalar open. -/
def unspecific : String := "!"

def readNode (h : Handles) (inBlock compact : Bool) (ts : List Token) : Option Progress :=
  match ts with
  | .reference name :: rest => some ⟨[.reference name], [], rest⟩
  | _ =>
    let (p, ts) := Properties.read ts
    match ts, tag? h p with
    | [], _ => none
    | _, none => none
    | t :: rest, some tag =>
      match t with
      | .scalar text style =>
        some ⟨[.scalar p.anchor (tag.filter (· != unspecific)) text style], [], rest⟩
      | .flowSequenceStart => some ⟨[.sequenceStart p.anchor], [item true], rest⟩
      | .flowMappingStart => some ⟨[.mappingStart p.anchor], [flowKey true], rest⟩
      | .blockEntry =>
        if compact then some ⟨[.sequenceStart p.anchor], [compactEntry], ts⟩
        else if p.isSome then some ⟨[.scalar p.anchor tag "" .plain], [], ts⟩
        else none
      | .blockSequenceStart =>
        if inBlock then some ⟨[.sequenceStart p.anchor], [entry], rest⟩
        else if p.isSome then some ⟨[.scalar p.anchor tag "" .plain], [], ts⟩
        else none
      | .blockMappingStart =>
        if inBlock then some ⟨[.mappingStart p.anchor], [key], rest⟩
        else if p.isSome then some ⟨[.scalar p.anchor tag "" .plain], [], ts⟩
        else none
      | _ => if p.isSome then some ⟨[.scalar p.anchor tag "" .plain], [], ts⟩ else none

/-- The node behind an indicator, unless one of the tokens `ends` shows that it is left out. -/
def nodeUnless (ends : List Token) (inBlock compact : Bool) (goals : List Goal) (ts : List Token) :
    Option Progress :=
  match ts with
  | [] => none
  | t :: _ =>
    if ends.contains t then blanked goals ts else some ⟨[], node inBlock compact :: goals, ts⟩

/-- The next item of a flow sequence, its comma being read. -/
def readItem : List Token → Option Progress
  | [] => none
  | .flowSequenceEnd :: rest => some ⟨[.sequenceEnd], [], rest⟩
  | .key :: rest => some ⟨[.mappingStart none], [pairKey, item false], rest⟩
  | ts => some ⟨[], [node false false, item false], ts⟩

/-- The next key of a flow mapping, its comma being read. -/
def readFlowKey : List Token → Option Progress
  | [] => none
  | .flowMappingEnd :: rest => some ⟨[.mappingEnd], [], rest⟩
  | .key :: rest =>
    nodeUnless [.value, .flowEntry, .flowMappingEnd] false false [flowValue, flowKey false] rest
  | ts => some ⟨[], [node false false, noValue, flowKey false], ts⟩

/-- Works towards a goal.  There is no progress where the tokens run out or do not fit. -/
def read (h : Handles) : Goal → List Token → Option Progress
  | node inBlock compact, ts => readNode h inBlock compact ts
  | entry, .blockEntry :: ts => nodeUnless [.blockEntry, .blockEnd] true false [entry] ts
  | entry, .blockEnd :: ts => some ⟨[.sequenceEnd], [], ts⟩
  | entry, _ => none
  | compactEntry, [] => none
  | compactEntry, .blockEntry :: ts =>
    nodeUnless [.blockEntry, .key, .value, .blockEnd] true false [compactEntry] ts
  | compactEntry, ts => some ⟨[.sequenceEnd], [], ts⟩
  | key, .key :: ts => nodeUnless [.key, .value, .blockEnd] true true [value, key] ts
  | key, .blockEnd :: ts => some ⟨[.mappingEnd], [], ts⟩
  | key, _ => none
  | value, [] => none
  | value, .value :: ts => nodeUnless [.key, .value, .blockEnd] true true [] ts
  | value, ts => blanked [] ts
  | item true, ts => readItem ts
  | item false, .flowEntry :: ts => readItem ts
  | item false, .flowSequenceEnd :: ts => some ⟨[.sequenceEnd], [], ts⟩
  | item false, _ => none
  | pairKey, [] => none
  | pairKey, t :: ts =>
    if [Token.value, .flowEntry, .flowSequenceEnd].contains t then blanked [pairValue] ts
    else some ⟨[], [node false false, pairValue], t :: ts⟩
  | pairValue, [] => none
  | pairValue, .value :: ts => nodeUnless [.flowEntry, .flowSequenceEnd] false false [pairEnd] ts
  | pairValue, ts => blanked [pairEnd] ts
  | pairEnd, [] => none
  | pairEnd, ts => some ⟨[.mappingEnd], [], ts⟩
  | flowKey true, ts => readFlowKey ts
  | flowKey false, .flowEntry :: ts => readFlowKey ts
  | flowKey false, .flowMappingEnd :: ts => some ⟨[.mappingEnd], [], ts⟩
  | flowKey false, _ => none
  | flowValue, [] => none
  | flowValue, .value :: ts => nodeUnless [.flowEntry, .flowMappingEnd] false false [] ts
  | flowValue, ts => blanked [] ts
  | noValue, [] => none
  | noValue, ts => blanked [] ts

end Goal

/-- How a document ends. -/
inductive Closing where
  /-- With the stream. -/
  | final
  /-- In error. -/
  | broken
  /-- Something follows it. -/
  | followed
deriving DecidableEq

/-- The events of the first document of a stream. -/
structure Events where
  events : List Event
  closing : Closing

namespace Events

/-- What follows a document: end markers and the end of the stream, or something else. -/
def closingOf : List Token → Closing
  | [] => .broken
  | .documentEnd :: rest => if (closingOf rest) = .final then .final else .followed
  | [.streamEnd] => .final
  | _ => .followed

/-- Works towards all goals.  The events so far are given backwards. -/
def readFrom (h : Handles) : Nat → List Event → List Goal → List Token → Events
  | 0, events, _, _ => ⟨events.reverse, .broken⟩
  | _ + 1, events, [], ts => ⟨events.reverse, closingOf ts⟩
  | fuel + 1, events, g :: goals, ts =>
    match g.read h ts with
    | none => ⟨events.reverse, .broken⟩
    | some p => readFrom h fuel (p.events.reverse ++ events) (p.goals ++ goals) p.rest

def broken : Events := ⟨[], .broken⟩

/-- No token takes more than six goals. -/
def readNode (h : Handles) (ts : List Token) : Events :=
  readFrom h (6 * ts.length + 6) [] [.node true false] ts

/-- The content behind a marker, which may be left out. -/
def readContent (h : Handles) : List Token → Events
  | [] => broken
  | .documentStart :: _ => ⟨[.blank], .followed⟩
  | .directive d :: ts => ⟨[.blank], closingOf (.directive d :: ts)⟩
  | .documentEnd :: ts => ⟨[.blank], closingOf (.documentEnd :: ts)⟩
  | [.streamEnd] => ⟨[.blank], .final⟩
  | ts => readNode h ts

/-- Reads directives.  Each handle and the version may be given once, and only the versions 1.1 and
1.2 are accepted. -/
def readDirectives (h : Handles) (hasVersion : Bool) : List Token → Events
  | .directive (.version major minor) :: rest =>
    if hasVersion || major != 1 || (minor != 1 && minor != 2) then broken
    else readDirectives h true rest
  | .directive (.handle name replacement) :: rest =>
    if (h.lookup name).isSome then broken
    else readDirectives ((name, replacement) :: h) hasVersion rest
  | .documentStart :: rest =>
    readContent (h ++ Handles.standard) rest
  | _ => broken

/-- The first document of a stream.  An empty stream has none. -/
def ofTokens : Tokens → Events
  | ⟨[.streamEnd], _⟩ => ⟨[], .final⟩
  | ⟨.directive d :: ts, _⟩ => readDirectives [] false (.directive d :: ts)
  | ⟨.documentStart :: ts, _⟩ => readDirectives [] false (.documentStart :: ts)
  | ⟨ts, _⟩ => readNode Handles.standard ts

end Events
end Yaml
end Motif
