import Motif.Channel
import Motif.Event

/-!
The feed of events.  A subscriber sees either all events or only the engine's events about one
fragment; other events that come before such an event are passed over.
-/

namespace Motif

abbrev Feed := Channel Event

/-- Why a subscriber gets no event. -/
inductive FeedError where
  | closed
  | empty
  | lagged (lost : Nat)
deriving DecidableEq, Inhabited

def FeedError.message : FeedError → String
  | .closed => "Event bus is closed"
  | .empty => "No events available"
  | .lagged lost => "Receiver lagged by " ++ toString lost ++ " events (events were dropped)"

def Delivery.toExcept {α : Type} : Delivery α → Except FeedError α
  | event a => .ok a
  | lagged lost => .error (.lagged lost)
  | empty => .error .empty
  | closed => .error .closed

namespace Event

/-- The engine's event, if it is about the fragment. -/
def about (fragment : Uuid) : Event → Option EngineEvent
  | engine e => if e.fragment? = some fragment then some e else none
  | integration _ => none

end Event

namespace Feed

def defaultCapacity : Nat := 1000

def standard : Feed := Channel.make defaultCapacity

/-- The next event about the fragment. -/
def receiveAbout (feed : Feed) (fragment : Uuid) (r : Receiver) : Delivery EngineEvent × Receiver :=
  feed.receiveFirst (Event.about fragment) r

end Feed
end Motif
