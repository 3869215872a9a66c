import Motif.Sequence

/-!
A broadcast channel.  Every receiver gets the events sent after it subscribed, in order and once
each.  The channel buffers a fixed number of the latest events, a power of two; a receiver that fell
further behind is told once how many events it lost and goes on with the oldest that is still
buffered.
-/

namespace Motif

/-- The buffer holds events number `sent - buffer.length` to `sent - 1`, the oldest first. -/
structure Channel (α : Type) where
  capacity : Nat
  sent : Nat
  buffer : List α
  isOpen : Bool
deriving Inhabited

/-- A receiver's place: the number of the event that it gets next. -/
structure Receiver where
  next : Nat
deriving DecidableEq, Inhabited

/-- What asking for an event gives. -/
inductive Delivery (α : Type) where
  | event (a : α)
  | lagged (lost : Nat)
  | empty
  | closed
deriving Inhabited

namespace Channel

variable {α : Type}

/-- The least power of two that is at least `n`. -/
def powerOfTwo (n : Nat) : Nat := if n ≤ 1 then 1 else Nat.pow 2 ((n - 1).log2 + 1)

/-- A channel with room for at least `capacity` events, and at least one. -/
def make (capacity : Nat) : Channel α := ⟨powerOfTwo (max capacity 1), 0, [], true⟩

/-- The number of the oldest event that is buffered. -/
def oldest (c : Channel α) : Nat := c.sent - c.buffer.length

def send (c : Channel α) (a : α) : Channel α :=
  { c with sent := c.sent + 1, buffer := Sequence.latest c.capacity (c.buffer ++ [a]) }

def sendAll (c : Channel α) (as : List α) : Channel α := as.foldl send c

def close (c : Channel α) : Channel α := { c with isOpen := false }

/-- Only events sent from now on are received. -/
def subscribe (c : Channel α) : Receiver := ⟨c.sent⟩

def receive (c : Channel α) (r : Receiver) : Delivery α × Receiver :=
  if r.next < c.oldest then (.lagged (c.oldest - r.next), ⟨c.oldest⟩)
  else
    match c.buffer[r.next - c.oldest]? with
    | some a => (.event a, ⟨r.next + 1⟩)
    | none => (if c.isOpen then .empty else .closed, r)

/-- Receives events until one satisfies `f`, at most `fuel` of them; others are lost. -/
def receiveOnly {β : Type} (c : Channel α) (f : α → Option β) :
    Nat → Receiver → Delivery β × Receiver
  | 0, r => (.empty, r)
  | fuel + 1, r =>
    match c.receive r with
    | (.event a, r) =>
      match f a with
      | some b => (.event b, r)
      | none => receiveOnly c f fuel r
    | (.lagged n, r) => (.lagged n, r)
    | (.empty, r) => (.empty, r)
    | (.closed, r) => (.closed, r)

/-- The first event that satisfies `f`.  There are no more events than the buffer holds. -/
def receiveFirst {β : Type} (c : Channel α) (f : α → Option β) (r : Receiver) :
    Delivery β × Receiver :=
  c.receiveOnly f (c.buffer.length + 1) r

end Channel
end Motif
