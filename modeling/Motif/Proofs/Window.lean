import Mathlib.Data.List.Induction
import Mathlib.Data.List.Range
import Motif.Channel

/-!
A channel as a window on all that was sent.  A receiver's place is a number in the list of events
that were ever sent, and the buffer is the end of that list.  What a call gives, and where it leaves
the receiver, is told here in terms of the list alone.
-/

namespace Motif

namespace Delivery

variable {α : Type}

def event? : Delivery α → Option α
  | event a => some a
  | lagged _ | empty | closed => none

/-- How many events the delivery reports as lost. -/
def lost : Delivery α → Nat
  | lagged n => n
  | event _ | empty | closed => 0

end Delivery

namespace Channel

variable {α β : Type}

theorem powerOfTwo_pos (n : Nat) : 0 < powerOfTwo n := by
  rw [powerOfTwo]
  split
  · exact Nat.one_pos
  · exact Nat.two_pow_pos _

theorem isOpen_sendAll (c : Channel α) (as : List α) : (c.sendAll as).isOpen = c.isOpen := by
  induction as generalizing c with
  | nil => rfl
  | cons a rest ih => exact ih (c.send a)

/-- The channel has sent these events, and buffers the latest of them. -/
structure Holds (c : Channel α) (events : List α) : Prop where
  capacity : 0 < c.capacity
  sent : c.sent = events.length
  buffer : c.buffer = Sequence.latest c.capacity events

variable {c : Channel α} {events : List α}

theorem holds_make (capacity : Nat) : (make capacity : Channel α).Holds [] :=
  ⟨powerOfTwo_pos _, rfl, List.drop_nil.symm⟩

namespace Holds

theorem send (h : c.Holds events) (a : α) : (c.send a).Holds (events ++ [a]) where
  capacity := h.capacity
  sent := by
    rw [List.length_append, List.length_singleton, ← h.sent]
    rfl
  buffer := by
    show Sequence.latest c.capacity (c.buffer ++ [a]) = _
    rw [h.buffer, Sequence.latest_latest_append]
    rfl

theorem sendAll (h : c.Holds events) (as : List α) : (c.sendAll as).Holds (events ++ as) := by
  induction as generalizing c events with
  | nil =>
    rw [List.append_nil]
    exact h
  | cons a rest ih =>
    rw [List.append_cons]
    exact ih (h.send a)

theorem close (h : c.Holds events) : c.close.Holds events := ⟨h.capacity, h.sent, h.buffer⟩

theorem oldest (h : c.Holds events) : c.oldest = events.length - c.capacity := by
  rw [Channel.oldest, h.sent, h.buffer, Sequence.length_latest]
  omega

/-- What is buffered is found where it was sent. -/
theorem getElem?_buffer (h : c.Holds events) {k : Nat} (hk : c.oldest ≤ k) :
    c.buffer[k - c.oldest]? = events[k]? := by
  rw [h.oldest] at hk
  rw [h.oldest, h.buffer, Sequence.latest, List.getElem?_drop]
  congr 1
  omega

/-- All that asking for an event can come to.  A receiver that is more than the capacity behind has
lost what it is behind the capacity; another gets the event at its place, if there is one yet. -/
theorem receive_cases (h : c.Holds events) {r : Receiver} (hr : r.next ≤ events.length) :
    (∃ n, 0 < n ∧ r.next + n + c.capacity = events.length ∧
      c.receive r = (.lagged n, ⟨r.next + n⟩)) ∨
    (∃ a, c.oldest ≤ r.next ∧ events[r.next]? = some a ∧
      c.receive r = (.event a, ⟨r.next + 1⟩)) ∨
    (r.next = events.length ∧ c.receive r = (if c.isOpen then .empty else .closed, r)) := by
  rw [receive]
  by_cases hlag : r.next < c.oldest
  · rw [if_pos hlag]
    rw [h.oldest] at hlag ⊢
    refine Or.inl ⟨events.length - c.capacity - r.next, by omega, by omega, ?_⟩
    rw [Nat.add_sub_of_le hlag.le]
  · rw [if_neg hlag, h.getElem?_buffer (Nat.le_of_not_lt hlag)]
    cases hevent : events[r.next]? with
    | some a => exact Or.inr (Or.inl ⟨a, Nat.le_of_not_lt hlag, rfl, rfl⟩)
    | none => exact Or.inr (Or.inr ⟨Nat.le_antisymm hr (List.getElem?_eq_none_iff.mp hevent), rfl⟩)

end Holds

/-! ## A call that passes events over -/

/-- What `f` makes of event number `k`. -/
def wanted (events : List α) (f : α → Option β) (k : Nat) : Option β := events[k]?.bind f

theorem wanted_congr {events' : List α} {k k' : Nat} (h : events[k]? = events'[k']?)
    (f : α → Option β) : wanted events f k = wanted events' f k' := by
  rw [wanted, wanted, h]

/-- Going through all numbers is going through all events. -/
theorem filterMap_wanted_range (events : List α) (f : α → Option β) :
    (List.range events.length).filterMap (wanted events f) = events.filterMap f := by
  induction events using List.reverseRecOn with
  | nil => rfl
  | append_singleton events a ih =>
    have hlast : wanted (events ++ [a]) f events.length = f a := by
      rw [wanted, List.getElem?_concat_length, Option.bind_some]
    rw [List.length_append, List.length_singleton, List.range_succ, List.filterMap_append,
      List.filterMap_append, ← ih]
    congr 1
    · refine List.filterMap_congr fun k hk => wanted_congr ?_ f
      exact List.getElem?_append_left (List.mem_range.mp hk)
    · rw [List.filterMap_cons, List.filterMap_cons, hlast]
      rfl

/-- Why a call of at most so many rounds came to an end.  If nothing is left it waits, or is told
that the channel is closed; it gives up only when all of its rounds went to other events. -/
def Ends (c : Channel α) (events : List α) (rounds start : Nat) : Delivery β → Nat → Prop
  | .event _, _ => True
  | .lagged n, stop => 0 < n ∧ stop + c.capacity = events.length
  | .empty, stop =>
    stop = events.length ∧ c.isOpen = true ∨
      stop = start + rounds ∧ (0 < rounds → c.oldest ≤ start)
  | .closed, stop => stop = events.length ∧ c.isOpen = false

/-- What a call gives that takes a receiver from one place to another.  The events it reports as
lost are the last on the way; the others it has looked at, and of these it gives the one that
satisfies `f`. -/
structure Takes (c : Channel α) (events : List α) (f : α → Option β) (rounds start : Nat)
    (given : Delivery β) (stop : Nat) : Prop where
  start_le : start + given.lost ≤ stop
  stop_le : stop ≤ events.length
  event : given.event?.toList =
    (List.range' start (stop - given.lost - start)).filterMap (wanted events f)
  ends : c.Ends events rounds start given stop

namespace Takes

variable {f : α → Option β} {rounds start stop : Nat} {given : Delivery β}

theorem stay (hstart : start ≤ events.length) (hlost : given.lost = 0)
    (hgiven : given.event? = none) (hends : c.Ends events rounds start given start) :
    c.Takes events f rounds start given start := by
  refine ⟨by omega, hstart, ?_, hends⟩
  rw [hgiven, hlost, Nat.sub_zero, Nat.sub_self]
  rfl

theorem lose {n : Nat} (hn : 0 < n) (h : start + n + c.capacity = events.length) :
    c.Takes events f rounds start (.lagged n) (start + n) := by
  refine ⟨Nat.le_refl _, by omega, ?_, hn, h⟩
  show [] = (List.range' start (start + n - n - start)).filterMap _
  rw [Nat.add_sub_cancel, Nat.sub_self]
  rfl

theorem give {a : α} {b : β} (ha : events[start]? = some a) (hf : f a = some b) :
    c.Takes events f rounds start (.event b) (start + 1) := by
  have hwanted : wanted events f start = some b := by rw [wanted, ha, Option.bind_some, hf]
  refine ⟨Nat.le_succ _, (List.getElem?_eq_some_iff.mp ha).1, ?_, trivial⟩
  show [b] = (List.range' start (start + 1 - 0 - start)).filterMap _
  rw [Nat.sub_zero, Nat.add_sub_cancel_left, List.range'_one, List.filterMap_cons_some hwanted,
    List.filterMap_nil]

/-- One round more, for an event that is passed over. -/
theorem pass (h : c.Takes events f rounds (start + 1) given stop) {a : α}
    (holdest : c.oldest ≤ start) (ha : events[start]? = some a) (hf : f a = none) :
    c.Takes events f (rounds + 1) start given stop := by
  have hle := h.start_le
  have hlength : stop - given.lost - start = (stop - given.lost - (start + 1)) + 1 := by omega
  have hnone : wanted events f start = none := by rw [wanted, ha, Option.bind_some, hf]
  refine ⟨by omega, h.stop_le, ?_, ?_⟩
  · rw [hlength, List.range'_succ, List.filterMap_cons_none hnone, h.event]
  · have hends := h.ends
    cases given with
    | event b => trivial
    | lagged n => exact hends
    | closed => exact hends
    | empty =>
      rcases hends with hdone | ⟨hstop, -⟩
      · exact Or.inl hdone
      · exact Or.inr ⟨by omega, fun _ => holdest⟩

end Takes

namespace Holds

variable {r : Receiver}

theorem takes_receiveOnly (h : c.Holds events) (f : α → Option β) (rounds : Nat)
    (hr : r.next ≤ events.length) :
    c.Takes events f rounds r.next (c.receiveOnly f rounds r).1
      (c.receiveOnly f rounds r).2.next := by
  induction rounds generalizing r with
  | zero => exact .stay hr rfl rfl (Or.inr ⟨rfl, fun hpos => absurd hpos (Nat.lt_irrefl 0)⟩)
  | succ rounds ih =>
    rw [receiveOnly]
    rcases h.receive_cases hr with ⟨n, hn, hlost, hreceive⟩ | ⟨a, hold, ha, hreceive⟩ |
      ⟨hdone, hreceive⟩
    · rw [hreceive]
      exact .lose hn hlost
    · rw [hreceive]
      cases hf : f a with
      | some b =>
        simp only [hf]
        exact .give ha hf
      | none =>
        simp only [hf]
        exact (ih (List.getElem?_eq_some_iff.mp ha).1).pass hold ha hf
    · rw [hreceive]
      cases hopen : c.isOpen with
      | true => exact .stay hr rfl rfl (Or.inl ⟨hdone, hopen⟩)
      | false => exact .stay hr rfl rfl ⟨hdone, hopen⟩

/-- A call with a round for each event in the buffer, and one more, waits only if nothing is
left. -/
theorem eq_length_of_receiveFirst_empty (h : c.Holds events) {f : α → Option β} {r' : Receiver}
    (hr : r.next ≤ events.length) (hempty : c.receiveFirst f r = (.empty, r')) :
    r'.next = events.length ∧ c.isOpen = true := by
  have htakes := h.takes_receiveOnly f (c.buffer.length + 1) hr
  rw [show c.receiveOnly f (c.buffer.length + 1) r = (.empty, r') from hempty] at htakes
  have hstop : r'.next ≤ events.length := htakes.stop_le
  have hends : c.Ends events (c.buffer.length + 1) r.next (.empty : Delivery β) r'.next :=
    htakes.ends
  rcases hends with hdone | ⟨hrounds, hold⟩
  · exact hdone
  · -- so many rounds would have taken the receiver past the end
    have holdest : c.oldest ≤ r.next := hold (Nat.succ_pos _)
    rw [Channel.oldest, h.sent] at holdest
    omega

end Holds
end Channel
end Motif
