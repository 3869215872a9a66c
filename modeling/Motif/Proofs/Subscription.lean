import Mathlib
import Motif.Feed
import Motif.Proofs.Window

/-!
A subscription to the events about one fragment.  Others publish at any time, also between two
rounds of one call, and the feed may be dropped.  The calls give the events about the fragment that
were published since, each once and in order, but for those that are reported as lost; a call waits,
or is told that the feed is closed, only when nothing is left.
-/

namespace Motif

/-- A call, or a part of one: how far it took the receiver, counted in events since the
subscription, and what came of it.  A call that has nothing to return yet counts as empty. -/
structure Subscription.Reading where
  upTo : Nat
  result : Delivery EngineEvent

structure Subscription where
  fragment : Uuid
  /-- How many events the feed had sent before. -/
  origin : Nat
  feed : Feed
  receiver : Receiver
  /-- Events since the subscription, the oldest first. -/
  published : List Event
  readings : List Subscription.Reading

namespace Subscription

inductive Move where
  | publish (e : Event)
  /-- A call, up to the event that it returns or to where it has to wait. -/
  | receive
  /-- A single round of a call. -/
  | look
  | drop

namespace Move

def event? : Move → Option Event
  | publish e => some e
  | receive | look | drop => none

def isDrop : Move → Bool
  | drop => true
  | publish _ | receive | look => false

end Move

def start (feed : Feed) (fragment : Uuid) : Subscription :=
  ⟨fragment, feed.sent, feed, feed.subscribe, [], []⟩

def note (s : Subscription) (taken : Delivery EngineEvent × Receiver) : Subscription :=
  { s with
    receiver := taken.2, readings := s.readings ++ [⟨taken.2.next - s.origin, taken.1⟩] }

/-- Nobody can publish on a feed that was dropped. -/
def step (s : Subscription) : Move → Subscription
  | .publish e =>
    if s.feed.isOpen then { s with feed := s.feed.send e, published := s.published ++ [e] } else s
  | .receive => s.note (s.feed.receiveAbout s.fragment s.receiver)
  | .look => s.note (s.feed.receiveOnly (Event.about s.fragment) 1 s.receiver)
  | .drop => { s with feed := s.feed.close }

def run (s : Subscription) (moves : List Move) : Subscription := moves.foldl step s

/-! ## What a subscriber has seen -/

/-- How many of the events since the subscription the receiver has gone past. -/
def position (s : Subscription) : Nat := s.receiver.next - s.origin

def delivered (s : Subscription) : List EngineEvent := s.readings.filterMap (·.result.event?)

/-- The numbers of the events that a call reports as lost, which are the last that it went past. -/
def Reading.lost (c : Reading) : List Nat :=
  List.range' (c.upTo - c.result.lost) c.result.lost

def lost (s : Subscription) : List Nat := s.readings.flatMap Reading.lost

/-- The event of the given number since the subscription, if it is about the fragment. -/
def sought (s : Subscription) (k : Nat) : Option EngineEvent :=
  Channel.wanted s.published (Event.about s.fragment) k

section

variable (s : Subscription) (given : Delivery EngineEvent) (r : Receiver)

theorem lost_note : (s.note (given, r)).lost =
    s.lost ++ List.range' (r.next - s.origin - given.lost) given.lost := by
  simp only [lost, note, List.flatMap_append, List.flatMap_singleton]
  rfl

theorem delivered_note : (s.note (given, r)).delivered = s.delivered ++ given.event?.toList := by
  simp only [delivered, note, List.filterMap_append]
  cases given <;> rfl

theorem mem_readings_note {c : Reading} : c ∈ (s.note (given, r)).readings ↔
    c ∈ s.readings ∨ c = ⟨r.next - s.origin, given⟩ := by
  rw [note, List.mem_append, List.mem_singleton]

end

/-! ## What every move keeps -/

/-- Some numbers are struck out, all of them below `start`.  Behind it `m` numbers are kept, and `n`
more are struck out. -/
theorem filter_range_append {start : Nat} {struck : List Nat} (h : ∀ k ∈ struck, k < start)
    (m n : Nat) :
    (List.range (start + m + n)).filter (· ∉ struck ++ List.range' (start + m) n) =
      (List.range start).filter (· ∉ struck) ++ List.range' start m := by
  have hsplit : List.range (start + m + n) =
      List.range start ++ List.range' start m ++ List.range' (start + m) n := by
    rw [List.range_add, List.range_add, List.range'_eq_map_range, List.range'_eq_map_range]
  have hbefore : (List.range start).filter (· ∉ struck ++ List.range' (start + m) n) =
      (List.range start).filter (· ∉ struck) := by
    refine List.filter_congr fun k hk => ?_
    have hlt := List.mem_range.mp hk
    simp only [List.mem_append, List.mem_range'_1]
    grind
  have hbetween : (List.range' start m).filter (· ∉ struck ++ List.range' (start + m) n) =
      List.range' start m := by
    refine List.filter_eq_self.mpr fun k hk => ?_
    have hplace := List.mem_range'_1.mp hk
    simp only [List.mem_append, List.mem_range'_1]
    grind
  have hbehind : (List.range' (start + m) n).filter
      (· ∉ struck ++ List.range' (start + m) n) = [] := by
    refine List.filter_eq_nil_iff.mpr fun k hk => ?_
    simp only [List.mem_append, hk, or_true, not_true, decide_false, Bool.false_eq_true,
      not_false_iff]
  rw [hsplit, List.filter_append, List.filter_append, hbefore, hbetween, hbehind, List.append_nil]

/-- A subscription to a feed that had sent some events before. -/
structure Sound (earlier : List Event) (s : Subscription) : Prop where
  origin : s.origin = earlier.length
  feed : s.feed.Holds (earlier ++ s.published)
  origin_le : s.origin ≤ s.receiver.next
  le_published : s.position ≤ s.published.length
  delivered : s.delivered =
    ((List.range s.position).filter (· ∉ s.lost)).filterMap s.sought
  lost_lt : ∀ k ∈ s.lost, k < s.position
  lagged : ∀ c ∈ s.readings, ∀ n, c.result = .lagged n →
    0 < n ∧ c.upTo + s.feed.capacity ≤ s.published.length
  closed : ∀ c ∈ s.readings, c.result = .closed →
    c.upTo = s.published.length ∧ s.feed.isOpen = false

/-- What a call gives that takes the receiver up to `stop`, as the subscriber counts. -/
structure Call (s : Subscription) (given : Delivery EngineEvent) (stop : Nat) : Prop where
  start_le : s.position + given.lost ≤ stop
  le_published : stop ≤ s.published.length
  event : given.event?.toList =
    (List.range' s.position (stop - given.lost - s.position)).filterMap s.sought
  lagged : ∀ n, given = .lagged n → 0 < n ∧ stop + s.feed.capacity = s.published.length
  closed : given = .closed → stop = s.published.length ∧ s.feed.isOpen = false

namespace Sound

variable {earlier : List Event} {s : Subscription}

theorem start {feed : Feed} (h : feed.Holds earlier) (fragment : Uuid) :
    Sound earlier (start feed fragment) where
  origin := h.sent
  feed := by
    show feed.Holds (earlier ++ [])
    rw [List.append_nil]
    exact h
  origin_le := Nat.le_refl _
  le_published := Nat.le_of_eq (Nat.sub_self feed.sent)
  delivered := by
    show [] = ((List.range (feed.sent - feed.sent)).filter _).filterMap _
    rw [Nat.sub_self]
    rfl
  lost_lt _ hk := absurd hk List.not_mem_nil
  lagged _ hc := absurd hc List.not_mem_nil
  closed _ hc := absurd hc List.not_mem_nil

theorem drop (h : Sound earlier s) : Sound earlier (s.step .drop) where
  origin := h.origin
  feed := h.feed.close
  origin_le := h.origin_le
  le_published := h.le_published
  delivered := h.delivered
  lost_lt := h.lost_lt
  lagged := h.lagged
  closed c hc hresult := ⟨(h.closed c hc hresult).1, rfl⟩

theorem publish (h : Sound earlier s) (e : Event) : Sound earlier (s.step (.publish e)) := by
  rw [step]
  split
  · next hopen =>
    have hgrown : s.published.length ≤ (s.published ++ [e]).length := by
      rw [List.length_append]
      omega
    refine
      { origin := h.origin
        feed := ?_
        origin_le := h.origin_le
        le_published := h.le_published.trans hgrown
        delivered := ?_
        lost_lt := h.lost_lt
        lagged := fun c hc n hresult => ?_
        closed := fun c hc hresult => ?_ }
    · rw [← List.append_assoc]
      exact h.feed.send e
    · -- what the receiver has gone past was there before
      refine h.delivered.trans (List.filterMap_congr fun k hk => ?_)
      have hlt : k < s.published.length :=
        (List.mem_range.mp (List.mem_filter.mp hk).1).trans_le h.le_published
      exact Channel.wanted_congr (List.getElem?_append_left hlt).symm _
    · exact ⟨(h.lagged c hc n hresult).1, (h.lagged c hc n hresult).2.trans hgrown⟩
    · rw [(h.closed c hc hresult).2] at hopen
      cases hopen
  · exact h

theorem next_le (h : Sound earlier s) : s.receiver.next ≤ (earlier ++ s.published).length := by
  have hle := h.le_published
  rw [position] at hle
  rw [List.length_append, ← h.origin]
  omega

theorem takes (h : Sound earlier s) (rounds : Nat) :
    s.feed.Takes (earlier ++ s.published) (Event.about s.fragment) rounds s.receiver.next
      (s.feed.receiveOnly (Event.about s.fragment) rounds s.receiver).1
      (s.feed.receiveOnly (Event.about s.fragment) rounds s.receiver).2.next :=
  h.feed.takes_receiveOnly (Event.about s.fragment) rounds h.next_le

/-- The subscriber counts events from the subscription on. -/
theorem call (h : Sound earlier s) {rounds stop : Nat} {given : Delivery EngineEvent}
    (htakes : s.feed.Takes (earlier ++ s.published) (Event.about s.fragment) rounds
      s.receiver.next given stop) :
    s.origin ≤ stop ∧ s.Call given (stop - s.origin) := by
  have hplace : s.receiver.next = s.origin + s.position := (Nat.add_sub_of_le h.origin_le).symm
  have hlength : (earlier ++ s.published).length = s.origin + s.published.length := by
    rw [List.length_append, h.origin]
  have hstart := htakes.start_le
  have hstop := htakes.stop_le
  have hends := htakes.ends
  refine ⟨by omega, by omega, by omega, ?_, ?_, ?_⟩
  · have hcount : stop - given.lost - s.receiver.next =
        stop - s.origin - given.lost - s.position := by omega
    have hshift : Channel.wanted (earlier ++ s.published) (Event.about s.fragment) ∘
        (s.origin + ·) = s.sought := by
      funext k
      have hget : (earlier ++ s.published)[s.origin + k]? = s.published[k]? := by
        rw [h.origin, List.getElem?_append_right (Nat.le_add_right _ _), Nat.add_sub_cancel_left]
      exact Channel.wanted_congr hget _
    rw [htakes.event, hcount, hplace, ← List.map_add_range', List.filterMap_map, hshift]
  · rintro n rfl
    obtain ⟨hn, hcapacity⟩ := hends
    exact ⟨hn, by omega⟩
  · rintro rfl
    obtain ⟨hend, hclosed⟩ := hends
    exact ⟨by omega, hclosed⟩

/-- What a call goes past lies behind all that was gone past before. -/
theorem note (h : Sound earlier s) {given : Delivery EngineEvent} {r : Receiver}
    (horigin : s.origin ≤ r.next) (hcall : s.Call given (r.next - s.origin)) :
    Sound earlier (s.note (given, r)) := by
  have hstart := hcall.start_le
  -- the receiver goes past what it gives or passes over, and then past what is lost
  have hplace : r.next - s.origin - given.lost =
      s.position + (r.next - s.origin - given.lost - s.position) := by omega
  have hposition : (s.note (given, r)).position =
      s.position + (r.next - s.origin - given.lost - s.position) + given.lost := by
    show r.next - s.origin = _
    omega
  refine
    { origin := h.origin
      feed := h.feed
      origin_le := horigin
      le_published := hcall.le_published
      delivered := ?_
      lost_lt := fun k hk => ?_
      lagged := fun c hc n hresult => ?_
      closed := fun c hc hresult => ?_ }
  · have hsought : (s.note (given, r)).sought = s.sought := rfl
    rw [delivered_note, lost_note, hplace, hposition, filter_range_append h.lost_lt,
      List.filterMap_append, hsought, ← h.delivered, ← hcall.event]
  · rw [lost_note, List.mem_append, List.mem_range'_1] at hk
    rcases hk with hk | hk
    · have := h.lost_lt k hk
      omega
    · omega
  · rcases (mem_readings_note s given r).mp hc with hc | rfl
    · exact h.lagged c hc n hresult
    · exact ⟨(hcall.lagged n hresult).1, (hcall.lagged n hresult).2.le⟩
  · rcases (mem_readings_note s given r).mp hc with hc | rfl
    · exact h.closed c hc hresult
    · exact hcall.closed hresult

theorem step (h : Sound earlier s) (m : Move) : Sound earlier (s.step m) := by
  cases m with
  | publish e => exact h.publish e
  | receive =>
    obtain ⟨horigin, hcall⟩ := h.call (h.takes (s.feed.buffer.length + 1))
    exact h.note horigin hcall
  | look =>
    obtain ⟨horigin, hcall⟩ := h.call (h.takes 1)
    exact h.note horigin hcall
  | drop => exact h.drop

theorem run (h : Sound earlier s) (moves : List Move) : Sound earlier (s.run moves) := by
  induction moves generalizing s with
  | nil => exact h
  | cons m rest ih => exact ih (h.step m)

end Sound

/-! ## Whole runs -/

theorem fragment_run (s : Subscription) (moves : List Move) :
    (s.run moves).fragment = s.fragment := by
  induction moves generalizing s with
  | nil => rfl
  | cons m rest ih =>
    refine (ih (s.step m)).trans ?_
    cases m with
    | publish e =>
      rw [step]
      split <;> rfl
    | receive | look | drop => rfl

/-- What is published until the feed is dropped reaches the feed. -/
theorem published_run (s : Subscription) (moves : List Move) :
    (s.run moves).published = s.published ++
      if s.feed.isOpen then (moves.takeWhile (!·.isDrop)).filterMap Move.event? else [] := by
  induction moves generalizing s with
  | nil =>
    show s.published = _
    simp
  | cons m rest ih =>
    refine (ih (s.step m)).trans ?_
    cases m with
    | publish e =>
      cases hopen : s.feed.isOpen with
      | true =>
        have hsent : (s.feed.send e).isOpen = true := hopen
        simp [step, hopen, hsent, Move.isDrop, Move.event?]
      | false => simp [step, hopen]
    | receive | look => rfl
    | drop => simp [step, Channel.close, Move.isDrop]

theorem lost_eq_nil {s : Subscription} (h : ∀ c ∈ s.readings, ∀ n, c.result ≠ .lagged n) :
    s.lost = [] := by
  refine List.flatMap_eq_nil_iff.mpr fun c hc => ?_
  have hnone : c.result.lost = 0 := by
    cases hresult : c.result with
    | lagged n => exact absurd hresult (h c hc n)
    | event e | empty | closed => rfl
  rw [Reading.lost, hnone]
  rfl

/-- However the moves fall: of the events since the subscription that the receiver has gone past,
those about the fragment are delivered, in order and each once, but for those reported as lost, and
nothing else is.  Events are reported as lost only when they no longer fit in the buffer.  A
subscriber that is never told so and has gone past all has got all.  It is told that the feed is
closed only when it has gone past all, and a call waits only then. -/
theorem fragment_events_arrive (capacity : Nat) (earlier : List Event) (fragment : Uuid)
    (moves : List Move) :
    let feed : Feed := (Channel.make capacity).sendAll earlier
    let s := (start feed fragment).run moves
    let about := Event.about fragment
    s.published = (moves.takeWhile (!·.isDrop)).filterMap Move.event? ∧
    s.position ≤ s.published.length ∧
    s.delivered =
      ((List.range s.position).filter (· ∉ s.lost)).filterMap (s.published[·]?.bind about) ∧
    (∀ c ∈ s.readings, ∀ n, c.result = .lagged n →
      0 < n ∧ c.upTo + s.feed.capacity ≤ s.published.length) ∧
    ((∀ c ∈ s.readings, ∀ n, c.result ≠ .lagged n) → s.position = s.published.length →
      s.delivered = s.published.filterMap about) ∧
    (∀ c ∈ s.readings, c.result = .closed →
      c.upTo = s.published.length ∧ s.feed.isOpen = false) ∧
    ∀ r, s.feed.receiveAbout fragment s.receiver = (.empty, r) →
      r.next - s.origin = s.published.length ∧ s.feed.isOpen = true := by
  intro feed s about
  have hfeed : feed.Holds earlier := (Channel.holds_make capacity).sendAll earlier
  have h : Sound earlier s := (Sound.start hfeed fragment).run moves
  have hfragment : s.fragment = fragment := fragment_run (start feed fragment) moves
  have hopen : feed.isOpen = true := Channel.isOpen_sendAll _ earlier
  have hpublished : s.published = [] ++ _ := published_run (start feed fragment) moves
  have hdelivered := h.delivered
  have hsought : s.sought = Channel.wanted s.published about := by
    funext k
    rw [sought, hfragment]
  rw [hsought] at hdelivered
  refine ⟨?_, h.le_published, hdelivered, h.lagged, fun hlag hall => ?_, h.closed,
    fun r hreceive => ?_⟩
  · rw [hpublished, List.nil_append]
    exact if_pos hopen
  · have hrange := Channel.filterMap_wanted_range s.published about
    rw [hdelivered, lost_eq_nil hlag, hall, ← hrange]
    simp only [List.not_mem_nil, not_false_iff, decide_true, List.filter_true]
  · obtain ⟨hend, hstillOpen⟩ := h.feed.eq_length_of_receiveFirst_empty h.next_le hreceive
    rw [hend, List.length_append, h.origin, Nat.add_sub_cancel_left]
    exact ⟨rfl, hstillOpen⟩

end Subscription
end Motif
