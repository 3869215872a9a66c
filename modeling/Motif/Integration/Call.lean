import Motif.Report

/-!
Calls that run against a clock.  A call ends by itself, at the time limit, or when the caller gives
up, whichever comes first.  A call that would end just at the limit has missed it, so with a limit
of zero no call is let run.  All times are milliseconds since the start of the call.
-/

namespace Motif

/-- How a call ends by itself.  An error may blame any layer; the payload of a panic need not be a
text. -/
inductive Ending (α : Type) where
  | answered (a : α)
  | erred (e : LayerError)
  | panicked (payload : Option String)
deriving Inhabited

structure Call (α : Type) where
  duration : Nat
  ending : Ending α
deriving Inhabited

namespace Call

/-- A call that takes no time. -/
def instant {α : Type} (a : α) : Call α := ⟨0, .answered a⟩

end Call

namespace Ending

/-- What the caller of `layer` gets from a call that was let run. -/
def toExcept {α : Type} (layer : String) : Ending α → Except LayerError α
  | answered a => .ok a
  | erred e => .error e
  | panicked payload => .error ⟨layer, .panicked (payload.getD "unknown panic")⟩

end Ending

/-- What ends a call from outside. -/
structure Bounds where
  timeout : Nat
  /-- When the caller gives up. -/
  cancel : Option Nat
deriving DecidableEq, Inhabited

namespace Bounds

/-- Clocks reach no further than thirty years of 365 days. -/
def farthest : Nat := 946080000000

/-- When the time is up. -/
def limit (b : Bounds) : Nat := min b.timeout farthest

/-- When a call of the given duration is over, if the caller waits for it. -/
def endOf (b : Bounds) (duration : Nat) : Nat := min duration b.limit

/-- Whether the caller gives up before the time `t`.  One who gives up at the start never waits. -/
def isCancelledBy (b : Bounds) (t : Nat) : Bool :=
  match b.cancel with
  | some c => c == 0 || c < t
  | none => false

/-- What the caller of `layer` gets. -/
def outcome {α : Type} (b : Bounds) (layer : String) (call : Call α) : Except LayerError α :=
  if b.isCancelledBy (b.endOf call.duration) then .error ⟨layer, .cancelled⟩
  else if b.limit ≤ call.duration then .error ⟨layer, .timedOut b.timeout⟩
  else call.ending.toExcept layer

section

variable {α : Type} {b : Bounds} {call : Call α}

/-- A call in time, when the caller waits. -/
theorem outcome_of_lt (hb : b.cancel = none) (h : call.duration < b.limit) (layer : String) :
    b.outcome layer call = call.ending.toExcept layer := by
  rw [outcome, isCancelledBy, hb, if_neg Bool.false_ne_true, if_neg (Nat.not_le.mpr h)]

/-- A call that is late, when the caller waits. -/
theorem outcome_of_le (hb : b.cancel = none) (h : b.limit ≤ call.duration) (layer : String) :
    b.outcome layer call = .error ⟨layer, .timedOut b.timeout⟩ := by
  rw [outcome, isCancelledBy, hb, if_neg Bool.false_ne_true, if_pos h]

end

end Bounds
end Motif
