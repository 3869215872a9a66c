import Motif.Candidate

/-!
The candidates under watch, one for each name.  The list keeps the order of first sighting; only
the ranking is ever shown.
-/

namespace Motif

structure Watchlist where
  candidates : List Candidate
  cap : Float
  nudge : Float
deriving BEq, Inhabited

namespace Watchlist

def empty (nudge : Float) : Watchlist := ⟨[], Candidate.defaultCap, nudge⟩

/-- Later sightings obey the new cap; candidates already above it stay as they are until then. -/
def withCap (w : Watchlist) (cap : Float) : Watchlist :=
  { w with cap := Confidence.clamp 0.0 1.0 cap }

def get? (w : Watchlist) (name : String) : Option Candidate :=
  w.candidates.find? (·.name == name)

def size (w : Watchlist) : Nat := w.candidates.length

/-- What a sighting amounted to, with the candidate after it. -/
inductive Sighting where
  | discovered (c : Candidate)
  | repeated (c : Candidate)
deriving BEq, Inhabited

def Sighting.candidate : Sighting → Candidate
  | .discovered c | .repeated c => c

def observe (w : Watchlist) (name description : String) (confidence : Float) (fragment : Uuid)
    (now : Timestamp) : Watchlist × Sighting :=
  match w.get? name with
  | some c =>
    let seen := (·.observe fragment now w.nudge w.cap)
    ({ w with candidates := Sequence.changeFirst (·.name == name) seen w.candidates },
      .repeated (seen c))
  | none =>
    let c := Candidate.propose name description confidence fragment now w.cap
    ({ w with candidates := w.candidates ++ [c] }, .discovered c)

theorem observe_of_some {w : Watchlist} {name : String} {c : Candidate} (h : w.get? name = some c)
    (description : String) (confidence : Float) (fragment : Uuid) (now : Timestamp) :
    w.observe name description confidence fragment now =
      ({ w with
          candidates := Sequence.changeFirst (·.name == name)
            (·.observe fragment now w.nudge w.cap) w.candidates },
        .repeated (c.observe fragment now w.nudge w.cap)) := by
  rw [observe, h]

theorem observe_of_none {w : Watchlist} {name : String} (h : w.get? name = none)
    (description : String) (confidence : Float) (fragment : Uuid) (now : Timestamp) :
    w.observe name description confidence fragment now =
      ({ w with
          candidates := w.candidates ++
            [Candidate.propose name description confidence fragment now w.cap] },
        .discovered (Candidate.propose name description confidence fragment now w.cap)) := by
  rw [observe, h]

/-- A sighting changes what is known of its name, and of no other. -/
theorem get?_observe (w : Watchlist) (n description : String) (confidence : Float)
    (fragment : Uuid) (now : Timestamp) (name : String) :
    (w.observe n description confidence fragment now).1.get? name =
      if name = n then some (w.observe n description confidence fragment now).2.candidate
      else w.get? name := by
  cases hn : w.get? n with
  | some c =>
    have hsame (m : String) (a : Candidate) :
        ((a.observe fragment now w.nudge w.cap).name == m) = (a.name == m) := rfl
    rw [observe_of_some hn, get?]
    by_cases hname : name = n
    · subst hname
      rw [if_pos rfl, Sequence.find?_changeFirst (hsame name),
        show w.candidates.find? _ = some c from hn]
      rfl
    · have hnot (a : Candidate) (ha : (a.name == n) = true) : ¬(a.name == name) = true :=
        fun hq => hname ((eq_of_beq hq).symm.trans (eq_of_beq ha))
      rw [if_neg hname, Sequence.find?_changeFirst_of_not (hsame name) hnot]
      rfl
  | none =>
    rw [observe_of_none hn, get?, List.find?_append]
    by_cases hname : name = n
    · subst hname
      rw [if_pos rfl, show w.candidates.find? _ = none from hn]
      simp [Candidate.propose, Sighting.candidate]
    · have hnot : (n == name) = false := beq_eq_false_iff_ne.mpr (Ne.symm hname)
      rw [if_neg hname, get?]
      simp [Candidate.propose, hnot]

def ranked (w : Watchlist) : List Candidate :=
  w.candidates.mergeSort fun a b => Candidate.rank a b != .gt

def top (w : Watchlist) (limit : Nat) : List Candidate := w.ranked.take limit

end Watchlist
end Motif
