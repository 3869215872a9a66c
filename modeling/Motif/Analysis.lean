import Motif.History
import Motif.Novelty.Basic
import Motif.Watchlist

/-!
Results of analyses.  An analysis never fails as such: refused code and an engine that is not there
both show as a failure result.
-/

namespace Motif

/-- The half of an analysis that reads: what was found, before anything is learned from it. -/
structure Evaluation where
  fragment : Fragment
  matched : List Match
  proposed : List Proposal
deriving BEq, Inhabited

structure Outcome where
  fragment : Fragment
  matched : List Match
  proposed : List Proposal
  confidence : Float
  observationCount : Nat
  insights : Insights
deriving BEq, Inhabited

/-- Why an engine gives no evaluation. -/
inductive EngineError where
  | refused (why : Fragment.Refusal)
  | unavailable
deriving DecidableEq, Inhabited

def EngineError.message : EngineError → String
  | .refused why => "Invalid code fragment: " ++ why.message
  | .unavailable => "Discovery engine unavailable"

inductive Verdict where
  | success (o : Outcome)
  | failure (error : String) (reason : Option String)
deriving BEq, Inhabited

namespace Verdict

def refused (why : Fragment.Refusal) : Verdict :=
  failure "Invalid code fragment" (some why.message)

def unavailable : Verdict := failure "Discovery engine unavailable" none

def ofError : EngineError → Verdict
  | .refused why => refused why
  | .unavailable => unavailable

def outcome? : Verdict → Option Outcome
  | success o => some o
  | failure _ _ => none

def error? : Verdict → Option String
  | success _ => none
  | failure error _ => some error

def isSuccess (v : Verdict) : Bool := v.outcome?.isSome

def confidence (v : Verdict) : Float :=
  match v with
  | success o => o.confidence
  | failure _ _ => 0.0

def matched : Verdict → List Match
  | success o => o.matched
  | failure _ _ => []

def proposed : Verdict → List Proposal
  | success o => o.proposed
  | failure _ _ => []

end Verdict

/-- What an engine has seen so far. -/
structure Summary where
  observations : Nat
  knownPatterns : Nat
  candidates : Nat
  topCandidates : List Candidate
deriving BEq, Inhabited

def Summary.none : Summary := ⟨0, 0, 0, []⟩

/-! ## Proposals of one analysis -/

namespace Proposal

/-- Puts a proposal in the place of a weaker one of the same name, or at the end. -/
def merge (p : Proposal) : List Proposal → List Proposal
  | [] => [p]
  | q :: rest =>
    if q.name == p.name then (if q.confidence < p.confidence then p :: rest else q :: rest)
    else q :: merge p rest

/-- One proposal for each name, the strongest, in the order in which the names first appear. -/
def distinct (ps : List Proposal) : List Proposal := ps.foldl (fun acc p => p.merge acc) []

theorem names_merge (p : Proposal) (ps : List Proposal) :
    (p.merge ps).map (·.name) =
      if p.name ∈ ps.map (·.name) then ps.map (·.name) else ps.map (·.name) ++ [p.name] := by
  induction ps with
  | nil => rfl
  | cons q rest ih =>
    rw [merge]
    by_cases hq : q.name = p.name
    · have hin : p.name ∈ (q :: rest).map (·.name) := by
        rw [List.map_cons, hq]
        exact List.mem_cons_self
      rw [if_pos (beq_iff_eq.mpr hq), if_pos hin]
      split
      · rw [List.map_cons, List.map_cons, hq]
      · rfl
    · rw [if_neg (fun h => hq (beq_iff_eq.mp h)), List.map_cons, List.map_cons, ih]
      by_cases hin : p.name ∈ rest.map (·.name)
      · rw [if_pos hin, if_pos (List.mem_cons_of_mem _ hin)]
      · rw [if_neg hin, if_neg (fun h => (List.mem_cons.mp h).elim (fun e => hq e.symm) hin)]
        rfl

theorem merge_of_new {p : Proposal} {ps : List Proposal} (h : p.name ∉ ps.map (·.name)) :
    p.merge ps = ps ++ [p] := by
  induction ps with
  | nil => rfl
  | cons q rest ih =>
    rw [List.map_cons, List.mem_cons, not_or] at h
    have hq : ¬(q.name == p.name) = true := fun heq => h.1 (beq_iff_eq.mp heq).symm
    rw [merge, if_neg hq, ih h.2, List.cons_append]

/-- What a merge leaves is the proposal itself, if it exceeds the one of its name, and what was
there and is not exceeded. -/
theorem mem_merge {p q : Proposal} {ps : List Proposal} (hnames : (ps.map (·.name)).Nodup)
    (hq : q ∈ p.merge ps) :
    (q = p ∧ ∀ r ∈ ps, r.name = p.name → r.confidence < p.confidence) ∨
      (q ∈ ps ∧ (q.name = p.name → ¬q.confidence < p.confidence)) := by
  induction ps with
  | nil => exact .inl ⟨List.mem_singleton.mp hq, fun _ hr => absurd hr List.not_mem_nil⟩
  | cons s rest ih =>
    obtain ⟨hs, hrest⟩ := List.nodup_cons.mp hnames
    rw [merge] at hq
    by_cases hname : s.name = p.name
    · -- the place of the name is found, and nothing further on has the name
      have hother (r : Proposal) (hr : r ∈ rest) : r.name ≠ p.name := fun heq =>
        hs (List.mem_map.mpr ⟨r, hr, heq.trans hname.symm⟩)
      rw [if_pos (beq_iff_eq.mpr hname)] at hq
      split at hq
      · next hlt =>
        rcases List.mem_cons.mp hq with rfl | hq
        · refine .inl ⟨rfl, fun r hr heq => ?_⟩
          rcases List.mem_cons.mp hr with rfl | hr
          · exact hlt
          · exact absurd heq (hother r hr)
        · exact .inr ⟨List.mem_cons_of_mem s hq, fun heq => absurd heq (hother q hq)⟩
      · next hlt =>
        rcases List.mem_cons.mp hq with rfl | hq
        · exact .inr ⟨List.mem_cons_self, fun _ => hlt⟩
        · exact .inr ⟨List.mem_cons_of_mem s hq, fun heq => absurd heq (hother q hq)⟩
    · rw [if_neg (fun heq => hname (beq_iff_eq.mp heq))] at hq
      rcases List.mem_cons.mp hq with rfl | hq
      · exact .inr ⟨List.mem_cons_self, fun heq => absurd heq hname⟩
      · rcases ih hrest hq with ⟨rfl, hbelow⟩ | ⟨hq, hstays⟩
        · refine .inl ⟨rfl, fun r hr heq => ?_⟩
          rcases List.mem_cons.mp hr with rfl | hr
          · exact absurd heq hname
          · exact hbelow r hr heq
        · exact .inr ⟨List.mem_cons_of_mem s hq, hstays⟩

theorem distinct_concat (ps : List Proposal) (p : Proposal) :
    distinct (ps ++ [p]) = p.merge (distinct ps) := by
  rw [distinct, List.foldl_append]
  rfl

theorem nodup_names_distinct (ps : List Proposal) : ((distinct ps).map (·.name)).Nodup := by
  have step (acc : List Proposal) (h : (acc.map (·.name)).Nodup) :
      ((ps.foldl (fun acc p => p.merge acc) acc).map (·.name)).Nodup := by
    induction ps generalizing acc with
    | nil => exact h
    | cons p rest ih =>
      refine ih (p.merge acc) ?_
      rw [names_merge]
      split
      · exact h
      · next hnew =>
        refine List.nodup_append.mpr ⟨h, List.nodup_cons.mpr ⟨List.not_mem_nil, .nil⟩, ?_⟩
        rintro a ha b hb rfl
        exact hnew (List.mem_singleton.mp hb ▸ ha)
  exact step [] .nil

end Proposal

/-- The strongest of the proposals. -/
def strongest : List Proposal → Option Float
  | [] => none
  | p :: rest =>
    some (rest.foldl (fun best q => Confidence.greatest best q.confidence) p.confidence)

/-- The confidence of the best match, or of the strongest proposal, or the floor. -/
def callConfidence (matched : List Match) (proposed : List Proposal) (floor : Float) : Float :=
  Confidence.clamp 0.0 1.0 <| match matched with
    | top :: _ => top.confidence
    | [] => (strongest proposed).getD floor

end Motif
