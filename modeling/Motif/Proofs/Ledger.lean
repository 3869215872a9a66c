import Motif.Engine

/-!
A ledger kept from events alone.  It starts from the patterns of a catalog and from empty stores,
and posts one event after the other.  An event that does not fit what the ledger holds cannot be
posted: a pattern must be reinforced from the base confidence in the ledger, a candidate discovered
once and observed with the next number of occurrences, and what a trim says is retained must be what
is left.
-/

namespace Motif

/-- What the events tell of a candidate. -/
structure Standing where
  name : String
  confidence : Float
  occurrences : Nat
  fragments : List Uuid
deriving DecidableEq

def Standing.again (c : Standing) (fragment : Uuid) (occurrences : Nat) (confidence : Float) :
    Standing :=
  { c with
    confidence, occurrences
    fragments := Sequence.latest Candidate.memory (c.fragments ++ [fragment]) }

/-- What the events tell of a retained analysis. -/
structure Entry where
  fragment : Uuid
  matched : Nat
  proposed : Nat
  confidence : Float
deriving DecidableEq

structure Ledger where
  patterns : List Pattern
  candidates : List Standing
  /-- The oldest first. -/
  retained : List Entry
  /-- How many analyses were ever recorded. -/
  recorded : Nat

namespace Ledger

def start (patterns : List Pattern) : Ledger := ⟨patterns, [], [], 0⟩

def standing? (l : Ledger) (name : String) : Option Standing :=
  l.candidates.find? (·.name == name)

def post (l : Ledger) : EngineEvent → Option Ledger
  | .patternReinforced name _ before after _ =>
    match l.patterns.find? (·.name == name) with
    | some p =>
      if p.baseConfidence = before then
        some { l with
          patterns := Sequence.changeFirst (·.name == name)
            (fun p => { p with baseConfidence := after }) l.patterns }
      else none
    | none => none
  | .candidateDiscovered name fragment confidence _ =>
    match l.standing? name with
    | some _ => none
    | none => some { l with candidates := l.candidates ++ [⟨name, confidence, 1, [fragment]⟩] }
  | .candidateObserved name fragment occurrences confidence _ =>
    match l.standing? name with
    | some c =>
      if occurrences = c.occurrences + 1 then
        some { l with
          candidates := Sequence.changeFirst (·.name == name)
            (·.again fragment occurrences confidence) l.candidates }
      else none
    | none => none
  | .analysisRecorded fragment matched proposed confidence _ =>
    some { l with
      retained := l.retained ++ [⟨fragment, matched, proposed, confidence⟩]
      recorded := l.recorded + 1 }
  | .historyTrimmed removed retained _ =>
    if l.retained.length = removed + retained then
      some { l with retained := l.retained.drop removed }
    else none
  | .fragmentRejected _ _ => some l

def replay (l : Ledger) (events : List EngineEvent) : Option Ledger := events.foldlM post l

@[simp] theorem replay_nil (l : Ledger) : l.replay [] = some l := rfl

@[simp] theorem replay_cons (l : Ledger) (ev : EngineEvent) (rest : List EngineEvent) :
    l.replay (ev :: rest) = (l.post ev).bind (·.replay rest) := rfl

theorem replay_append (l : Ledger) (evs evs' : List EngineEvent) :
    l.replay (evs ++ evs') = (l.replay evs).bind (·.replay evs') := by
  rw [replay, List.foldlM_append]
  rfl

/-- A posted prefix leaves a ledger from which the rest was posted. -/
theorem replay_append_eq_some {l m : Ledger} {evs evs' : List EngineEvent}
    (h : l.replay (evs ++ evs') = some m) :
    ∃ k, l.replay evs = some k ∧ k.replay evs' = some m := by
  rw [replay_append] at h
  exact Option.bind_eq_some_iff.mp h

theorem replay_cons_eq_some {l m : Ledger} {ev : EngineEvent} {rest : List EngineEvent}
    (h : l.replay (ev :: rest) = some m) : ∃ k, l.post ev = some k ∧ k.replay rest = some m := by
  rw [replay_cons] at h
  exact Option.bind_eq_some_iff.mp h

end Ledger

/-! ## Counting in a log -/

namespace EngineEvent

def isRecording : EngineEvent → Bool
  | analysisRecorded .. => true
  | _ => false

/-- How many records the event says were dropped. -/
def removed : EngineEvent → Nat
  | historyTrimmed n _ _ => n
  | _ => 0

def discovered? : EngineEvent → Option String
  | candidateDiscovered name _ _ _ => some name
  | _ => none

def recordings (log : List EngineEvent) : Nat := log.countP isRecording

def removals : List EngineEvent → Nat
  | [] => 0
  | ev :: rest => ev.removed + removals rest

def discoveries (log : List EngineEvent) : List String := log.filterMap discovered?

end EngineEvent

namespace Ledger

open EngineEvent

def names (l : Ledger) : List String := l.candidates.map (·.name)

theorem standing?_eq_none_iff {l : Ledger} {name : String} :
    l.standing? name = none ↔ name ∉ l.names := by
  simp [standing?, names, List.find?_eq_none]

/-! ## What can be posted -/

section

variable {l m : Ledger} {name : String} {fragment : Uuid} {now : Timestamp}

theorem post_reinforced_eq_some {before after : Float}
    (h : l.post (.patternReinforced name fragment before after now) = some m) :
    (∃ p, l.patterns.find? (·.name == name) = some p ∧ p.baseConfidence = before) ∧
      m = { l with
        patterns := Sequence.changeFirst (·.name == name)
          (fun p => { p with baseConfidence := after }) l.patterns } := by
  simp only [post] at h
  split at h
  · next p hp =>
    split at h
    · next hbefore => exact ⟨⟨p, hp, hbefore⟩, (Option.some.inj h).symm⟩
    · cases h
  · cases h

theorem post_discovered_eq_some {confidence : Float}
    (h : l.post (.candidateDiscovered name fragment confidence now) = some m) :
    l.standing? name = none ∧
      m = { l with candidates := l.candidates ++ [⟨name, confidence, 1, [fragment]⟩] } := by
  simp only [post] at h
  split at h
  · cases h
  · next hnone => exact ⟨hnone, (Option.some.inj h).symm⟩

theorem post_observed_eq_some {occurrences : Nat} {confidence : Float}
    (h : l.post (.candidateObserved name fragment occurrences confidence now) = some m) :
    (∃ c, l.standing? name = some c ∧ occurrences = c.occurrences + 1) ∧
      m = { l with
        candidates := Sequence.changeFirst (·.name == name)
          (·.again fragment occurrences confidence) l.candidates } := by
  simp only [post] at h
  split at h
  · next c hc =>
    split at h
    · next hnext => exact ⟨⟨c, hc, hnext⟩, (Option.some.inj h).symm⟩
    · cases h
  · cases h

theorem post_trimmed_eq_some {removed retained : Nat}
    (h : l.post (.historyTrimmed removed retained now) = some m) :
    l.retained.length = removed + retained ∧
      m = { l with retained := l.retained.drop removed } := by
  simp only [post] at h
  split at h
  · next hlength => exact ⟨hlength, (Option.some.inj h).symm⟩
  · cases h

end

/-- What one event does to the counts and to the names. -/
theorem post_counts {l m : Ledger} {ev : EngineEvent} (h : l.post ev = some m) :
    m.recorded = l.recorded + recordings [ev] ∧
      m.retained.length + removals [ev] = l.retained.length + recordings [ev] ∧
      m.names = l.names ++ discoveries [ev] := by
  cases ev with
  | patternReinforced name fragment before after now =>
    obtain ⟨-, rfl⟩ := post_reinforced_eq_some h
    exact ⟨rfl, rfl, (List.append_nil _).symm⟩
  | candidateDiscovered name fragment confidence now =>
    obtain ⟨-, rfl⟩ := post_discovered_eq_some h
    exact ⟨rfl, rfl, List.map_append⟩
  | candidateObserved name fragment occurrences confidence now =>
    obtain ⟨-, rfl⟩ := post_observed_eq_some h
    have hname (c : Standing) : (c.again fragment occurrences confidence).name = c.name := rfl
    exact ⟨rfl, rfl, (Sequence.map_changeFirst hname).trans (List.append_nil _).symm⟩
  | analysisRecorded fragment matched proposed confidence now =>
    obtain rfl := Option.some.inj h
    exact ⟨rfl, by simp [removals, recordings, isRecording, EngineEvent.removed],
      (List.append_nil _).symm⟩
  | historyTrimmed removed retained now =>
    obtain ⟨hlength, rfl⟩ := post_trimmed_eq_some h
    refine ⟨rfl, ?_, (List.append_nil _).symm⟩
    show (l.retained.drop removed).length + (removed + 0) = l.retained.length + 0
    rw [List.length_drop]
    omega
  | fragmentRejected reason now =>
    obtain rfl := Option.some.inj h
    exact ⟨rfl, rfl, (List.append_nil _).symm⟩

theorem replay_counts {l m : Ledger} {log : List EngineEvent} (h : l.replay log = some m) :
    m.recorded = l.recorded + recordings log ∧
      m.retained.length + removals log = l.retained.length + recordings log ∧
      m.names = l.names ++ discoveries log := by
  induction log generalizing l with
  | nil =>
    obtain rfl := Option.some.inj h
    exact ⟨rfl, rfl, (List.append_nil _).symm⟩
  | cons ev rest ih =>
    obtain ⟨k, hk, hm⟩ := replay_cons_eq_some h
    obtain ⟨hr, hl, hn⟩ := post_counts hk
    obtain ⟨hr', hl', hn'⟩ := ih hm
    have hrec : recordings (ev :: rest) = recordings [ev] + recordings rest := by
      show ([ev] ++ rest).countP isRecording = _
      rw [List.countP_append]
      rfl
    have hrem : removals (ev :: rest) = removals [ev] + removals rest := rfl
    have hdis : discoveries (ev :: rest) = discoveries [ev] ++ discoveries rest := by
      show ([ev] ++ rest).filterMap discovered? = _
      rw [List.filterMap_append]
      rfl
    refine ⟨by omega, by omega, ?_⟩
    rw [hn', hn, hdis, List.append_assoc]

theorem nodup_names_of_replay {l m : Ledger} {log : List EngineEvent} (hl : l.names.Nodup)
    (h : l.replay log = some m) : m.names.Nodup := by
  induction log generalizing l with
  | nil =>
    obtain rfl := Option.some.inj h
    exact hl
  | cons ev rest ih =>
    obtain ⟨k, hk, hm⟩ := replay_cons_eq_some h
    refine ih ?_ hm
    rw [(post_counts hk).2.2]
    cases ev with
    | candidateDiscovered name fragment confidence now =>
      have hnew : name ∉ l.names := standing?_eq_none_iff.mp (post_discovered_eq_some hk).1
      refine List.nodup_append.mpr ⟨hl, List.nodup_cons.mpr ⟨List.not_mem_nil, .nil⟩, ?_⟩
      rintro a ha b hb rfl
      exact hnew (List.mem_singleton.mp hb ▸ ha)
    | _ =>
      show (l.names ++ []).Nodup
      rw [List.append_nil]
      exact hl

theorem mem_discoveries_of_observed {l m : Ledger} {before rest : List EngineEvent} {name : String}
    {fragment : Uuid} {occurrences : Nat} {confidence : Float} {now : Timestamp}
    (h : l.replay (before ++ .candidateObserved name fragment occurrences confidence now :: rest) =
      some m) : name ∈ l.names ++ discoveries before := by
  obtain ⟨k, hk, hm⟩ := replay_append_eq_some h
  obtain ⟨j, hj, -⟩ := replay_cons_eq_some hm
  obtain ⟨⟨c, hc, -⟩, -⟩ := post_observed_eq_some hj
  rw [← (replay_counts hk).2.2]
  refine Decidable.not_not.mp fun hout => ?_
  rw [standing?_eq_none_iff.mpr hout] at hc
  cases hc

theorem retained_of_trimmed {l m : Ledger} {before rest : List EngineEvent} {removed retained : Nat}
    {now : Timestamp}
    (h : l.replay (before ++ .historyTrimmed removed retained now :: rest) = some m) :
    l.retained.length + recordings before = removals before + removed + retained := by
  obtain ⟨k, hk, hm⟩ := replay_append_eq_some h
  obtain ⟨j, hj, -⟩ := replay_cons_eq_some hm
  have hlen := (replay_counts hk).2.1
  have hall := (post_trimmed_eq_some hj).1
  omega

end Ledger
end Motif
