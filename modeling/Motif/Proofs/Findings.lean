import Motif.Proofs.Learning

/-!
What evaluating finds.  Recognising reads the names and indicators of the catalog and the code, and
nothing else: base confidences decide the order of the matches and their numbers, but never which
patterns match.  Proposing reads the code and whether anything matched.
-/

namespace Motif

/-! ## Recognised patterns -/

/-- Whether one of the indicators occurs in a text in lower case. -/
def Pattern.occursIn (text : List Char) (p : Pattern) : Bool :=
  p.indicators.words.any fun i => Text.includes text i.toList

/-- The names of the patterns that occur in the code, in the order of the catalog. -/
def Catalog.recognised (c : Catalog) (code : String) : List String :=
  (c.patterns.filter (·.occursIn (Text.lower code.toList))).map (·.name)

/-- Catalogs of equal outlines recognise the same, whatever the base confidences. -/
theorem Catalog.recognised_congr {c d : Catalog} (h : c.outlines = d.outlines) (code : String) :
    c.recognised code = d.recognised code := by
  have read (e : Catalog) : e.recognised code =
      (e.outlines.filter fun o =>
        o.2.1.words.any fun i => Text.includes (Text.lower code.toList) i.toList).map (·.1) := by
    rw [recognised, outlines, List.filter_map, List.map_map]
    rfl
  rw [read c, read d, h]

namespace Matcher

theorem map_pattern_match? (m : Matcher) (text : List Char) (p : Pattern) :
    (m.match? text p).map (·.pattern) = if p.occursIn text then some p.name else none := by
  have hsome : p.occursIn text = !(p.indicators.words.filter fun i =>
      Text.includes text i.toList).isEmpty := by
    rw [Pattern.occursIn, Bool.eq_iff_iff, Bool.not_eq_true', List.any_eq_true,
      List.isEmpty_eq_false_iff]
    constructor
    · rintro ⟨i, hi, hin⟩
      exact List.ne_nil_of_mem (List.mem_filter.mpr ⟨hi, hin⟩)
    · intro hne
      obtain ⟨i, hi⟩ := List.exists_mem_of_ne_nil _ hne
      exact ⟨i, List.mem_filter.mp hi⟩
  rw [hsome, match?]
  by_cases h : (p.indicators.words.filter fun i => Text.includes text i.toList).isEmpty = true
  · rw [if_pos h, h]
    rfl
  · rw [if_neg h, Bool.eq_false_iff.mpr h]
    rfl

/-- The matches of a code are the recognised patterns, in some order. -/
theorem score_perm_recognised (m : Matcher) (c : Catalog) (code : String) :
    ((m.score c code).map (·.pattern)).Perm (c.recognised code) := by
  have found (ps : List Pattern) (text : List Char) :
      (ps.filterMap (m.match? text)).map (·.pattern) =
        (ps.filter (·.occursIn text)).map (·.name) := by
    induction ps with
    | nil => rfl
    | cons p rest ih =>
      have hp := map_pattern_match? m text p
      cases ho : p.occursIn text with
      | false =>
        rw [ho, if_neg Bool.false_ne_true, Option.map_eq_none_iff] at hp
        rw [List.filterMap_cons_none hp, List.filter_cons_of_neg (Bool.eq_false_iff.mp ho), ih]
      | true =>
        rw [ho, if_pos rfl] at hp
        obtain ⟨found, hfound, hname⟩ := Option.map_eq_some_iff.mp hp
        rw [List.filterMap_cons_some hfound, List.filter_cons_of_pos ho, List.map_cons,
          List.map_cons, ih, hname]
  have hsort := (List.mergeSort_perm (c.patterns.filterMap (m.match? (Text.lower code.toList)))
    (fun a b => Match.rank a b != .gt)).map (·.pattern)
  rw [found] at hsort
  exact hsort

end Matcher

/-! ## Accepted code -/

namespace Fragment

def Accepts (least : Nat) (code : String) : Prop := measure code ≠ 0 ∧ least ≤ measure code

def fresh (stamp : Stamp) (code : String) (context : Context) : Fragment :=
  { id := stamp.id, code, features := Features.ofText code, context
    confidence := initialConfidence, time := stamp.time }

theorem make_eq_ok {stamp : Stamp} {code : String} {context : Context} {least : Nat} {f : Fragment}
    (h : make stamp code context least = .ok f) :
    Accepts least code ∧ f = fresh stamp code context := by
  simp only [make] at h
  split at h
  · cases h
  · next hzero =>
    split at h
    · cases h
    · next hleast => exact ⟨⟨hzero, Nat.not_lt.mp hleast⟩, (Except.ok.inj h).symm⟩

theorem make_of_accepts (stamp : Stamp) {code : String} (context : Context) {least : Nat}
    (h : Accepts least code) : make stamp code context least = .ok (fresh stamp code context) := by
  show (if _ then _ else if _ then _ else _) = _
  rw [if_neg h.1, if_neg (Nat.not_lt.mpr h.2)]
  rfl

end Fragment

namespace Engine

/-- An evaluation holds the matches of the code, the fragment reinforced once for each of them, and
what is proposed for both. -/
theorem evaluate_eq_ok {e : Engine} {stamp : Stamp} {code : String} {context : Context}
    {v : Evaluation} (h : e.evaluate stamp code context = .ok v) :
    v.matched = e.matcher.score e.catalog code ∧
      v.fragment = (Fragment.fresh stamp code context).reinforceTimes e.matcher.reinforcement
        v.matched.length ∧
      v.proposed = e.detector.detect v.fragment v.matched := by
  unfold evaluate at h
  split at h
  · cases h
  · next f hf =>
    obtain ⟨-, rfl⟩ := Fragment.make_eq_ok hf
    obtain rfl := Except.ok.inj h
    exact ⟨rfl, rfl, rfl⟩

/-- Whether an evaluation is made depends on the code and on the least length alone. -/
theorem exists_evaluate_iff (e : Engine) (stamp : Stamp) (code : String) (context : Context) :
    (∃ v, e.evaluate stamp code context = .ok v) ↔
      Fragment.Accepts e.settings.minFragmentLength code := by
  constructor
  · rintro ⟨v, h⟩
    unfold evaluate at h
    split at h
    · cases h
    · next f hf => exact (Fragment.make_eq_ok hf).1
  · intro h
    rw [evaluate, Fragment.make_of_accepts stamp context h]
    exact ⟨_, rfl⟩

end Engine
end Motif
