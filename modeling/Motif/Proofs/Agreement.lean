import Mathlib.Data.List.Forall2
import Motif.Proofs.Findings

/-!
Engines that agree.  Two engines agree when they know the same patterns, have seen the same
candidates equally often with the same confidences, and retain records of the same findings; they
may differ in the identifiers and times of what they were given, in the confidences of the records
and in the order of the matches inside a record.  Agreement is kept when both commit evaluations of
the same findings, whatever the confidences in the two evaluations.
-/

namespace Motif

/-! ## The relations -/

structure Fragment.Agrees (f g : Fragment) : Prop where
  code : f.code = g.code
  features : f.features = g.features
  context : f.context = g.context
  confidence : f.confidence = g.confidence

structure Evaluation.Agrees (v w : Evaluation) : Prop where
  fragment : v.fragment.Agrees w.fragment
  matched : (v.matched.map (·.pattern)).Perm (w.matched.map (·.pattern))
  proposed : v.proposed = w.proposed

structure Candidate.Agrees (c d : Candidate) : Prop where
  name : c.name = d.name
  description : c.description = d.description
  confidence : c.confidence = d.confidence
  occurrences : c.occurrences = d.occurrences
  fragments : c.fragments.length = d.fragments.length

structure Watchlist.Agrees (w x : Watchlist) : Prop where
  candidates : List.Forall₂ Candidate.Agrees w.candidates x.candidates
  cap : w.cap = x.cap
  nudge : w.nudge = x.nudge

structure Record.Agrees (r s : Record) : Prop where
  matched : r.matched.Perm s.matched
  proposed : r.proposed = s.proposed

structure History.Agrees (h i : History) : Prop where
  fragments : List.Forall₂ Fragment.Agrees h.fragments i.fragments
  records : List.Forall₂ Record.Agrees h.records i.records
  window : h.window = i.window
  totalAnalyses : h.totalAnalyses = i.totalAnalyses

structure Engine.Agrees (e f : Engine) : Prop where
  settings : e.settings = f.settings
  matcher : e.matcher = f.matcher
  detector : e.detector = f.detector
  catalog : e.catalog = f.catalog
  watchlist : e.watchlist.Agrees f.watchlist
  history : e.history.Agrees f.history
  observations : e.observations = f.observations

theorem Fragment.Agrees.refl (f : Fragment) : f.Agrees f := ⟨rfl, rfl, rfl, rfl⟩

theorem Candidate.Agrees.refl (c : Candidate) : c.Agrees c := ⟨rfl, rfl, rfl, rfl, rfl⟩

theorem Record.Agrees.refl (r : Record) : r.Agrees r := ⟨List.Perm.refl _, rfl⟩

theorem Engine.Agrees.refl (e : Engine) : e.Agrees e :=
  { settings := rfl, matcher := rfl, detector := rfl, catalog := rfl
    watchlist :=
      { candidates := List.forall₂_same.mpr fun c _ => .refl c, cap := rfl, nudge := rfl }
    history :=
      { fragments := List.forall₂_same.mpr fun f _ => .refl f
        records := List.forall₂_same.mpr fun r _ => .refl r
        window := rfl, totalAnalyses := rfl }
    observations := rfl }

/-! ## Lists of related items -/

namespace Sequence

variable {α β : Type} {R : α → β → Prop}

theorem forall₂_latest {l : List α} {m : List β} (n : Nat) (h : List.Forall₂ R l m) :
    List.Forall₂ R (latest n l) (latest n m) := by
  rw [latest, latest, h.length_eq]
  exact List.forall₂_drop _ h

theorem forall₂_snoc {l : List α} {m : List β} {a : α} {b : β} (h : List.Forall₂ R l m)
    (hab : R a b) : List.Forall₂ R (l ++ [a]) (m ++ [b]) :=
  List.rel_append h (.cons hab .nil)

variable {p : α → Bool} {q : β → Bool}

theorem forall₂_changeFirst {f : α → α} {g : β → β} {l : List α} {m : List β}
    (h : List.Forall₂ R l m) (hpq : ∀ a b, R a b → p a = q b) (hfg : ∀ a b, R a b → R (f a) (g b)) :
    List.Forall₂ R (changeFirst p f l) (changeFirst q g m) := by
  induction h with
  | nil => exact .nil
  | @cons a b l m hab hlm ih =>
    rw [changeFirst, changeFirst, hpq a b hab]
    split
    · exact .cons (hfg a b hab) hlm
    · exact .cons hab ih

/-- A change of one item, when it stands in the relation to the item before. -/
theorem forall₂_changeFirst_self {S : α → α → Prop} {f : α → α} {l : List α}
    (h : ∀ a ∈ l, S a a ∧ S a (f a)) : List.Forall₂ S l (changeFirst p f l) := by
  induction l with
  | nil => exact .nil
  | cons a rest ih =>
    obtain ⟨hself, hchange⟩ := h a List.mem_cons_self
    have hrest : ∀ b ∈ rest, S b b ∧ S b (f b) := fun b hb => h b (List.mem_cons_of_mem a hb)
    rw [changeFirst]
    split
    · exact .cons hchange (List.forall₂_same.mpr fun b hb => (hrest b hb).1)
    · exact .cons hself (ih hrest)

theorem find?_eq_none_iff_of_forall₂ {l : List α} {m : List β} (h : List.Forall₂ R l m)
    (hpq : ∀ a b, R a b → p a = q b) : l.find? p = none ↔ m.find? q = none := by
  induction h with
  | nil => exact iff_of_true rfl rfl
  | @cons a b l m hab hlm ih =>
    rw [List.find?_cons, List.find?_cons, hpq a b hab]
    cases q b with
    | true => simp
    | false => exact ih

end Sequence

/-! ## Evaluating -/

theorem Fragment.Agrees.reinforceTimes {f g : Fragment} (h : f.Agrees g) (delta : Float)
    (count : Nat) : (f.reinforceTimes delta count).Agrees (g.reinforceTimes delta count) := by
  induction count generalizing f g with
  | zero => exact h
  | succ count ih =>
    refine ih ⟨h.code, h.features, h.context, ?_⟩
    show Confidence.clampUnit (Confidence.raised f.confidence delta) =
      Confidence.clampUnit (Confidence.raised g.confidence delta)
    rw [h.confidence]

theorem Detector.detect_congr (d : Detector) {f g : Fragment} (h : f.Agrees g) {ms ns : List Match}
    (hms : ms.isEmpty = ns.isEmpty) : d.detect f ms = d.detect g ns := by
  have hview : View.ofFragment f = View.ofFragment g := by
    rw [View.ofFragment, View.ofFragment, h.code, h.features]
  rw [detect, detect, hms, hview]

/-- Engines see alike when they differ at most in what they have learned. -/
structure Engine.SeesLike (e f : Engine) : Prop where
  settings : e.settings = f.settings
  matcher : e.matcher = f.matcher
  detector : e.detector = f.detector
  outlines : e.catalog.outlines = f.catalog.outlines

theorem Engine.SeesLike.symm {e f : Engine} (h : e.SeesLike f) : f.SeesLike e :=
  ⟨h.settings.symm, h.matcher.symm, h.detector.symm, h.outlines.symm⟩

theorem Engine.SeesLike.trans {e f g : Engine} (h : e.SeesLike f) (h' : f.SeesLike g) :
    e.SeesLike g :=
  ⟨h.settings.trans h'.settings, h.matcher.trans h'.matcher, h.detector.trans h'.detector,
    h.outlines.trans h'.outlines⟩

theorem Engine.Agrees.seesLike {e f : Engine} (h : e.Agrees f) : e.SeesLike f :=
  ⟨h.settings, h.matcher, h.detector, by rw [h.catalog]⟩

/-- Engines that see alike find the same in the same code. -/
theorem Engine.SeesLike.evaluate {e f : Engine} (h : e.SeesLike f) {s t : Stamp} {code : String}
    {context : Context} {v w : Evaluation} (hv : e.evaluate s code context = .ok v)
    (hw : f.evaluate t code context = .ok w) : v.Agrees w := by
  obtain ⟨hvm, hvf, hvp⟩ := evaluate_eq_ok hv
  obtain ⟨hwm, hwf, hwp⟩ := evaluate_eq_ok hw
  have hmatched : (v.matched.map (·.pattern)).Perm (w.matched.map (·.pattern)) := by
    rw [hvm, hwm]
    refine (e.matcher.score_perm_recognised e.catalog code).trans ?_
    rw [Catalog.recognised_congr h.outlines code]
    exact (f.matcher.score_perm_recognised f.catalog code).symm
  have hlength : v.matched.length = w.matched.length := by
    simpa using hmatched.length_eq
  have hfragment : v.fragment.Agrees w.fragment := by
    rw [hvf, hwf, h.matcher, hlength]
    have hfresh : (Fragment.fresh s code context).Agrees (Fragment.fresh t code context) :=
      ⟨rfl, rfl, rfl, rfl⟩
    exact hfresh.reinforceTimes f.matcher.reinforcement w.matched.length
  refine ⟨hfragment, hmatched, ?_⟩
  rw [hvp, hwp, h.detector]
  refine f.detector.detect_congr hfragment ?_
  rw [Bool.eq_iff_iff, List.isEmpty_iff_length_eq_zero, List.isEmpty_iff_length_eq_zero, hlength]

/-! ## Committing -/

theorem Candidate.Agrees.observe {c d : Candidate} (h : c.Agrees d) (i j : Uuid) (s t : Timestamp)
    (nudge cap : Float) : (c.observe i s nudge cap).Agrees (d.observe j t nudge cap) where
  name := h.name
  description := h.description
  confidence := by
    show Confidence.least (Confidence.raised c.confidence nudge) cap =
      Confidence.least (Confidence.raised d.confidence nudge) cap
    rw [h.confidence]
  occurrences := congrArg (· + 1) h.occurrences
  fragments := by
    show (Sequence.latest _ (c.fragments ++ [i])).length =
      (Sequence.latest _ (d.fragments ++ [j])).length
    rw [Sequence.length_latest, Sequence.length_latest, List.length_append, List.length_append,
      h.fragments]
    rfl

theorem Watchlist.Agrees.observe {w x : Watchlist} (h : w.Agrees x) (name description : String)
    (confidence : Float) (i j : Uuid) (s t : Timestamp) :
    (w.observe name description confidence i s).1.Agrees
      (x.observe name description confidence j t).1 := by
  have hname (c d : Candidate) (hcd : c.Agrees d) : (c.name == name) = (d.name == name) := by
    rw [hcd.name]
  have hnone := Sequence.find?_eq_none_iff_of_forall₂ h.candidates hname
  unfold Watchlist.observe
  cases hw : w.get? name with
  | none =>
    rw [show x.get? name = none from hnone.mp hw]
    refine ⟨Sequence.forall₂_snoc h.candidates ?_, h.cap, h.nudge⟩
    rw [h.cap]
    exact ⟨rfl, rfl, rfl, rfl, rfl⟩
  | some c =>
    cases hx : x.get? name with
    | none => rw [show w.get? name = none from hnone.mpr hx] at hw; cases hw
    | some d =>
      refine ⟨Sequence.forall₂_changeFirst h.candidates hname fun a b hab => ?_, h.cap, h.nudge⟩
      rw [h.cap, h.nudge]
      exact hab.observe i j s t x.nudge x.cap

theorem Watchlist.Agrees.learn {w x : Watchlist} (h : w.Agrees x) (ps : List Proposal) (i j : Uuid)
    (s t : Timestamp) : (w.learn i s ps).1.Agrees (x.learn j t ps).1 := by
  induction ps generalizing w x with
  | nil => exact h
  | cons p rest ih => exact ih (h.observe p.name p.description p.confidence i j s t)

theorem History.Agrees.add {h i : History} (hi : h.Agrees i) {f g : Fragment} (hf : f.Agrees g)
    {r s : Record} (hr : r.Agrees s) : (h.add f r).1.Agrees (i.add g s).1 where
  fragments := by
    show List.Forall₂ _ (Sequence.latest h.window _) (Sequence.latest i.window _)
    rw [hi.window]
    exact Sequence.forall₂_latest _ (Sequence.forall₂_snoc hi.fragments hf)
  records := by
    show List.Forall₂ _ (Sequence.latest h.window _) (Sequence.latest i.window _)
    rw [hi.window]
    exact Sequence.forall₂_latest _ (Sequence.forall₂_snoc hi.records hr)
  window := hi.window
  totalAnalyses := congrArg (· + 1) hi.totalAnalyses

namespace Engine

/-- Agreeing engines still agree when they have committed evaluations of the same findings. -/
theorem Agrees.commit {e f : Engine} (h : e.Agrees f) {v w : Evaluation} (hv : v.Agrees w)
    (s t : Timestamp) : (e.commit s v).engine.Agrees (f.commit t w).engine where
  settings := h.settings
  matcher := h.matcher
  detector := h.detector
  catalog := by
    show (e.catalog.learn _ _ _ _).1 = (f.catalog.learn _ _ _ _).1
    rw [h.settings, h.catalog]
    exact f.catalog.learn_perm hv.matched _ _
  watchlist := by
    show (e.watchlist.learn _ _ (Proposal.distinct v.proposed)).1.Agrees
      (f.watchlist.learn _ _ (Proposal.distinct w.proposed)).1
    rw [hv.proposed]
    exact h.watchlist.learn _ _ _ _ _
  history := by
    refine h.history.add hv.fragment ⟨hv.matched, ?_⟩
    show Sequence.distinct ((Proposal.distinct v.proposed).map (·.name)) =
      Sequence.distinct ((Proposal.distinct w.proposed).map (·.name))
    rw [hv.proposed]
  observations := congrArg (· + 1) h.observations

/-- Committing teaches, and what an engine sees does not hang on what it was taught. -/
theorem commit_seesLike (e : Engine) (now : Timestamp) (v : Evaluation) :
    (e.commit now v).engine.SeesLike e :=
  ⟨rfl, rfl, rfl, e.catalog.outlines_learn v.matched⟩

end Engine
end Motif
