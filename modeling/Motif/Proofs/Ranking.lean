import Motif.Proofs.CandidateCap
import Motif.Proofs.Commuting
import Motif.Proofs.Recognition

/-!
The ranking of candidates.  A watchlist takes every name once, and whatever nudge, confidences and
caps it is given, no confidence in it is ever no number.  So any two of its candidates are told
apart by the ranking, and the order in which they are enumerated leaves no trace.
-/

namespace Motif

open Double

/-- What the first of a list leave out comes behind all of them. -/
theorem Sequence.rel_of_mem_take {α : Type} {R : α → α → Prop} {l : List α} (h : l.Pairwise R)
    {n : Nat} {a b : α} (ha : a ∈ l.take n) (hb : b ∈ l) (hout : b ∉ l.take n) : R a b := by
  rw [← List.take_append_drop n l] at h hb
  exact (List.pairwise_append.mp h).2.2 a ha b ((List.mem_append.mp hb).resolve_left hout)

namespace Candidate

/-- Where a candidate stands in the ranking. -/
def key (c : Candidate) : ℕᵒᵈ ×ₗ (ℤ ×ₗ ℤ ×ₗ ℤ)ᵒᵈ ×ₗ String :=
  toLex (OrderDual.toDual c.occurrences,
    toLex (OrderDual.toDual (Double.rank c.confidence), c.name))

/-- Most sightings first, then most confidence, and by name when these are equal. -/
def Precedes (c d : Candidate) : Prop :=
  d.occurrences < c.occurrences ∨
    c.occurrences = d.occurrences ∧
      (d.confidence < c.confidence ∨
        (c.confidence ≤ d.confidence ∧ d.confidence ≤ c.confidence) ∧ c.name < d.name)

variable {c d : Candidate}

theorem rank_eq_compare (hc : IsNumber c.confidence) (hd : IsNumber d.confidence) :
    rank c d = compare c.key d.key := by
  rw [rank, Confidence.order_eq_compare hd hc]
  rfl

theorem precedes_of_key_le (hc : IsNumber c.confidence) (hd : IsNumber d.confidence)
    (h : c.key ≤ d.key) (hne : c.name ≠ d.name) : c.Precedes d := by
  rcases Prod.Lex.toLex_le_toLex.mp h with hlt | ⟨heq, hrest⟩
  · exact Or.inl (OrderDual.toDual_lt_toDual.mp hlt)
  · refine Or.inr ⟨OrderDual.toDual_inj.mp heq, ?_⟩
    rcases Prod.Lex.toLex_le_toLex.mp hrest with hlt | ⟨heq, hname⟩
    · exact Or.inl (lt_iff.mpr ⟨hd, hc, OrderDual.toDual_lt_toDual.mp hlt⟩)
    · have hrank := OrderDual.toDual_inj.mp heq
      refine Or.inr ⟨⟨le_iff.mpr ⟨hc, hd, hrank.le⟩, le_iff.mpr ⟨hd, hc, hrank.ge⟩⟩, ?_⟩
      exact lt_of_le_of_ne hname hne

theorem Precedes.asymm (h : c.Precedes d) : ¬d.Precedes c := by
  rcases h with hmore | ⟨hsame, hconfidence⟩
  · rintro (hless | ⟨heq, -⟩) <;> omega
  · rintro (hless | ⟨-, hconfidence'⟩)
    · omega
    rcases hconfidence with hgreater | ⟨⟨-, hge⟩, hname⟩
    · rcases hconfidence' with hless | ⟨⟨-, hge⟩, -⟩
      · exact not_lt_of_le (Double.le_of_lt hgreater) hless
      · exact not_lt_of_le hge hgreater
    · rcases hconfidence' with hless | ⟨-, hname'⟩
      · exact not_lt_of_le hge hless
      · exact lt_asymm hname hname'

end Candidate

namespace Watchlist

variable {w : Watchlist}

/-! ## What makes the ranking strict -/

/-- Names are taken once, and every confidence is a number. -/
structure Rankable (w : Watchlist) : Prop where
  names : (w.candidates.map (·.name)).Nodup
  numbers : ∀ c ∈ w.candidates, IsNumber c.confidence

theorem rankable_build (nudge : Float) (changes : List Change) :
    (build nudge changes).Rankable := by
  have hnames : ((build nudge changes).candidates.map (·.name)).Nodup := by
    rw [(faithful_build nudge changes).names]
    exact Sequence.nodup_eraseDups _
  refine ⟨hnames, fun c hc => ?_⟩
  have hget : (build nudge changes).get? c.name = some c := Sequence.find?_of_nodup hnames hc
  exact isNumber_right ((nonnegative_build nudge changes).confidence c.name c hget)

namespace Rankable

/-- The candidates in another order can be ranked as well. -/
theorem enumerated (h : w.Rankable) {l : List Candidate} (hl : l.Perm w.candidates) :
    { w with candidates := l }.Rankable where
  names := (hl.map (·.name)).nodup_iff.mpr h.names
  numbers := fun c hc => h.numbers c (hl.mem_iff.mp hc)

theorem pairwise_key_ranked (h : w.Rankable) : w.ranked.Pairwise fun c d => c.key ≤ d.key :=
  Sequence.pairwise_key_mergeSort fun c hc d hd =>
    Candidate.rank_eq_compare (h.numbers c hc) (h.numbers d hd)

theorem nodup_ranked (h : w.Rankable) : (w.ranked.map (·.name)).Nodup :=
  ((List.mergeSort_perm _ _).map _).nodup_iff.mpr h.names

theorem isNumber_of_mem_ranked (h : w.Rankable) : ∀ c ∈ w.ranked, IsNumber c.confidence :=
  fun c hc => h.numbers c ((List.mergeSort_perm _ _).mem_iff.mp hc)

theorem pairwise_ranked (h : w.Rankable) : w.ranked.Pairwise Candidate.Precedes :=
  Sequence.pairwise_of_keys h.pairwise_key_ranked h.nodup_ranked fun c hc d hd hle hne =>
    Candidate.precedes_of_key_le (h.isNumber_of_mem_ranked c hc) (h.isNumber_of_mem_ranked d hd)
      hle hne

theorem ranked_enumerated (h : w.Rankable) {l : List Candidate} (hl : l.Perm w.candidates) :
    { w with candidates := l }.ranked = w.ranked := by
  have hperm : ({ w with candidates := l } : Watchlist).ranked.Perm w.ranked :=
    (List.mergeSort_perm _ _).trans (hl.trans (List.mergeSort_perm _ _).symm)
  -- a strict order has one arrangement of the candidates
  exact List.Perm.eq_of_pairwise (fun c d _ _ hcd hdc => absurd hdc hcd.asymm)
    (h.enumerated hl).pairwise_ranked h.pairwise_ranked hperm

end Rankable

theorem length_top (w : Watchlist) (limit : Nat) : (w.top limit).length = min limit w.size := by
  rw [top, List.length_take, ranked, List.length_mergeSort]
  rfl

/-! ## Watchlists of engines -/

/-- What is observed of a proposal. -/
def Observation.ofProposal (fragment : Uuid) (now : Timestamp) (p : Proposal) : Observation :=
  ⟨p.name, p.description, p.confidence, fragment, now⟩

theorem learn_fst (fragment : Uuid) (now : Timestamp) (w : Watchlist) (ps : List Proposal) :
    (w.learn fragment now ps).1 = w.watch (ps.map (Observation.ofProposal fragment now)) := by
  induction ps generalizing w with
  | nil => rfl
  | cons p rest ih => exact ih (w.see (.ofProposal fragment now p)).1

end Watchlist

namespace Engine

open Watchlist

/-- An engine observes what the committed evaluations propose, each name once. -/
theorem exists_watch_commitAll (e : Engine) (ks : List (Timestamp × Evaluation)) :
    ∃ seen, (e.commitAll ks).watchlist = e.watchlist.watch seen := by
  induction ks generalizing e with
  | nil => exact ⟨[], rfl⟩
  | cons k rest ih =>
    obtain ⟨seen, hseen⟩ := ih (e.commit k.1 k.2).engine
    have hcommit : (e.commit k.1 k.2).engine.watchlist = e.watchlist.watch
        ((Proposal.distinct k.2.proposed).map (.ofProposal k.2.fragment.id k.1)) :=
      learn_fst ..
    refine ⟨(Proposal.distinct k.2.proposed).map (.ofProposal k.2.fragment.id k.1) ++ seen, ?_⟩
    rw [watch_append, ← hcommit]
    exact hseen

end Engine

namespace Watchlist

/-- The ranking of a watchlist is a strict one, and the same in whatever order the candidates are
enumerated. -/
structure StrictlyRanked (w : Watchlist) : Prop where
  numbers : ∀ c ∈ w.candidates, IsNumber c.confidence
  perm : w.ranked.Perm w.candidates
  strict : w.ranked.Pairwise Candidate.Precedes
  enumeration : ∀ l : List Candidate, l.Perm w.candidates →
    { w with candidates := l }.ranked = w.ranked
  top : ∀ limit, w.top limit <+: w.ranked ∧ (w.top limit).length = min limit w.size
  omitted : ∀ limit, ∀ c ∈ w.top limit, ∀ d ∈ w.candidates, d ∉ w.top limit →
    c.Precedes d ∧ ¬d.Precedes c

theorem Rankable.strictlyRanked {w : Watchlist} (h : w.Rankable) : w.StrictlyRanked where
  numbers := h.numbers
  perm := List.mergeSort_perm _ _
  strict := h.pairwise_ranked
  enumeration := fun _ hl => h.ranked_enumerated hl
  top := fun limit => ⟨List.take_prefix limit w.ranked, w.length_top limit⟩
  omitted := fun limit c hc d hd hout => by
    have hranked : d ∈ w.ranked := (List.mergeSort_perm _ _).mem_iff.mpr hd
    have hcd : c.Precedes d :=
      Sequence.rel_of_mem_take h.pairwise_ranked hc hranked hout
    exact ⟨hcd, hcd.asymm⟩

/-- Whatever is done to a watchlist, and whatever is committed to an engine under any settings, the
candidates are strictly ranked.  The summary of the engine names the first five. -/
theorem ranking_ignores_enumeration :
    (∀ (nudge : Float) (changes : List Change), (build nudge changes).StrictlyRanked) ∧
    ∀ (s : EngineSettings) (c : Catalog) (d : Detector) (ks : List (Timestamp × Evaluation)),
      let e := (Engine.assemble s c d).commitAll ks
      e.watchlist.StrictlyRanked ∧ e.candidates = e.watchlist.ranked ∧
        e.summary.topCandidates = e.watchlist.top 5 := by
  refine ⟨fun nudge changes => (rankable_build nudge changes).strictlyRanked,
    fun s c d ks => ⟨?_, rfl, rfl⟩⟩
  obtain ⟨seen, hseen⟩ := (Engine.assemble s c d).exists_watch_commitAll ks
  have hbuild : ((Engine.assemble s c d).commitAll ks).watchlist =
      build s.candidateNudge ([.withCap s.candidateCap] ++ seen.map .observe) :=
    hseen.trans (build_observe s.candidateNudge [.withCap s.candidateCap] seen).symm
  rw [hbuild]
  exact (rankable_build _ _).strictlyRanked

end Watchlist
end Motif
