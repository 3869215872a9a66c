import Mathlib.Data.List.Nodup
import Mathlib.Data.Prod.Lex
import Mathlib.Data.String.Basic
import Motif.Proofs.Retention

/-!
How often a candidate was proposed.  Three stores count proposals: the watchlist over all commits,
the emerging candidates over the retained records, and the share of a name over the same records.
Each commit counts once for a name, however many proposals it makes under it, so that all three
are counts of commits.
-/

namespace Motif

/-! ## Sightings of one name -/

namespace Watchlist

/-- How often a name was seen, if it was. -/
def sightings (w : Watchlist) (name : String) : Option Nat := (w.get? name).map (·.occurrences)

theorem mem_names_iff (w : Watchlist) (name : String) :
    name ∈ w.candidates.map (·.name) ↔ (w.get? name).isSome := by
  rw [get?, List.find?_isSome, List.mem_map]
  simp only [beq_iff_eq]

/-- A sighting adds its name behind the others, unless it is there. -/
theorem names_observe (w : Watchlist) (n description : String) (confidence : Float)
    (fragment : Uuid) (now : Timestamp) :
    (w.observe n description confidence fragment now).1.candidates.map (·.name) =
      if n ∈ w.candidates.map (·.name) then w.candidates.map (·.name)
      else w.candidates.map (·.name) ++ [n] := by
  cases hn : w.get? n with
  | some c =>
    have hsame (a : Candidate) : (a.observe fragment now w.nudge w.cap).name = a.name := rfl
    have hknown : n ∈ w.candidates.map (·.name) := by rw [mem_names_iff, hn, Option.isSome_some]
    rw [observe_of_some hn, Sequence.map_changeFirst hsame, if_pos hknown]
  | none =>
    have hnew : n ∉ w.candidates.map (·.name) := by
      rw [mem_names_iff, hn]
      exact Bool.false_ne_true
    rw [observe_of_none hn, List.map_append, if_neg hnew]
    rfl

theorem nodup_names_observe {w : Watchlist} (h : (w.candidates.map (·.name)).Nodup)
    (n description : String) (confidence : Float) (fragment : Uuid) (now : Timestamp) :
    ((w.observe n description confidence fragment now).1.candidates.map (·.name)).Nodup := by
  rw [names_observe]
  split
  · exact h
  · next hnew =>
    rw [← List.concat_eq_append]
    exact h.concat hnew

theorem nodup_names_learn (fragment : Uuid) (now : Timestamp) {w : Watchlist}
    (h : (w.candidates.map (·.name)).Nodup) (ps : List Proposal) :
    ((w.learn fragment now ps).1.candidates.map (·.name)).Nodup := by
  induction ps generalizing w with
  | nil => exact h
  | cons p rest ih => exact ih (nodup_names_observe h _ _ _ _ _)

theorem sightings_observe (w : Watchlist) (n description : String) (confidence : Float)
    (fragment : Uuid) (now : Timestamp) (name : String) :
    (w.observe n description confidence fragment now).1.sightings name =
      if name = n then some ((w.sightings name).getD 0 + 1) else w.sightings name := by
  rw [sightings, get?_observe]
  by_cases hname : name = n
  · subst hname
    rw [if_pos rfl, if_pos rfl, sightings]
    cases hn : w.get? name with
    | some c =>
      rw [observe_of_some hn]
      rfl
    | none =>
      rw [observe_of_none hn]
      rfl
  · rw [if_neg hname, if_neg hname, sightings]

theorem sightings_learn (fragment : Uuid) (now : Timestamp) (w : Watchlist) {ps : List Proposal}
    (h : (ps.map (·.name)).Nodup) (name : String) :
    (w.learn fragment now ps).1.sightings name =
      if name ∈ ps.map (·.name) then some ((w.sightings name).getD 0 + 1)
      else w.sightings name := by
  induction ps generalizing w with
  | nil => rfl
  | cons p rest ih =>
    obtain ⟨hp, hrest⟩ := List.nodup_cons.mp h
    rw [learn, ih _ hrest, sightings_observe, List.map_cons]
    by_cases hname : name = p.name
    · subst hname
      rw [if_neg hp, if_pos rfl, if_pos List.mem_cons_self]
    · simp only [List.mem_cons, hname, false_or, if_false]

end Watchlist

/-! ## Proposals of one commit -/

namespace Commit

def proposes (k : Commit) (name : String) : Bool :=
  (k.evaluation.proposed.map (·.name)).contains name

/-- Whether a pattern or a candidate of the name was found. -/
def finds (k : Commit) (name : String) : Bool :=
  (k.evaluation.matched.map (·.pattern)).contains name || k.proposes name

theorem mem_names_distinct (k : Commit) (name : String) :
    name ∈ (Proposal.distinct k.evaluation.proposed).map (·.name) ↔ k.proposes name = true := by
  rw [Proposal.mem_names_distinct, proposes, List.contains_iff_mem]

theorem contains_proposed (k : Commit) (name : String) :
    k.record.proposed.contains name = k.proposes name := by
  rw [(Course.record_spec k).2.2, Bool.eq_iff_iff, List.contains_iff_mem, List.mem_eraseDups,
    proposes, List.contains_iff_mem]

theorem mentions_record (k : Commit) (name : String) : k.record.mentions name = k.finds name := by
  rw [Record.mentions, contains_proposed, finds]
  rfl

theorem count_proposed (k : Commit) (name : String) :
    k.record.proposed.count name = if k.proposes name then 1 else 0 := by
  have hnodup : k.record.proposed.Nodup := Sequence.nodup_distinct _
  rw [hnodup.count]
  simp only [← k.contains_proposed name, List.contains_iff_mem]

end Commit

namespace Course

theorem Leads.nodup_names {e f : Engine} {commits : List Commit} (h : Leads e commits f)
    (he : e.watchlist.candidates = []) : (f.watchlist.candidates.map (·.name)).Nodup := by
  induction h with
  | nil =>
    rw [he]
    exact List.nodup_nil
  | @snoc earlier k h ih =>
    rw [k.watchlist_after]
    exact Watchlist.nodup_names_learn _ _ ih _

/-- The watchlist counts the commits that proposed a name. -/
theorem Leads.sightings {e f : Engine} {commits : List Commit} (h : Leads e commits f)
    (he : e.watchlist.candidates = []) (name : String) :
    f.watchlist.sightings name =
      if commits.countP (·.proposes name) = 0 then none
      else some (commits.countP (·.proposes name)) := by
  induction h with
  | nil =>
    rw [Watchlist.sightings, Watchlist.get?, he]
    rfl
  | @snoc earlier k h ih =>
    have hnodup := Proposal.nodup_names_distinct k.evaluation.proposed
    rw [k.watchlist_after, Watchlist.sightings_learn _ _ _ hnodup, ih, List.countP_append,
      List.countP_singleton]
    by_cases hk : k.proposes name = true
    · rw [if_pos ((k.mem_names_distinct name).mpr hk), if_pos hk, if_neg (Nat.succ_ne_zero _)]
      split
      · next hzero => rw [hzero]; rfl
      · rfl
    · rw [if_neg fun hin => hk ((k.mem_names_distinct name).mp hin), if_neg hk, Nat.add_zero]

end Course

/-! ## Emerging candidates -/

/-- What is sorted by comparing keys has its keys in order. -/
theorem Sequence.pairwise_key_mergeSort {α κ : Type} [LinearOrder κ] {rank : α → α → Ordering}
    {key : α → κ} {l : List α} (h : ∀ a ∈ l, ∀ b ∈ l, rank a b = compare (key a) (key b)) :
    (l.mergeSort fun a b => rank a b != .gt).Pairwise fun a b => key a ≤ key b := by
  have hrank : ∀ a ∈ l, ∀ b ∈ l, (rank a b != .gt) = decide (key a ≤ key b) := by
    intro a ha b hb
    rw [Bool.eq_iff_iff, bne_iff_ne, h a ha b hb, decide_eq_true_iff]
    exact compare_le_iff_le
  have hkeys : (l.mergeSort fun a b => rank a b != .gt).map key =
      (l.map key).mergeSort fun x y => decide (x ≤ y) := List.map_mergeSort hrank
  rw [← List.pairwise_map, hkeys]
  refine (List.pairwise_mergeSort ?_ ?_ _).imp fun hle => of_decide_eq_true hle
  · intro x y z hxy hyz
    exact decide_eq_true ((of_decide_eq_true hxy).trans (of_decide_eq_true hyz))
  · intro x y
    rw [Bool.or_eq_true, decide_eq_true_iff, decide_eq_true_iff]
    exact le_total x y

/-- What has its keys in order and no name twice is in any order that keys and names decide. -/
theorem Sequence.pairwise_of_keys {α κ : Type} [LE κ] {key : α → κ} {name : α → String}
    {R : α → α → Prop} {l : List α} (hsorted : l.Pairwise fun a b => key a ≤ key b)
    (hnames : (l.map name).Nodup)
    (h : ∀ a ∈ l, ∀ b ∈ l, key a ≤ key b → name a ≠ name b → R a b) : l.Pairwise R := by
  have hdistinct : l.Pairwise fun a b => name a ≠ name b := List.pairwise_map.mp hnames
  exact (hsorted.and hdistinct).imp_of_mem fun ha hb ⟨hle, hne⟩ => h _ ha _ hb hle hne

namespace Emerging

/-- Where a candidate stands in the ranking. -/
def key (x : Emerging) : ℕᵒᵈ ×ₗ String := toLex (OrderDual.toDual x.occurrences, x.name)

theorem rank_eq_compare (x y : Emerging) : rank x y = compare x.key y.key := by
  show _ = (compare _ _).then (compare _ _)
  rfl

/-- Most occurrences first, and by name among equally many. -/
def Precedes (x y : Emerging) : Prop :=
  y.occurrences < x.occurrences ∨ x.occurrences = y.occurrences ∧ x.name < y.name

theorem precedes_of_key_le {x y : Emerging} (h : x.key ≤ y.key) (hne : x.name ≠ y.name) :
    x.Precedes y := by
  rcases Prod.Lex.toLex_le_toLex.mp h with hlt | ⟨heq, hle⟩
  · exact Or.inl hlt
  · exact Or.inr ⟨heq, lt_of_le_of_ne hle hne⟩

end Emerging

namespace History

theorem mem_tally {names : List String} {name : String} {k : Nat} :
    (name, k) ∈ tally names ↔ name ∈ names ∧ k = names.count name := by
  rw [tally, List.mem_map]
  constructor
  · rintro ⟨n, hn, heq⟩
    obtain ⟨rfl, rfl⟩ := Prod.mk.inj heq
    exact ⟨WordSet.mem_ofList.mp hn, rfl⟩
  · rintro ⟨hin, rfl⟩
    exact ⟨name, WordSet.mem_ofList.mpr hin, rfl⟩

theorem nodup_names_tally (names : List String) : ((tally names).map (·.1)).Nodup := by
  rw [tally, List.map_map]
  show ((WordSet.ofList names).words.map id).Nodup
  rw [List.map_id]
  exact (WordSet.ofList names).sorted.imp fun h => ne_of_lt h

/-- In how many places of the retained records a name was proposed. -/
def proposals (h : History) (name : String) : Nat :=
  (h.records.flatMap (·.proposed)).count name

theorem mem_emerging {h : History} {x : Emerging} :
    x ∈ h.emerging ↔
      Emerging.threshold ≤ h.proposals x.name ∧ x = Emerging.make x.name (h.proposals x.name) := by
  rw [emerging, (List.mergeSort_perm _ _).mem_iff, List.mem_map]
  constructor
  · rintro ⟨⟨name, k⟩, hmem, rfl⟩
    obtain ⟨hin, hk⟩ := List.mem_filter.mp hmem
    obtain ⟨-, rfl⟩ := mem_tally.mp hin
    exact ⟨of_decide_eq_true hk, rfl⟩
  · rintro ⟨hk, hx⟩
    have hpos : 0 < h.proposals x.name := Nat.lt_of_lt_of_le Nat.two_pos hk
    refine ⟨(x.name, h.proposals x.name), List.mem_filter.mpr ⟨?_, decide_eq_true hk⟩, hx.symm⟩
    exact mem_tally.mpr ⟨List.count_pos_iff.mp hpos, rfl⟩

theorem exists_emerging_iff {h : History} {name : String} {k : Nat} :
    (∃ x ∈ h.emerging, x.name = name ∧ x.occurrences = k) ↔
      Emerging.threshold ≤ k ∧ k = h.proposals name := by
  constructor
  · rintro ⟨x, hx, rfl, rfl⟩
    obtain ⟨hk, heq⟩ := mem_emerging.mp hx
    have hcount : x.occurrences = h.proposals x.name := by
      rw [heq]
      rfl
    exact ⟨hcount ▸ hk, hcount⟩
  · rintro ⟨hk, rfl⟩
    exact ⟨Emerging.make name _, mem_emerging.mpr ⟨hk, rfl⟩, rfl, rfl⟩

theorem nodup_names_emerging (h : History) : (h.emerging.map (·.name)).Nodup := by
  rw [emerging, ((List.mergeSort_perm _ _).map _).nodup_iff, List.map_map]
  refine List.Nodup.sublist (List.filter_sublist.map _) ?_
  exact nodup_names_tally (h.records.flatMap (·.proposed))

theorem pairwise_emerging (h : History) : h.emerging.Pairwise Emerging.Precedes := by
  have hsorted : h.emerging.Pairwise fun x y => x.key ≤ y.key :=
    Sequence.pairwise_key_mergeSort fun x _ y _ => Emerging.rank_eq_compare x y
  exact Sequence.pairwise_of_keys hsorted h.nodup_names_emerging
    fun _ _ _ _ hle hne => Emerging.precedes_of_key_le hle hne

end History

/-! ## The three counts -/

namespace Course

theorem count_flatMap_record (commits : List Commit) (name : String) :
    ((commits.map (·.record)).flatMap (·.proposed)).count name =
      commits.countP (·.proposes name) := by
  induction commits with
  | nil => rfl
  | cons k rest ih =>
    rw [List.map_cons, List.flatMap_cons, List.count_append, ih, k.count_proposed,
      List.countP_cons, Nat.add_comm]

theorem length_filter_mentions (commits : List Commit) (name : String) :
    ((commits.map (·.record)).filter (·.mentions name)).length =
      commits.countP (·.finds name) := by
  rw [← List.countP_eq_length_filter, List.countP_map]
  refine List.countP_congr fun k _ => ?_
  show k.record.mentions name = true ↔ _
  rw [k.mentions_record]

theorem Recorded.proposals {s : EngineSettings} {commits : List Commit} {e : Engine}
    (h : Recorded s commits e) (name : String) :
    e.history.proposals name =
      (Sequence.latest (max s.retentionWindow 1) commits).countP (·.proposes name) := by
  rw [History.proposals, h.records, Sequence.latest_map, count_flatMap_record]

theorem Recorded.share {s : EngineSettings} {commits : List Commit} {e : Engine}
    (h : Recorded s commits e) (name : String) :
    e.share name =
      if commits.length = 0 then 0.0
      else Confidence.ratio
        ((Sequence.latest (max s.retentionWindow 1) commits).countP (·.finds name))
        (min commits.length (max s.retentionWindow 1)) := by
  have hlength := h.size.2
  have hcount : (e.history.records.filter (·.mentions name)).length =
      (Sequence.latest (max s.retentionWindow 1) commits).countP (·.finds name) := by
    rw [h.records, Sequence.latest_map, length_filter_mentions]
  have hempty : e.history.records.isEmpty = true ↔ commits.length = 0 := by
    rw [List.isEmpty_iff_length_eq_zero, hlength]
    omega
  rw [Engine.share, History.share, hcount, hlength]
  simp only [hempty]

theorem isSome_candidate?_iff {e f : Engine} {commits : List Commit} (h : Leads e commits f)
    (he : e.watchlist.candidates = []) (name : String) :
    (f.candidate? name).isSome ↔ ∃ k ∈ commits, k.proposes name = true := by
  have hsightings := h.sightings he name
  have hsome : (f.candidate? name).isSome = (f.watchlist.sightings name).isSome := by
    rw [Engine.candidate?, Watchlist.sightings, Option.isSome_map]
  rw [hsome, hsightings, ← List.countP_pos_iff]
  split
  · next hzero => simp [hzero]
  · next hpos => simp [Nat.pos_of_ne_zero hpos]

theorem occurrences_candidate? {e f : Engine} {commits : List Commit} (h : Leads e commits f)
    (he : e.watchlist.candidates = []) {name : String} {c : Candidate}
    (hc : f.candidate? name = some c) : c.occurrences = commits.countP (·.proposes name) := by
  have hsightings := h.sightings he name
  rw [Watchlist.sightings, show f.watchlist.get? name = some c from hc] at hsightings
  split at hsightings
  · cases hsightings
  · exact Option.some.inj hsightings

/-- Watchlist, emerging candidates and shares all count commits: the first over the whole course,
the others over the commits that the history retains. -/
theorem promotion_counts_commits (s : EngineSettings) (c : Catalog) (d : Detector)
    (moves : List Move) :
    let run := (start (Engine.assemble s c d)).run moves
    let n := run.commits.length
    let w := max s.retentionWindow 1
    let last := run.commits.drop (n - w)
    (run.engine.candidates.map (·.name)).Nodup ∧
    (∀ name, name ∈ run.engine.candidates.map (·.name) ↔
      ∃ k ∈ run.commits, k.proposes name = true) ∧
    (∀ name, (run.engine.candidate? name).isSome ↔ ∃ k ∈ run.commits, k.proposes name = true) ∧
    (∀ name x, run.engine.candidate? name = some x →
      x.occurrences = run.commits.countP (·.proposes name)) ∧
    (run.engine.emerging.map (·.name)).Nodup ∧
    run.engine.emerging.Pairwise Emerging.Precedes ∧
    (∀ name k, (∃ x ∈ run.engine.emerging, x.name = name ∧ x.occurrences = k) ↔
      2 ≤ k ∧ k = last.countP (·.proposes name)) ∧
    (n ≤ w → ∀ name k, (∃ x ∈ run.engine.emerging, x.name = name ∧ x.occurrences = k) ↔
      2 ≤ k ∧ ∃ x, run.engine.candidate? name = some x ∧ x.occurrences = k) ∧
    ∀ name, run.engine.share name =
      if n = 0 then 0.0 else Confidence.ratio (last.countP (·.finds name)) (min n w) := by
  intro run n w last
  have hleads : Leads _ run.commits run.engine := leads_run _ moves
  have hrecorded : Recorded s run.commits run.engine := hleads.recorded (recorded_assemble s c d)
  have hlast : Sequence.latest w run.commits = last := rfl
  have hsome := isSome_candidate?_iff hleads rfl
  have hoccurrences (name : String) (x : Candidate) (hx : run.engine.candidate? name = some x) :=
    occurrences_candidate? hleads rfl hx
  have hemerging (name : String) (k : Nat) :
      (∃ x ∈ run.engine.emerging, x.name = name ∧ x.occurrences = k) ↔
        2 ≤ k ∧ k = last.countP (·.proposes name) := by
    rw [← hlast, ← hrecorded.proposals name]
    exact History.exists_emerging_iff
  have hranked := (List.mergeSort_perm run.engine.watchlist.candidates
    (fun a b => Candidate.rank a b != .gt)).map (·.name)
  refine ⟨hranked.nodup_iff.mpr (hleads.nodup_names rfl), fun name => ?_, hsome, hoccurrences,
    History.nodup_names_emerging _, History.pairwise_emerging _, hemerging, ?_, hrecorded.share⟩
  · rw [← hsome name]
    exact hranked.mem_iff.trans (Watchlist.mem_names_iff _ name)
  intro hn name k
  have hall : last = run.commits := by
    show run.commits.drop (n - w) = _
    rw [Nat.sub_eq_zero_of_le hn, List.drop_zero]
  rw [hemerging, hall]
  refine and_congr_right fun hk => ?_
  constructor
  · intro heq
    have hpos : 0 < run.commits.countP (·.proposes name) := by omega
    obtain ⟨x, hx⟩ := Option.isSome_iff_exists.mp ((hsome name).mpr (List.countP_pos_iff.mp hpos))
    exact ⟨x, hx, (hoccurrences name x hx).trans heq.symm⟩
  · rintro ⟨x, hx, rfl⟩
    exact hoccurrences name x hx

end Course
end Motif
