import Motif.Proofs.Tokens

/-!
What correlating comes to.  Each of the three rules has its condition on the texts, and tells what
it found: an alignment the least token that a name shares with the purpose, a mismatch the anomalies
of code in which nothing was recognized, a validation the label that overlaps a name.  The matches
keep their order, and a mismatch stands alone.
-/

namespace Motif
namespace Correlation

/-! ## Tokens of texts -/

theorem piecesFrom_eq (piece : List Char) (done : List (List Char)) (s : List Char) :
    piecesFrom piece done s =
      done.reverse ++ s.splitOnPPrepend (!Text.isAlphanumeric ·) piece := by
  induction s generalizing piece done with
  | nil => rw [piecesFrom, List.reverse_cons, List.splitOnPPrepend_nil]
  | cons c rest ih =>
    rw [piecesFrom, List.splitOnPPrepend_cons_eq_if]
    cases hc : Text.isAlphanumeric c with
    | true => exact ih (c :: piece) done
    | false =>
      have hcut := ih [] (piece.reverse :: done)
      rwa [List.reverse_cons, List.append_assoc] at hcut

theorem pieces_eq_splitOnP (s : String) :
    pieces s = s.toList.splitOnP (!Text.isAlphanumeric ·) := by
  rw [pieces, piecesFrom_eq, List.splitOnP_eq_splitOnPPrepend]
  rfl

/-- The tokens are the pieces between what is neither letter nor number, in lower case, that have
three bytes at least and are not stopwords. -/
theorem mem_tokens_iff {t s : String} :
    t ∈ tokens s ↔
      (∃ w ∈ s.toList.splitOnP (!Text.isAlphanumeric ·), String.ofList (Text.lower w) = t) ∧
        3 ≤ t.utf8ByteSize ∧ t ∉ stopwords := by
  rw [mem_tokens, pieces_eq_splitOnP, isSignificant, Bool.and_eq_true, decide_eq_true_eq,
    Bool.not_eq_true', ← Bool.not_eq_true, List.contains_iff_mem]

theorem mem_tokens_append_space {t a b : String} :
    t ∈ tokens (a ++ " " ++ b) ↔ t ∈ tokens a ∨ t ∈ tokens b := by
  have hpieces : pieces (a ++ " " ++ b) = pieces a ++ pieces b := by
    have htext : (a ++ " " ++ b).toList = a.toList ++ ' ' :: b.toList := by simp
    simp only [pieces_eq_splitOnP, htext]
    exact List.splitOnP_append_cons _ _ (by decide +kernel)
  simp only [mem_tokens, hpieces, List.mem_append]
  grind

theorem shared?_eq_some_iff {a b : WordSet} {t : String} :
    shared? a b = some t ↔ IsLeast {u | u ∈ a ∧ u ∈ b} t := by
  have hleast {u : String} (h : shared? a b = some u) : IsLeast {u | u ∈ a ∧ u ∈ b} u := by
    obtain ⟨hb, before, after, hwords, hbefore⟩ := List.find?_eq_some_iff_append.mp h
    have hsorted := a.sorted
    rw [hwords] at hsorted
    have hafter : ∀ w ∈ after, u < w :=
      (List.pairwise_cons.mp (List.pairwise_append.mp hsorted).2.1).1
    refine ⟨⟨?_, of_decide_eq_true hb⟩, fun w ⟨hwa, hwb⟩ => ?_⟩
    · rw [WordSet.mem_words, hwords]
      exact List.mem_append_right _ List.mem_cons_self
    · rw [WordSet.mem_words, hwords, List.mem_append, List.mem_cons] at hwa
      rcases hwa with hwa | rfl | hwa
      · -- what stands before the first common word is not common
        have hnot := hbefore w hwa
        rw [decide_eq_true hwb] at hnot
        cases hnot
      · exact le_rfl
      · exact le_of_lt (hafter w hwa)
  refine ⟨hleast, fun h => ?_⟩
  obtain ⟨u, hu⟩ := Option.isSome_iff_exists.mp (isSome_shared?_iff.mpr ⟨t, h.1⟩)
  rw [hu, (hleast hu).unique h]

/-! ## The three rules -/

/-- The tokens of the name that stand in the name of the purpose or its description, too. -/
def common (p : PurposeReport) (name : String) : Set String :=
  {t | t ∈ tokens name ∧ (t ∈ tokens p.purpose ∨ t ∈ tokens p.description)}

def HasToken (s : List Char) : Prop := ∃ t, t ∈ tokens (String.ofList s)

/-- Two texts in lower case share a token, or the label has one and either is a part of the
other. -/
def Joins (label name : List Char) : Prop :=
  (∃ t ∈ tokens (String.ofList name), t ∈ tokens (String.ofList label)) ∨
    HasToken label ∧ (label <:+: name ∨ name <:+: label)

variable {p : PurposeReport} {m : Match} {c : Correlation}

theorem mem_purposeTokens {t : String} :
    t ∈ purposeTokens p ↔ t ∈ tokens p.purpose ∨ t ∈ tokens p.description :=
  mem_tokens_append_space

theorem mem_align?_iff :
    c ∈ align? p m ↔ ∃ t, IsLeast (common p m.pattern) t ∧
      c = .alignment p.purpose m.pattern t (mean p.confidence m.confidence) := by
  simp only [align?, Option.mem_def, Option.map_eq_some_iff, shared?_eq_some_iff, mem_purposeTokens,
    common, eq_comm (b := c)]

theorem isSome_align?_iff : (align? p m).isSome = true ↔ (common p m.pattern).Nonempty := by
  rw [align?, Option.isSome_map, isSome_shared?_iff]
  simp only [mem_purposeTokens]
  rfl

theorem mem_mismatch?_iff {v : Verdict} {a : AnomalyReport} :
    c ∈ mismatch? v a ↔ (v.isSuccess = true ∧ v.matched = [] ∧ a.anomalies ≠ []) ∧
      c = .mismatch a.anomalies.length mismatchMessage a.confidence := by
  rw [mismatch?]
  grind

theorem overlaps_lower_iff {label : List Char} {name : String} :
    overlaps label name = true ↔ Joins label (Text.lower name.toList) := by
  have htoken : (!(tokens (String.ofList label)).words.isEmpty) = true ↔ HasToken label := by
    rw [Bool.not_eq_true', List.isEmpty_eq_false_iff_exists_mem]
    rfl
  simp only [overlaps, Bool.or_eq_true, Bool.and_eq_true, htoken, Text.includes_iff,
    isSome_shared?_iff, Joins, or_comm]

theorem mem_validate?_iff {prediction : Prediction} :
    c ∈ validate? prediction m ↔
      Joins (Text.lower prediction.label.toList) (Text.lower m.pattern.toList) ∧
        c = .validation prediction.label m.pattern (mean prediction.confidence m.confidence) := by
  rw [validate?, ← overlaps_lower_iff]
  grind

/-! ## The table -/

variable (v : Verdict) (purpose : PurposeReport) (anomalies : AnomalyReport)
  (prediction : Prediction)

theorem mem_correlate_iff :
    c ∈ correlate v purpose anomalies prediction ↔
      (∃ m ∈ v.matched, c ∈ align? purpose m) ∨ c ∈ mismatch? v anomalies ∨
        ∃ m ∈ v.matched, c ∈ validate? prediction m := by
  rw [correlate, List.mem_append, List.mem_append, List.mem_filterMap, List.mem_filterMap,
    Option.mem_toList, or_assoc]
  rfl

theorem correlate_of_unmatched (h : v.matched = []) :
    correlate v purpose anomalies prediction = (mismatch? v anomalies).toList := by
  rw [correlate, h, List.filterMap_nil, List.filterMap_nil, List.nil_append, List.append_nil]

theorem mismatch?_of_matched (h : v.matched ≠ []) : mismatch? v anomalies = none :=
  Option.eq_none_iff_forall_not_mem.mpr fun _ hc => h (mem_mismatch?_iff.mp hc).1.2.1

theorem eq_singleton_of_mismatch_mem {n : ℕ} {message : String} {confidence : Float}
    (h : .mismatch n message confidence ∈ correlate v purpose anomalies prediction) :
    correlate v purpose anomalies prediction = [.mismatch n message confidence] := by
  have hfound : .mismatch n message confidence ∈ mismatch? v anomalies := by
    rcases (mem_correlate_iff v purpose anomalies prediction).mp h with
      ⟨m, -, hm⟩ | hfound | ⟨m, -, hm⟩
    · obtain ⟨t, -, hc⟩ := mem_align?_iff.mp hm
      cases hc
    · exact hfound
    · cases (mem_validate?_iff.mp hm).2
  have hmatched : v.matched = [] := (mem_mismatch?_iff.mp hfound).1.2.1
  rw [correlate_of_unmatched v purpose anomalies prediction hmatched, Option.mem_def.mp hfound]
  rfl

theorem correlate_of_failed (h : v.isSuccess = false) :
    correlate v purpose anomalies prediction = [] := by
  have hmatched : v.matched = [] := by
    cases v with
    | success o => cases h
    | failure error reason => rfl
  have hmismatch : mismatch? v anomalies = none :=
    Option.eq_none_iff_forall_not_mem.mpr fun c hc =>
      Bool.false_ne_true (h ▸ (mem_mismatch?_iff.mp hc).1.1)
  rw [correlate_of_unmatched v purpose anomalies prediction hmatched, hmismatch]
  rfl

theorem length_correlate_le :
    (correlate v purpose anomalies prediction).length ≤ max 1 (2 * v.matched.length) := by
  by_cases hmatched : v.matched = []
  · rw [correlate_of_unmatched v purpose anomalies prediction hmatched]
    exact (Option.length_toList_le).trans (Nat.le_max_left _ _)
  · have haligned := List.length_filterMap_le (align? purpose) v.matched
    have hvalidated := List.length_filterMap_le (validate? prediction) v.matched
    rw [correlate, mismatch?_of_matched v anomalies hmatched, Option.toList_none, List.append_nil,
      List.length_append]
    omega

/-- Each match has at most one alignment and at most one validation, in the order of the matches,
and a mismatch stands between.  Each rule tells what it found exactly when its condition holds, and
the conditions speak of the tokens of texts. -/
theorem correlations_are_their_table :
    let found := correlate v purpose anomalies prediction
    (∀ t s, t ∈ tokens s ↔
      (∃ w ∈ s.toList.splitOnP (!Text.isAlphanumeric ·), String.ofList (Text.lower w) = t) ∧
        3 ≤ t.utf8ByteSize ∧ t ∉ stopwords) ∧
    found = v.matched.filterMap (align? purpose) ++ (mismatch? v anomalies).toList ++
        v.matched.filterMap (validate? prediction) ∧
    (∀ m, (align? purpose m).isSome = true ↔ (common purpose m.pattern).Nonempty) ∧
    (∀ m, ∀ c, c ∈ align? purpose m ↔ ∃ t, IsLeast (common purpose m.pattern) t ∧
      c = .alignment purpose.purpose m.pattern t (mean purpose.confidence m.confidence)) ∧
    (∀ c, c ∈ mismatch? v anomalies ↔
      (v.isSuccess = true ∧ v.matched = [] ∧ anomalies.anomalies ≠ []) ∧
        c = .mismatch anomalies.anomalies.length mismatchMessage anomalies.confidence) ∧
    (∀ m, ∀ c, c ∈ validate? prediction m ↔
      Joins (Text.lower prediction.label.toList) (Text.lower m.pattern.toList) ∧
        c = .validation prediction.label m.pattern (mean prediction.confidence m.confidence)) ∧
    (∀ n message c, .mismatch n message c ∈ found → found = [.mismatch n message c]) ∧
    (v.isSuccess = false → found = []) ∧
    found.length ≤ max 1 (2 * v.matched.length) := by
  intro found
  exact ⟨fun t s => mem_tokens_iff, rfl, fun m => isSome_align?_iff, fun m c => mem_align?_iff,
    fun c => mem_mismatch?_iff, fun m c => mem_validate?_iff,
    fun n message c hc => eq_singleton_of_mismatch_mem v purpose anomalies prediction hc,
    fun hfailed => correlate_of_failed v purpose anomalies prediction hfailed,
    length_correlate_le v purpose anomalies prediction⟩

end Correlation
end Motif
