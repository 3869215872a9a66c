import Motif.Proofs.AnomalyLines

/-!
Where deep nesting is found.  The depth runs over the characters and is compared with the limit at
the end of each line only.  So nesting is found where a line ends beyond the limit, and what opens
and closes again before the end of its line goes unseen.
-/

namespace Motif
namespace Text

/-! ## Lines of the beginning of a text -/

theorem length_linesFrom_ended (line : List Char) (done : List (List Char)) (s : List Char) :
    (linesFrom line done (s ++ ['\n'])).length = done.length + s.count '\n' + 1 := by
  induction s generalizing line done with
  | nil => simp [linesFrom]
  | cons c rest ih =>
    rw [List.cons_append, linesFrom]
    by_cases hc : c = '\n'
    · rw [if_pos hc, ih, hc, List.count_cons_self, List.length_cons]
      omega
    · rw [if_neg hc, ih, List.count_cons_of_ne hc]

theorem length_linesFrom_le (line : List Char) (done : List (List Char)) (s : List Char) :
    (linesFrom line done s).length ≤ done.length + s.count '\n' + 1 := by
  induction s generalizing line done with
  | nil => cases line <;> simp [linesFrom]
  | cons c rest ih =>
    rw [linesFrom]
    by_cases hc : c = '\n'
    · have hrest := ih [] (closeLine line :: done)
      rw [List.length_cons] at hrest
      rw [if_pos hc, hc, List.count_cons_self]
      omega
    · rw [if_neg hc, List.count_cons_of_ne hc]
      exact ih (c :: line) done

theorem exists_append_newline {s : List Char} {k : ℕ} (h : k < s.count '\n') :
    ∃ a b, s = a ++ '\n' :: b ∧ a.count '\n' = k := by
  induction s generalizing k with
  | nil => exact absurd h (Nat.not_lt_zero k)
  | cons c rest ih =>
    by_cases hc : c = '\n'
    · subst hc
      cases k with
      | zero => exact ⟨[], rest, rfl, rfl⟩
      | succ k =>
        rw [List.count_cons_self] at h
        obtain ⟨a, b, rfl, rfl⟩ := ih (Nat.lt_of_succ_lt_succ h)
        exact ⟨'\n' :: a, b, rfl, List.count_cons_self⟩
    · rw [List.count_cons_of_ne hc] at h
      obtain ⟨a, b, rfl, rfl⟩ := ih h
      exact ⟨c :: a, b, rfl, List.count_cons_of_ne hc⟩

/-- The lines up to a line feed are those of the text up to there. -/
theorem take_lines_append_newline (a b : List Char) :
    (lines (a ++ '\n' :: b)).take (a.count '\n' + 1) = lines (a ++ ['\n']) := by
  have hlength : (lines (a ++ ['\n'])).length = a.count '\n' + 1 := by
    rw [lines, length_linesFrom_ended, List.length_nil, Nat.zero_add]
  rw [lines_append_newline, ← hlength, List.take_left]

end Text

namespace Lexical
namespace Limits

variable {l : Limits} {s : List Char}

/-! ## Depths -/

/-- The depth behind a text. -/
def depthOf (s : List Char) : Nat := s.foldl depthAfter 0

theorem foldl_closeLine (line : List Char) (depth : Nat) :
    (Text.closeLine line).foldl depthAfter depth = line.reverse.foldl depthAfter depth := by
  unfold Text.closeLine
  split
  · rw [List.reverse_cons, List.foldl_concat]
    rfl
  · rfl

theorem depthBehind_linesFrom (line s : List Char) (depth : Nat) :
    depthBehind (Text.linesFrom line [] s) depth = (line.reverse ++ s).foldl depthAfter depth := by
  induction s generalizing line depth with
  | nil => cases line <;> simp [Text.linesFrom, depthBehind]
  | cons c rest ih =>
    rw [Text.linesFrom]
    by_cases hc : c = '\n'
    · have hrest := ih [] (line.reverse.foldl depthAfter depth)
      rw [List.reverse_nil, List.nil_append, depthBehind] at hrest
      rw [if_pos hc, Text.linesFrom_eq, depthBehind, List.reverse_singleton, List.flatten_append,
        List.flatten_singleton, List.foldl_append, foldl_closeLine, hrest, hc, List.foldl_append]
      rfl
    · rw [if_neg hc, ih, List.reverse_cons, List.append_assoc]
      rfl

theorem depthBehind_lines (s : List Char) : depthBehind (Text.lines s) 0 = depthOf s :=
  depthBehind_linesFrom [] s 0

/-- The depth at the end of a line is that before its line feed. -/
theorem depthBehind_take_lines (a b : List Char) :
    depthBehind ((Text.lines (a ++ '\n' :: b)).take (a.count '\n' + 1)) 0 = depthOf a := by
  rw [Text.take_lines_append_newline, depthBehind_lines, depthOf, List.foldl_concat]
  rfl

/-- Lines end at depths that the characters pass through. -/
theorem exists_depthOf_eq (s : List Char) (k : ℕ) :
    ∃ n, depthBehind ((Text.lines s).take k) 0 = depthOf (s.take n) := by
  cases k with
  | zero => exact ⟨0, rfl⟩
  | succ k =>
    by_cases hk : k < s.count '\n'
    · obtain ⟨a, b, rfl, rfl⟩ := Text.exists_append_newline hk
      exact ⟨a.length, by rw [depthBehind_take_lines, List.take_left]⟩
    · -- the first `k + 1` lines are all of them
      have hlength := Text.length_linesFrom_le [] [] s
      rw [List.length_nil, Nat.zero_add] at hlength
      refine ⟨s.length, ?_⟩
      have hall : (Text.lines s).length ≤ k + 1 := by
        rw [Text.lines]
        omega
      rw [List.take_of_length_le hall, List.take_length, depthBehind_lines]

/-- The depth goes beyond the limit with the first `n` characters, and with no fewer. -/
structure DeepAfter (l : Limits) (s : List Char) (n : ℕ) : Prop where
  deep : l.nesting < depthOf (s.take n)
  first : ∀ m < n, depthOf (s.take m) ≤ l.nesting

/-- The lines before the one where the depth goes beyond the limit end within. -/
theorem DeepAfter.depthBehind_le {n k : ℕ} (h : l.DeepAfter s n)
    (hk : k ≤ (s.take n).count '\n') : depthBehind ((Text.lines s).take k) 0 ≤ l.nesting := by
  cases k with
  | zero => exact Nat.zero_le _
  | succ k =>
    obtain ⟨a, b, hbefore, rfl⟩ := Text.exists_append_newline hk
    have hs : s = a ++ '\n' :: (b ++ s.drop n) := by
      rw [← List.cons_append, ← List.append_assoc, ← hbefore, List.take_append_drop]
    -- the line feed of the line is among the first `n` characters
    have hlength : a.length < n := by
      have hle := List.length_take_le n s
      rw [hbefore, List.length_append, List.length_cons] at hle
      omega
    have hwithin := h.first a.length hlength
    rw [hs, List.take_left] at hwithin
    rw [hs, depthBehind_take_lines]
    exact hwithin

/-! ## What a scan tells of nesting -/

def tooDeep (l : Limits) (number : Nat) : Anomaly :=
  ⟨"deep_nesting", .medium, "Nesting deeper than " ++ toString l.nesting ++ " levels", some number⟩

def nestings (found : List Anomaly) : List Anomaly := found.filter (·.kind == "deep_nesting")

theorem deepLine_of_lt {number depth : Nat} (h : l.nesting < depth) :
    l.deepLine number depth false = [l.tooDeep number] :=
  if_pos ⟨h, rfl⟩

theorem nestings_append (a b : List Anomaly) : nestings (a ++ b) = nestings a ++ nestings b :=
  List.filter_append ..

theorem nestings_scanLines_cons (l : Limits) (number depth : Nat) (reported : Bool)
    (line : List Char) (rest : List (List Char)) :
    nestings (l.scanLines number depth reported (line :: rest)) =
      l.deepLine number (line.foldl depthAfter depth) reported ++
        nestings (l.scanLines (number + 1) (line.foldl depthAfter depth)
          (reported || !(l.deepLine number (line.foldl depthAfter depth) reported).isEmpty)
          rest) := by
  have hlong : nestings (l.longLine number line) = [] := by
    rw [longLine]
    split <;> rfl
  have hdebug : nestings (debugLine number line) = [] := by
    rw [debugLine]
    split <;> rfl
  have hmarked : nestings (markedLine number line) = [] := by
    rw [markedLine]
    split <;> rfl
  have hdeep (depth : Nat) : nestings (l.deepLine number depth reported) =
      l.deepLine number depth reported := by
    rw [deepLine]
    split <;> rfl
  simp only [scanLines, nestings_append, hlong, hdebug, hmarked, hdeep, List.nil_append,
    List.append_nil]

theorem nestings_scanLines_reported (number depth : Nat) (lines : List (List Char)) :
    nestings (l.scanLines number depth true lines) = [] := by
  induction lines generalizing number depth with
  | nil => rfl
  | cons line rest ih =>
    have hnone : l.deepLine number (line.foldl depthAfter depth) true = [] :=
      deepLine_eq_nil_iff.mpr Bool.noConfusion
    rw [nestings_scanLines_cons, hnone, List.nil_append, Bool.true_or, ih]

/-- The first line that ends beyond the limit is reported, and no other. -/
theorem nestings_scanLines (number : Nat) {depth : Nat} (lines : List (List Char))
    (h : depth ≤ l.nesting) :
    (nestings (l.scanLines number depth false lines) = [] ∧
      ∀ k, depthBehind (lines.take k) depth ≤ l.nesting) ∨
    ∃ k, nestings (l.scanLines number depth false lines) = [l.tooDeep (number + k)] ∧
      l.nesting < depthBehind (lines.take (k + 1)) depth ∧
      ∀ j ≤ k, depthBehind (lines.take j) depth ≤ l.nesting := by
  induction lines generalizing number depth with
  | nil => exact .inl ⟨rfl, fun k => by rwa [List.take_nil]⟩
  | cons line rest ih =>
    rw [nestings_scanLines_cons]
    by_cases hline : l.nesting < line.foldl depthAfter depth
    · refine .inr ⟨0, ?_, ?_, fun j hj => ?_⟩
      · rw [deepLine_of_lt hline]
        exact congrArg (l.tooDeep number :: ·) (nestings_scanLines_reported _ _ rest)
      · rwa [depthBehind_take_succ]
      · rwa [Nat.le_zero.mp hj]
    · have hwithin := Nat.not_lt.mp hline
      have hnone : l.deepLine number (line.foldl depthAfter depth) false = [] :=
        deepLine_eq_nil_iff.mpr fun _ => hwithin
      rw [hnone, List.nil_append]
      rcases ih (number + 1) hwithin with ⟨hnil, hrest⟩ | ⟨k, hk, hdeep, hfirst⟩
      · refine .inl ⟨hnil, fun k => ?_⟩
        cases k with
        | zero => exact h
        | succ k => exact depthBehind_take_succ line rest k depth ▸ hrest k
      · refine .inr ⟨k + 1, ?_, ?_, fun j hj => ?_⟩
        · rwa [Nat.add_comm k 1, ← Nat.add_assoc]
        · rwa [depthBehind_take_succ]
        · cases j with
          | zero => exact h
          | succ j =>
            exact depthBehind_take_succ line rest j depth ▸ hfirst j (Nat.le_of_succ_le_succ hj)

theorem nestings_scan (l : Limits) (code : String) :
    nestings (l.scan code) = nestings (l.scanLines 1 0 false (Text.lines code.toList)) := by
  have hswallowed : nestings (swallowed code.toList) = [] := by
    rw [nestings, List.filter_eq_nil_iff]
    intro a ha
    obtain ⟨m, -, rfl⟩ := List.mem_map.mp ha
    exact Bool.false_ne_true
  have hoversized : nestings (l.oversized (Text.lines code.toList)) = [] := by
    rw [oversized]
    split <;> rfl
  rw [scan, nestings_append, nestings_append, hswallowed, hoversized, List.append_nil,
    List.append_nil]

/-- A line, counted from one, that ends beyond the limit, and the first to do so. -/
structure EndsDeep (l : Limits) (lines : List (List Char)) (k : ℕ) : Prop where
  deep : l.nesting < depthBehind (lines.take k) 0
  first : ∀ j < k, depthBehind (lines.take j) 0 ≤ l.nesting

theorem EndsDeep.le {lines : List (List Char)} {j k : ℕ} (hj : l.EndsDeep lines j)
    (hk : ∀ i < k, depthBehind (lines.take i) 0 ≤ l.nesting) : k ≤ j :=
  Nat.not_lt.mp fun hlt => absurd (hk j hlt) (Nat.not_le.mpr hj.deep)

theorem nestings_scan_cases (l : Limits) (code : String) :
    (nestings (l.scan code) = [] ∧
      ∀ k, depthBehind ((Text.lines code.toList).take k) 0 ≤ l.nesting) ∨
    ∃ k, nestings (l.scan code) = [l.tooDeep k] ∧ l.EndsDeep (Text.lines code.toList) k := by
  rw [nestings_scan]
  rcases nestings_scanLines 1 (Text.lines code.toList) (Nat.zero_le l.nesting) with
    hnone | ⟨k, hk, hdeep, hfirst⟩
  · exact .inl hnone
  · exact .inr ⟨k + 1, Nat.add_comm k 1 ▸ hk, hdeep, fun j hj => hfirst j (Nat.le_of_lt_succ hj)⟩

/-- Nesting is compared with the limit at the end of each line.  The first line that ends beyond is
reported once, and no other.  Where the depth stays within the limit at every character, nothing is
reported.  The line on which it first goes beyond is reported just if it ends beyond, and no line
before it ever is. -/
theorem nesting_is_compared_at_line_ends (l : Limits) (code : String) :
    let lines := Text.lines code.toList
    let told := nestings (l.scan code)
    ((told = [] ∧ ∀ k, depthBehind (lines.take k) 0 ≤ l.nesting) ∨
      ∃ k, told = [l.tooDeep k] ∧ l.EndsDeep lines k) ∧
    ((∀ n, depthOf (code.toList.take n) ≤ l.nesting) → told = []) ∧
    ∀ n, l.DeepAfter code.toList n →
      let k := (code.toList.take n).count '\n' + 1
      (told = [l.tooDeep k] ↔ l.nesting < depthBehind (lines.take k) 0) ∧
        ∀ j, told = [l.tooDeep j] → k ≤ j := by
  intro lines told
  have hends {j : ℕ} (hj : told = [l.tooDeep j]) : l.EndsDeep lines j := by
    rcases nestings_scan_cases l code with ⟨hnone, -⟩ | ⟨k, hk, hends⟩
    · exact absurd (hj.symm.trans hnone) (List.cons_ne_nil _ _)
    · have hlines := congrArg (List.map Anomaly.line) (hk.symm.trans hj)
      obtain rfl : k = j := Option.some.inj (List.singleton_inj.mp hlines)
      exact hends
  refine ⟨nestings_scan_cases l code, fun hwithin => ?_, fun n hn => ?_⟩
  · rcases nestings_scan_cases l code with ⟨hnone, -⟩ | ⟨k, -, hends⟩
    · exact hnone
    · obtain ⟨n, hn⟩ := exists_depthOf_eq code.toList k
      exact absurd (hn ▸ hwithin n) (Nat.not_le.mpr hends.deep)
  · intro k
    have hbefore : ∀ j < k, depthBehind (lines.take j) 0 ≤ l.nesting :=
      fun j hj => hn.depthBehind_le (Nat.le_of_lt_succ hj)
    refine ⟨⟨fun htold => (hends htold).deep, fun hdeep => ?_⟩, fun j hj => (hends hj).le hbefore⟩
    rcases nestings_scan_cases l code with ⟨-, hwithin⟩ | ⟨j, hj, hends⟩
    · exact absurd (hwithin k) (Nat.not_le.mpr hdeep)
    · have hfirst : l.EndsDeep lines k := ⟨hdeep, hbefore⟩
      obtain rfl : j = k := Nat.le_antisymm (hfirst.le hends.first) (hends.le hbefore)
      exact hj

/-- Five levels open and close again on one line, under a limit of four. -/
theorem nesting_within_one_line_is_missed :
    let code := "\x7b\x7b\x7b\x7b\x7b\x7d\x7d\x7d\x7d\x7d"
    Limits.standard.DeepAfter code.toList 5 ∧ nestings (Limits.standard.scan code) = [] :=
  ⟨⟨by decide, by decide⟩, by decide +kernel⟩

end Limits
end Lexical
end Motif
