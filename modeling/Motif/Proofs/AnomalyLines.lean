import Motif.Lexical.Anomaly
import Motif.Proofs.Regex.Search

/-!
The lines that anomalies report.  A check of single lines reports the line that fails it, and deep
nesting the first line that ends beyond the limit.  A swallowed error is placed by the text before
it.  A line feed right before it ends a line and begins no other, so an error at the beginning of
a line is reported on the line above.
-/

namespace Motif
namespace Text

/-! ## Counting lines -/

theorem length_le_length_linesFrom (line : List Char) (done : List (List Char)) (s : List Char) :
    done.length + (if line = [] then 0 else 1) ≤ (linesFrom line done s).length := by
  induction s generalizing line done with
  | nil => cases line <;> simp [linesFrom]
  | cons c rest ih =>
    have hline : (if line = [] then 0 else 1) ≤ 1 := by split <;> decide
    rw [linesFrom]
    by_cases hc : c = '\n'
    · have hrest := ih [] (closeLine line :: done)
      rw [if_pos rfl, List.length_cons] at hrest
      rw [if_pos hc]
      omega
    · have hrest := ih (c :: line) done
      rw [if_neg (List.cons_ne_nil c line)] at hrest
      rw [if_neg hc]
      omega

/-- A text with more to come has a line for each line feed and another. -/
theorem count_lt_length_linesFrom (line : List Char) (done : List (List Char))
    (before : List Char) {after : List Char} (h : after ≠ []) :
    done.length + before.count '\n' < (linesFrom line done (before ++ after)).length := by
  induction before generalizing line done with
  | nil =>
    obtain ⟨c, rest, rfl⟩ := List.exists_cons_of_ne_nil h
    rw [List.nil_append, linesFrom, List.count_nil, Nat.add_zero]
    split
    · exact length_le_length_linesFrom [] (closeLine line :: done) rest
    · exact length_le_length_linesFrom (c :: line) done rest
  | cons c before ih =>
    rw [List.cons_append, linesFrom]
    by_cases hc : c = '\n'
    · have hlonger := ih [] (closeLine line :: done)
      rw [List.length_cons] at hlonger
      rw [if_pos hc, hc, List.count_cons_self]
      omega
    · rw [if_neg hc, List.count_cons_of_ne hc]
      exact ih (c :: line) done

theorem count_lt_length_lines (before : List Char) {after : List Char} (h : after ≠ []) :
    before.count '\n' < (lines (before ++ after)).length := by
  have hlines := count_lt_length_linesFrom [] [] before h
  rwa [List.length_nil, Nat.zero_add] at hlines

end Text

namespace Lexical
namespace Limits

open Regex

/-! ## Checks of single lines -/

/-- The depth of nesting at the end of the first lines. -/
def depthBehind (lines : List (List Char)) (depth : Nat) : Nat :=
  lines.flatten.foldl depthAfter depth

/-- What a line, counted from one, has to show for an anomaly of the kind. -/
inductive IsCause (l : Limits) (lines : List (List Char)) (k : Nat) : String → Prop
  | longLine {line : List Char} (h : lines[k - 1]? = some line)
    (hlong : l.lineLength < line.length) : IsCause l lines k "long_line"
  | debugOutput {line : List Char} (h : lines[k - 1]? = some line)
    (houtput : debugOutput.occursIn line = true) : IsCause l lines k "debug_output"
  | unfinishedWork {line : List Char} (h : lines[k - 1]? = some line)
    (hmarker : marker.occursIn line = true) : IsCause l lines k "unfinished_work"
  | deepNesting (hdeep : l.nesting < depthBehind (lines.take k) 0)
    (hfirst : ∀ j < k, depthBehind (lines.take j) 0 ≤ l.nesting) : IsCause l lines k "deep_nesting"

variable {l : Limits} {a : Anomaly} {number depth : Nat} {line : List Char}

theorem deepLine_eq_nil_iff {reported : Bool} :
    l.deepLine number depth reported = [] ↔ reported = false → depth ≤ l.nesting := by
  rw [deepLine]
  split
  · next h => exact ⟨fun hnil => absurd hnil (List.cons_ne_nil _ _), fun hle =>
      absurd h.1 (Nat.not_lt.mpr (hle h.2))⟩
  · next h => exact ⟨fun _ hnew => Nat.not_lt.mp fun hlt => h ⟨hlt, hnew⟩, fun _ => rfl⟩

/-- The anomalies of one line when nesting is left aside. -/
def shallow (l : Limits) (number : Nat) (line : List Char) : List Anomaly :=
  l.longLine number line ++ debugLine number line ++ markedLine number line

/-- How an anomaly comes from one of the lines, counted from zero, when these are numbered from
`number` on and nested from `depth` on. -/
inductive ComesFrom (l : Limits) (number depth : Nat) (reported : Bool)
    (lines : List (List Char)) (a : Anomaly) (i : Nat) : Prop
  | shallow {line : List Char} (h : lines[i]? = some line)
    (hmem : a ∈ l.shallow (number + i) line)
  | deep (hi : i < lines.length)
    (hmem : a ∈ l.deepLine (number + i) (depthBehind (lines.take (i + 1)) depth) false)
    (hnew : reported = false)
    (hfirst : ∀ j < i, depthBehind (lines.take (j + 1)) depth ≤ l.nesting)

theorem depthBehind_take_succ (line : List Char) (rest : List (List Char)) (i depth : Nat) :
    depthBehind ((line :: rest).take (i + 1)) depth =
      depthBehind (rest.take i) (line.foldl depthAfter depth) := by
  rw [depthBehind, List.take_succ_cons, List.flatten_cons, List.foldl_append]
  rfl

theorem ComesFrom.cons {reported reported' : Bool} {rest : List (List Char)} {i : Nat}
    (h : l.ComesFrom (number + 1) (line.foldl depthAfter depth) reported' rest a i)
    (hreported : reported' = false →
      reported = false ∧ line.foldl depthAfter depth ≤ l.nesting) :
    l.ComesFrom number depth reported (line :: rest) a (i + 1) := by
  have hnumber : number + (i + 1) = number + 1 + i := by omega
  cases h with
  | shallow h hmem => exact .shallow h (hnumber ▸ hmem)
  | deep hi hmem hnew hfirst =>
    refine .deep (Nat.succ_lt_succ hi) ?_ (hreported hnew).1 fun j hj => ?_
    · rw [hnumber, depthBehind_take_succ]
      exact hmem
    · rw [depthBehind_take_succ]
      cases j with
      | zero => exact (hreported hnew).2
      | succ j => exact hfirst j (Nat.lt_of_succ_lt_succ hj)

theorem exists_comesFrom {reported : Bool} {lines : List (List Char)}
    (h : a ∈ l.scanLines number depth reported lines) :
    ∃ i, l.ComesFrom number depth reported lines a i := by
  induction lines generalizing number depth reported with
  | nil => exact absurd h List.not_mem_nil
  | cons line rest ih =>
    have hshallow (hmem : a ∈ l.shallow number line) :
        ∃ i, l.ComesFrom number depth reported (line :: rest) a i :=
      ⟨0, .shallow rfl hmem⟩
    simp only [scanLines, List.mem_append] at h
    rcases h with (((h | h) | h) | h) | h
    · exact hshallow (by simp [shallow, h])
    · have hnew : reported = false := by
        by_contra hreported
        rw [deepLine_eq_nil_iff.mpr fun hnew => absurd hnew hreported] at h
        exact absurd h List.not_mem_nil
      subst hnew
      refine ⟨0, .deep (Nat.succ_pos _) ?_ rfl fun j hj => absurd hj (Nat.not_lt_zero j)⟩
      rw [depthBehind_take_succ]
      exact h
    · exact hshallow (by simp [shallow, h])
    · exact hshallow (by simp [shallow, h])
    · obtain ⟨i, hi⟩ := ih h
      refine ⟨i + 1, hi.cons fun hnew => ?_⟩
      rw [Bool.or_eq_false_iff, Bool.not_eq_false', List.isEmpty_iff, deepLine_eq_nil_iff] at hnew
      exact ⟨hnew.1, hnew.2 hnew.1⟩

/-- What comes from a line is reported there, and the line shows it. -/
theorem isCause_of_comesFrom {lines : List (List Char)} {i : Nat}
    (h : l.ComesFrom 1 0 false lines a i) :
    a.line = some (i + 1) ∧ i < lines.length ∧ l.IsCause lines (i + 1) a.kind := by
  cases h with
  | @shallow line h hmem =>
    have hi : i < lines.length := (List.getElem?_eq_some_iff.mp h).1
    rw [shallow, List.mem_append, List.mem_append, longLine, debugLine, markedLine] at hmem
    rcases hmem with (hmem | hmem) | hmem
    · split at hmem
      · next hlong =>
        obtain rfl := List.mem_singleton.mp hmem
        exact ⟨congrArg some (Nat.add_comm 1 i), hi, .longLine h hlong⟩
      · exact absurd hmem List.not_mem_nil
    · split at hmem
      · next houtput =>
        obtain rfl := List.mem_singleton.mp hmem
        exact ⟨congrArg some (Nat.add_comm 1 i), hi, .debugOutput h houtput⟩
      · exact absurd hmem List.not_mem_nil
    · split at hmem
      · next hmarker =>
        obtain rfl := List.mem_singleton.mp hmem
        exact ⟨congrArg some (Nat.add_comm 1 i), hi, .unfinishedWork h hmarker⟩
      · exact absurd hmem List.not_mem_nil
  | deep hi hmem hnew hfirst =>
    rw [deepLine] at hmem
    split at hmem
    · next hdeep =>
      obtain rfl := List.mem_singleton.mp hmem
      refine ⟨congrArg some (Nat.add_comm 1 i), hi, .deepNesting hdeep.1 fun j hj => ?_⟩
      cases j with
      | zero => exact Nat.zero_le _
      | succ j => exact hfirst j (Nat.lt_of_succ_lt_succ hj)
    · exact absurd hmem List.not_mem_nil

/-! ## Swallowed errors -/

theorem ne_nil_of_fits_emptyCatch {before text after : List Char}
    (h : emptyCatch.Fits before text after) : text ≠ [] := by
  rw [emptyCatch, fits_either] at h
  rcases h with h | h
  · -- the closing brace
    obtain ⟨t, u, rfl, -, hbrace⟩ := fits_append.mp h
    rw [fits_char] at hbrace
    subst hbrace
    simp
  · -- the keyword `pass`, at the edge of a word
    obtain ⟨t, u, rfl, hpass, -⟩ := fits_append.mp h
    obtain ⟨t, u', rfl, -, hpass⟩ := fits_append.mp hpass
    rw [fits_literal] at hpass
    subst hpass
    simp

theorem lineOf_eq (m : Span) :
    lineOf m = m.before.count '\n' + if m.before.head? = some '\n' then 0 else 1 := by
  rw [lineOf]
  split
  · next earlier h => simp [h]
  · next h =>
    rw [if_neg]
    intro hhead
    obtain ⟨earlier, hearlier⟩ := List.head?_eq_some_iff.mp hhead
    exact h earlier hearlier

/-! ## Whole scans -/

theorem kind_ne_of_isCause {lines : List (List Char)} {k : Nat} {kind : String}
    (h : l.IsCause lines k kind) : kind ≠ "swallowed_error" := by
  cases h <;> decide

theorem filter_swallowed_scan (l : Limits) (code : String) :
    (l.scan code).filter (·.kind == "swallowed_error") = swallowed code.toList := by
  have hlines : (l.scanLines 1 0 false (Text.lines code.toList)).filter
      (·.kind == "swallowed_error") = [] := by
    rw [List.filter_eq_nil_iff]
    intro a ha hkind
    obtain ⟨i, hi⟩ := exists_comesFrom ha
    exact kind_ne_of_isCause (isCause_of_comesFrom hi).2.2 (beq_iff_eq.mp hkind)
  have hswallowed : (swallowed code.toList).filter (·.kind == "swallowed_error") =
      swallowed code.toList := by
    rw [List.filter_eq_self]
    intro a ha
    obtain ⟨m, -, rfl⟩ := List.mem_map.mp ha
    rfl
  have hoversized : (l.oversized (Text.lines code.toList)).filter
      (·.kind == "swallowed_error") = [] := by
    rw [oversized]
    split <;> rfl
  rw [scan, List.filter_append, List.filter_append, hlines, hswallowed, hoversized,
    List.nil_append, List.append_nil]

/-- Every line that is reported is a line of the code.  It shows what the anomaly says of it, or
else it is that of a swallowed error.  The line of a swallowed error is one more than the line feeds
before it, unless a line feed stands right before it, when it is the line above. -/
theorem reported_lines_miss_only_line_beginnings (l : Limits) (code : String) :
    let lines := Text.lines code.toList
    let errors := emptyCatch.findAll code.toList
    (∀ a ∈ l.scan code, ∀ k, a.line = some k → 1 ≤ k ∧ k ≤ lines.length ∧
      (l.IsCause lines k a.kind ∨ a.kind = "swallowed_error" ∧ ∃ m ∈ errors, k = lineOf m)) ∧
    ((l.scan code).filter (·.kind == "swallowed_error")).map (·.line) =
      errors.map (fun m => some (lineOf m)) ∧
    ∀ m ∈ errors,
      code.toList = m.before.reverse ++ (m.text ++ m.after) ∧
      emptyCatch.Fits m.before m.text m.after ∧
      (lineOf m = m.before.count '\n' + 1 ↔ m.before.head? ≠ some '\n') ∧
      (m.before.head? = some '\n' → lineOf m = m.before.count '\n') := by
  intro lines errors
  have hplace : ∀ m ∈ errors, 1 ≤ lineOf m ∧ lineOf m ≤ lines.length := by
    intro m hm
    obtain ⟨htext, hfits⟩ := fits_of_mem_findAll hm
    have hmore : m.text ++ m.after ≠ [] :=
      List.append_ne_nil_of_left_ne_nil (ne_nil_of_fits_emptyCatch hfits) _
    have hlines := Text.count_lt_length_lines m.before.reverse hmore
    rw [← htext, List.count_reverse] at hlines
    rw [lineOf_eq]
    split
    · next hhead =>
      have hpos : 0 < m.before.count '\n' := List.count_pos_iff.mpr (List.mem_of_head? hhead)
      exact ⟨hpos, Nat.le_of_lt hlines⟩
    · exact ⟨Nat.le_add_left 1 _, hlines⟩
  refine ⟨fun a ha k hk => ?_, ?_, fun m hm => ?_⟩
  · rw [scan, List.mem_append, List.mem_append] at ha
    rcases ha with (ha | ha) | ha
    · obtain ⟨i, hi⟩ := exists_comesFrom ha
      obtain ⟨hline, hinside, hcause⟩ := isCause_of_comesFrom hi
      obtain rfl : i + 1 = k := Option.some.inj (hline.symm.trans hk)
      exact ⟨Nat.succ_pos i, hinside, .inl hcause⟩
    · obtain ⟨m, hm, rfl⟩ := List.mem_map.mp ha
      obtain rfl : lineOf m = k := Option.some.inj hk
      exact ⟨(hplace m hm).1, (hplace m hm).2, .inr ⟨rfl, m, hm, rfl⟩⟩
    · -- a fragment of too many lines has no line of its own
      rw [oversized] at ha
      split at ha
      · obtain rfl := List.mem_singleton.mp ha
        cases hk
      · exact absurd ha List.not_mem_nil
  · rw [filter_swallowed_scan, swallowed, List.map_map]
    rfl
  · obtain ⟨htext, hfits⟩ := fits_of_mem_findAll hm
    refine ⟨htext, hfits, ?_, fun hhead => ?_⟩
    · rw [lineOf_eq]
      split
      · next hhead => simp [hhead]
      · next hhead => simp [hhead]
    · rw [lineOf_eq, if_pos hhead]
      rfl

/-- A handler at the beginning of the fourth line is reported on the third. -/
theorem handler_at_line_beginning_is_reported_above :
    let code := "try \x7b\n  run();\n\x7d\ncatch (e) \x7b\x7d"
    (Text.lines code.toList)[3]? = some "catch (e) \x7b\x7d".toList ∧
      (emptyCatch.findAll code.toList).map (fun m => m.before.count '\n' + 1) = [4] ∧
      ((Limits.standard.scan code).filter (·.kind == "swallowed_error")).map (·.line) =
        [some 3] := by
  decide +kernel

end Limits
end Lexical
end Motif
