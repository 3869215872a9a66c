import Motif.Features
import Motif.Proofs.Regex.Ways

/-!
Features of two texts with a line feed between them.  An expression looks no further than one
character beyond what it matches, to tell the edge of a word or the start of a line, and there a
line feed is like the end of a text.  So what is found in one of the texts is found in the joined
text.  Lines that are not blank are counted apart, whatever ends them.
-/

namespace Motif

namespace Regex

/-! ## A match in another context -/

/-- What lies before a match, backwards, looks the same to an expression. -/
structure AlikeBefore (s t : List Char) : Prop where
  word : s.head?.any Text.isWordChar = t.head?.any Text.isWordChar
  lineStart : s.head?.all (· == '\n') = t.head?.all (· == '\n')

/-- What lies behind a match looks the same to an expression. -/
def AlikeAfter (s t : List Char) : Prop :=
  s.head?.any Text.isWordChar = t.head?.any Text.isWordChar

theorem AlikeBefore.refl (s : List Char) : AlikeBefore s s := ⟨rfl, rfl⟩

theorem AlikeAfter.refl (s : List Char) : AlikeAfter s s := rfl

theorem AlikeBefore.append {s t : List Char} (h : AlikeBefore s t) (u : List Char) :
    AlikeBefore (u ++ s) (u ++ t) := by
  cases u with
  | nil => exact h
  | cons c u => exact ⟨rfl, rfl⟩

theorem AlikeAfter.append {s t : List Char} (h : AlikeAfter s t) (u : List Char) :
    AlikeAfter (u ++ s) (u ++ t) := by
  cases u with
  | nil => exact h
  | cons c u => rfl

/-- A match stays a match where the characters next to it are of the same kinds. -/
theorem Fits.of_alike {r : Regex} {before before' text after after' : List Char}
    (h : r.Fits before text after) (hbefore : AlikeBefore before before')
    (hafter : AlikeAfter after after') : r.Fits before' text after' := by
  induction r generalizing before before' text after after' with
  | empty => exact fits_empty.mpr (fits_empty.mp h)
  | one p => exact fits_one.mpr (fits_one.mp h)
  | many p => exact fits_many.mpr (fits_many.mp h)
  | wordEdge =>
    obtain ⟨htext, hedge⟩ := fits_wordEdge.mp h
    refine fits_wordEdge.mpr ⟨htext, ?_⟩
    rw [Place.isWordEdge, ← hbefore.word, ← hafter]
    exact hedge
  | lineStart =>
    obtain ⟨htext, hstart⟩ := fits_lineStart.mp h
    refine fits_lineStart.mpr ⟨htext, ?_⟩
    rw [Place.isLineStart, ← hbefore.lineStart]
    exact hstart
  | seq r s ihr ihs =>
    obtain ⟨t, u, rfl, hr, hs⟩ := fits_seq.mp h
    exact fits_seq.mpr ⟨t, u, rfl, ihr hr hbefore (hafter.append u),
      ihs hs (hbefore.append t.reverse) hafter⟩
  | either r s ihr ihs =>
    rcases fits_either.mp h with h | h
    · exact fits_either.mpr (Or.inl (ihr h hbefore hafter))
    · exact fits_either.mpr (Or.inr (ihs h hbefore hafter))

variable {r : Regex} {a : List Char}

theorem occursIn_before_newline (h : r.occursIn a = true) (b : List Char) :
    r.occursIn (a ++ '\n' :: b) = true := by
  obtain ⟨before, text, after, rfl, hfits⟩ := occursIn_iff.mp h
  refine occursIn_iff.mpr ⟨before, text, after ++ '\n' :: b, by simp, ?_⟩
  refine hfits.of_alike (.refl before) ?_
  cases after with
  | nil =>
    show false = Text.isWordChar '\n'
    decide
  | cons c rest => rfl

theorem occursIn_behind_newline (h : r.occursIn a = true) (b : List Char) :
    r.occursIn (b ++ '\n' :: a) = true := by
  obtain ⟨before, text, after, rfl, hfits⟩ := occursIn_iff.mp h
  refine occursIn_iff.mpr ⟨before ++ '\n' :: b.reverse, text, after, by simp, ?_⟩
  refine hfits.of_alike ?_ (.refl after)
  cases before with
  | nil =>
    refine ⟨?_, rfl⟩
    show false = Text.isWordChar '\n'
    decide
  | cons c rest => exact ⟨rfl, rfl⟩

end Regex

namespace Text

/-! ## Lines that are not blank -/

/-- The carriage return that belongs to an ending is blank itself. -/
theorem isAllBlank_closeLine (line : List Char) :
    isAllBlank (closeLine line) = isAllBlank line.reverse := by
  cases line with
  | nil => rfl
  | cons c rest =>
    by_cases hc : c = '\r'
    · subst hc
      have hblank : isBlank '\r' = true := by decide
      show isAllBlank rest.reverse = isAllBlank ('\r' :: rest).reverse
      rw [isAllBlank, isAllBlank, List.reverse_cons, List.all_append, List.all_cons, hblank]
      simp
    · have hclose : closeLine (c :: rest) = (c :: rest).reverse := by
        rw [closeLine]
        rintro rest' heq
        exact hc (List.cons.inj heq).1
      rw [hclose]

theorem countP_linesFrom_concat (line a : List Char) :
    (linesFrom line [] (a ++ ['\n'])).countP (!isAllBlank ·) =
      (linesFrom line [] a).countP (!isAllBlank ·) := by
  induction a generalizing line with
  | nil =>
    have hended : linesFrom line [] ([] ++ ['\n']) = [closeLine line] := rfl
    rw [hended, List.countP_singleton, isAllBlank_closeLine]
    cases line with
    | nil => rfl
    | cons c rest => exact List.countP_singleton.symm
  | cons c rest ih =>
    rw [List.cons_append, linesFrom, linesFrom]
    split
    · rw [linesFrom_eq, linesFrom_eq [] [closeLine line] rest, List.countP_append,
        List.countP_append, ih]
    · exact ih (c :: line)

/-- A line feed at the end adds no line but a blank one. -/
theorem countP_lines_concat (a : List Char) :
    (lines (a ++ ['\n'])).countP (!isAllBlank ·) = (lines a).countP (!isAllBlank ·) :=
  countP_linesFrom_concat [] a

end Text

namespace Features

open Regex

/-! ## Tags -/

/-- The parts of the category, between its bars. -/
def tags (f : Features) : List String := (f.category.toList.splitOn '|').map String.ofList

/-- What is looked for, with the tag that stands for it. -/
def kinds : List (Regex × String) :=
  [(declaration, "declaration"), (asynchronous, "asynchronous"), (chained, "chained"),
    (conditional, "conditional"), (iterative, "iterative")]

/-- No tag has a bar in it, so the tags can be told apart in the category. -/
theorem splitOn_categoryOf {found : List (Bool × String)}
    (h : ∀ t ∈ found, '|' ∉ t.2.toList) (hne : (found.filter (·.1)).map (·.2) ≠ []) :
    ((categoryOf found).toList.splitOn '|').map String.ofList =
      (found.filter (·.1)).map (·.2) := by
  have hnames : ∀ name ∈ (found.filter (·.1)).map (·.2), '|' ∉ name.toList := by
    intro name hname
    obtain ⟨t, ht, rfl⟩ := List.mem_map.mp hname
    exact h t (List.mem_of_mem_filter ht)
  have hcategory : categoryOf found =
      String.intercalate "|" ((found.filter (·.1)).map (·.2)) := by
    rw [categoryOf]
    split
    · next hnil => exact absurd hnil hne
    · rfl
  have hbar : "|".toList = ['|'] := rfl
  generalize (found.filter (·.1)).map (·.2) = names at *
  rw [hcategory, String.toList_intercalate, hbar, List.splitOn_intercalate]
  · simp
  · simpa using hnames
  · simpa using hne

theorem mem_tags_ofText {code tag : String} (hne : tag ≠ "plain") :
    tag ∈ (ofText code).tags ↔
      ∃ r, (r, tag) ∈ kinds ∧ r.occursIn code.toList = true := by
  let found := kinds.map fun k => (k.1.occursIn code.toList, k.2)
  have hcategory : (ofText code).category = categoryOf found := rfl
  have hmem : tag ∈ (found.filter (·.1)).map (·.2) ↔
      ∃ r, (r, tag) ∈ kinds ∧ r.occursIn code.toList = true := by
    simp only [found, List.mem_map, List.mem_filter]
    constructor
    · rintro ⟨t, ⟨⟨k, hk, rfl⟩, hoccurs⟩, rfl⟩
      exact ⟨k.1, hk, hoccurs⟩
    · rintro ⟨r, hk, hoccurs⟩
      exact ⟨_, ⟨⟨(r, tag), hk, rfl⟩, hoccurs⟩, rfl⟩
  rw [tags, hcategory, ← hmem]
  by_cases hnone : (found.filter (·.1)).map (·.2) = []
  · have hplain : categoryOf found = "plain" := by
      rw [categoryOf, hnone]
    rw [hplain, hnone]
    exact iff_of_false (fun h => hne (List.mem_singleton.mp h)) List.not_mem_nil
  · have hbars : ∀ t ∈ found, '|' ∉ t.2.toList := by
      intro t ht
      obtain ⟨k, hk, rfl⟩ := List.mem_map.mp ht
      have hkinds : ∀ name ∈ kinds.map (·.2), '|' ∉ name.toList := by decide
      exact hkinds k.2 (List.mem_map_of_mem hk)
    rw [splitOn_categoryOf hbars hnone]

/-! ## Joined texts -/

/-- Whatever one text shows, the other one shows too. -/
structure CarriesOver (f g : Features) : Prop where
  declarations : f.hasDeclarations = true → g.hasDeclarations = true
  async : f.hasAsync = true → g.hasAsync = true
  chaining : f.hasChaining = true → g.hasChaining = true
  conditionals : f.hasConditionals = true → g.hasConditionals = true
  loops : f.hasLoops = true → g.hasLoops = true
  tags : ∀ tag ∈ f.tags, tag ≠ "plain" → tag ∈ g.tags

theorem carriesOver_ofText {a c : String}
    (h : ∀ r : Regex, r.occursIn a.toList = true → r.occursIn c.toList = true) :
    (ofText a).CarriesOver (ofText c) where
  declarations := h declaration
  async := h asynchronous
  chaining := h chained
  conditionals := h conditional
  loops := h iterative
  tags := fun tag htag hne => by
    obtain ⟨r, hr, hoccurs⟩ := (mem_tags_ofText hne).mp htag
    exact (mem_tags_ofText hne).mpr ⟨r, hr, h r hoccurs⟩

theorem nonBlankLines_ofText (code : String) :
    (ofText code).nonBlankLines = (Text.lines code.toList).countP (!Text.isAllBlank ·) :=
  List.countP_eq_length_filter.symm

/-- A line feed joins two texts without loss.  All that one of them shows is there, the lines that
are not blank add up, and so do all lines when the line feed counts as the end of the first text. -/
theorem joined_text_keeps_features (a b : String) :
    let joined := ofText (a ++ "\n" ++ b)
    (ofText a).CarriesOver joined ∧ (ofText b).CarriesOver joined ∧
    joined.nonBlankLines = (ofText a).nonBlankLines + (ofText b).nonBlankLines ∧
    joined.lineCount = (ofText (a ++ "\n")).lineCount + (ofText b).lineCount := by
  intro joined
  have hended : (a ++ "\n").toList = a.toList ++ ['\n'] := String.toList_append
  have hjoined : (a ++ "\n" ++ b).toList = a.toList ++ '\n' :: b.toList := by
    rw [String.toList_append, hended, List.append_assoc, List.singleton_append]
  refine ⟨carriesOver_ofText fun r h => ?_, carriesOver_ofText fun r h => ?_, ?_, ?_⟩
  · rw [hjoined]
    exact occursIn_before_newline h b.toList
  · rw [hjoined]
    exact occursIn_behind_newline h a.toList
  · rw [nonBlankLines_ofText, nonBlankLines_ofText, nonBlankLines_ofText, hjoined,
      Text.lines_append_newline, List.countP_append, Text.countP_lines_concat]
  · show (Text.lines (a ++ "\n" ++ b).toList).length = (Text.lines (a ++ "\n").toList).length + _
    rw [hjoined, hended, Text.lines_append_newline, List.length_append]
    rfl

/-- A chain that goes on behind the line feed is seen in neither text alone. -/
example : (ofText "f().").hasChaining = false ∧ (ofText "g()").hasChaining = false ∧
    (ofText "f().\ng()").hasChaining = true := by
  decide +kernel

end Features
end Motif
