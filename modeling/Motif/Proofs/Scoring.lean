import Motif.Proofs.Double.Quotient
import Motif.Proofs.Recognition

/-!
Scoring is exact.  The matches of a code are the patterns of which an indicator occurs in it, each
once, with the indicators that occur and the confidence that their share gives.  Names are taken
once in a catalog and every confidence is a number, whatever the cap, so the ranking is a strict
order on the matches and the order of registration leaves no trace.
-/

namespace Motif

open Double

/-! ## What a match reports -/

namespace Match

/-- What a match of a pattern says about a text in lower case.  The share of the indicators is taken
first and scales the base confidence then. -/
structure Reports (m : Matcher) (text : List Char) (p : Pattern) (x : Match) : Prop where
  pattern : x.pattern = p.name
  description : x.description = p.description
  indicators : ∀ i, i ∈ x.indicators ↔ i ∈ p.indicators ∧ i.toList <:+: text
  ascending : x.indicators.Pairwise (· < ·)
  found : x.found = x.indicators.length
  total : x.total = p.indicators.size
  confidence : x.confidence =
    Confidence.least (p.baseConfidence * Confidence.ratio x.found x.total) m.cap

/-- Most confidence first, then most indicators, and by name when these are equal. -/
def Precedes (x y : Match) : Prop :=
  y.confidence < x.confidence ∨
    (x.confidence ≤ y.confidence ∧ y.confidence ≤ x.confidence) ∧
      (y.found < x.found ∨ x.found = y.found ∧ x.pattern < y.pattern)

theorem precedes_of_key_le {x y : Match} (hx : IsNumber x.confidence) (hy : IsNumber y.confidence)
    (h : x.key ≤ y.key) (hne : x.pattern ≠ y.pattern) : x.Precedes y := by
  rcases Prod.Lex.toLex_le_toLex.mp h with hlt | ⟨heq, hrest⟩
  · exact Or.inl (lt_iff.mpr ⟨hy, hx, OrderDual.toDual_lt_toDual.mp hlt⟩)
  · have hrank := OrderDual.toDual_inj.mp heq
    refine Or.inr ⟨⟨le_iff.mpr ⟨hx, hy, hrank.le⟩, le_iff.mpr ⟨hy, hx, hrank.ge⟩⟩, ?_⟩
    rcases Prod.Lex.toLex_le_toLex.mp hrest with hlt | ⟨hfound, hname⟩
    · exact Or.inl (OrderDual.toDual_lt_toDual.mp hlt)
    · exact Or.inr ⟨OrderDual.toDual_inj.mp hfound, lt_of_le_of_ne hname hne⟩

end Match

namespace Catalog

/-- The bound that the memory of a machine puts on the sets of a catalog. -/
def FitsMachine (c : Catalog) : Prop := ∀ p ∈ c.patterns, p.indicators.size ≤ Decimal.word64

theorem cap_ofProviders (ps : List Provider) : (ofProviders ps).cap = empty.cap := by
  induction ps using List.reverseRecOn with
  | nil => rfl
  | append_singleton ps p ih =>
    rw [ofProviders, List.foldl_append, ← ofProviders, List.foldl_cons, List.foldl_nil, register]
    split
    · exact ih
    · exact ih

/-- Providers of different names are all adopted, in their order. -/
theorem patterns_ofProviders {ps : List Provider} (h : (ps.map (·.name)).Nodup) :
    (ofProviders ps).patterns = ps.map empty.adopt := by
  induction ps using List.reverseRecOn with
  | nil => rfl
  | append_singleton ps p ih =>
    rw [List.map_append, List.map_singleton, ← List.concat_eq_append, List.nodup_concat] at h
    obtain ⟨hfresh, hnodup⟩ := h
    have hnew : (ofProviders ps).get? p.name = none := by
      rw [get?, List.find?_eq_none, ih hnodup]
      intro q hq hname
      obtain ⟨r, hr, rfl⟩ := List.mem_map.mp hq
      rw [name_adopt, beq_iff_eq] at hname
      exact hfresh (List.mem_map.mpr ⟨r, hr, hname⟩)
    have hadopt : (ofProviders ps).adopt p = empty.adopt p := by
      rw [adopt, adopt, cap_ofProviders]
    rw [ofProviders, List.foldl_append, ← ofProviders, List.foldl_cons, List.foldl_nil, register,
      hnew, List.map_append, ← ih hnodup, List.map_singleton, ← hadopt]
    rfl

theorem patterns_ofProviders_pair {p q : Provider} (h : p.name ≠ q.name) :
    (ofProviders [p, q]).patterns = [empty.adopt p, empty.adopt q] :=
  patterns_ofProviders (by simpa using h)

end Catalog

namespace Matcher

variable {m : Matcher} {text : List Char} {p : Pattern} {x : Match}

theorem exists_match?_iff (m : Matcher) (text : List Char) (p : Pattern) :
    (∃ x, m.match? text p = some x) ↔ ∃ i ∈ p.indicators, i.toList <:+: text := by
  have hsome : (m.match? text p).isSome = p.occursIn text := by
    have hname := congrArg Option.isSome (map_pattern_match? m text p)
    rw [Option.isSome_map] at hname
    rw [hname]
    cases p.occursIn text <;> rfl
  rw [← Option.isSome_iff_exists, hsome, Pattern.occursIn, List.any_eq_true]
  simp only [Text.includes_iff, WordSet.mem_words]

theorem reports_of_match? (h : m.match? text p = some x) : x.Reports m text p := by
  rw [match?] at h
  split at h
  · cases h
  · obtain rfl := Option.some.inj h
    refine ⟨rfl, rfl, fun i => ?_, p.indicators.sorted.filter _, rfl, rfl, rfl⟩
    rw [List.mem_filter, Text.includes_iff, WordSet.mem_words]

/-- The cap does not have to be a number for this. -/
theorem isNumber_of_match? (hp : 0.0 ≤ p.baseConfidence)
    (hsize : p.indicators.size ≤ Decimal.word64) (h : m.match? text p = some x) :
    IsNumber x.confidence := by
  obtain ⟨i, hi, hin⟩ := (exists_match?_iff m text p).mp ⟨x, h⟩
  have hreports := reports_of_match? h
  have hpos : 0 < x.found := by
    rw [hreports.found]
    exact List.length_pos_of_mem ((hreports.indicators i).mpr ⟨hi, hin⟩)
  have hle : x.found ≤ x.total := by
    have hsub : x.indicators ⊆ p.indicators.words := fun i hi => ((hreports.indicators i).mp hi).1
    have hnodup : x.indicators.Nodup := hreports.ascending.imp fun hlt => ne_of_lt hlt
    rw [hreports.found, hreports.total]
    exact (hnodup.subperm hsub).length_le
  have hproduct := isNumber_mul_ratio hp hpos hle (hreports.total.trans_le hsize)
  rw [hreports.confidence]
  exact (le_iff.mp (Confidence.least_le_left hproduct)).1

variable {c d : Catalog} {code : String}

theorem mem_score : x ∈ m.score c code ↔
    ∃ p ∈ c.patterns, m.match? (Text.lower code.toList) p = some x := by
  rw [score, (List.mergeSort_perm _ _).mem_iff, List.mem_filterMap]

theorem nodup_score (m : Matcher) (hc : c.Constructible) (code : String) :
    ((m.score c code).map (·.pattern)).Nodup := by
  rw [(m.score_perm_recognised c code).nodup_iff]
  exact hc.nodup_names.sublist (List.filter_sublist.map _)

theorem isNumber_of_mem_score (hc : c.Constructible) (hsizes : c.FitsMachine) :
    ∀ x ∈ m.score c code, IsNumber x.confidence := by
  intro x hx
  obtain ⟨p, hp, hmatch⟩ := mem_score.mp hx
  exact isNumber_of_match? (hc.zero_le p hp) (hsizes p hp) hmatch

theorem pairwise_score (hc : c.Constructible) (hsizes : c.FitsMachine) :
    (m.score c code).Pairwise Match.Precedes := by
  have hnumbers : ∀ x ∈ m.score c code, IsNumber x.confidence := isNumber_of_mem_score hc hsizes
  refine Sequence.pairwise_of_keys (pairwise_key_score hnumbers) (nodup_score m hc code) ?_
  exact fun x hx y hy hle hne => Match.precedes_of_key_le (hnumbers x hx) (hnumbers y hy) hle hne

/-- Catalogs of the same patterns give the same matches in the same order. -/
theorem score_congr (hc : c.Constructible) (hsizes : c.FitsMachine) (hd : d.Constructible)
    (h : ∀ p, p ∈ d.patterns ↔ p ∈ c.patterns) : m.score d code = m.score c code := by
  have hperm : d.patterns.Perm c.patterns :=
    (List.perm_ext_iff_of_nodup hd.nodup_names.of_map hc.nodup_names.of_map).mpr h
  have hscores : (m.score d code).Perm (m.score c code) :=
    (List.mergeSort_perm _ _).trans ((hperm.filterMap _).trans (List.mergeSort_perm _ _).symm)
  have hnumbers : ∀ x ∈ m.score c code, IsNumber x.confidence := isNumber_of_mem_score hc hsizes
  have hnumbers' : ∀ x ∈ m.score d code, IsNumber x.confidence := fun x hx =>
    hnumbers x (hscores.mem_iff.mp hx)
  -- a list without repeated names has one arrangement in which the keys ascend
  refine List.Perm.eq_of_pairwise (fun x y hx hy hle hge => ?_) (pairwise_key_score hnumbers')
    (pairwise_key_score hnumbers) hscores
  have hkey : x.key = y.key := hle.antisymm hge
  have hname : x.pattern = y.pattern := by
    have hrest := congrArg (fun k => (ofLex (ofLex k).2).2) hkey
    exact hrest
  exact List.inj_on_of_nodup_map (nodup_score m hc code) (hscores.mem_iff.mp hx) hy hname

/-- Scoring a code finds the patterns of which an indicator occurs in it, each once and with what
the indicators say, ranked strictly.  The order in which the patterns were registered does not
matter. -/
theorem scoring_is_exact (m : Matcher) (c : Catalog) (code : String) (hc : c.Constructible)
    (hsizes : c.FitsMachine) :
    let text := Text.lower code.toList
    let found := m.score c code
    (found.map (·.pattern)).Nodup ∧
    (∀ x ∈ found, ∃ p ∈ c.patterns, x.Reports m text p) ∧
    (∀ p ∈ c.patterns, (∃ x ∈ found, x.Reports m text p) ↔
      ∃ i ∈ p.indicators, i.toList <:+: text) ∧
    found.Pairwise Match.Precedes ∧
    (∀ top rest, found = top :: rest → ∀ x ∈ found, x.confidence ≤ top.confidence) ∧
    ∀ d : Catalog, d.Constructible → (∀ p, p ∈ d.patterns ↔ p ∈ c.patterns) →
      m.score d code = found := by
  intro text found
  refine ⟨nodup_score m hc code, fun x hx => ?_, fun p hp => ?_, pairwise_score hc hsizes,
    fun top rest h => le_of_score_eq_cons (isNumber_of_mem_score hc hsizes) h,
    fun d hd h => score_congr hc hsizes hd h⟩
  · obtain ⟨p, hp, hmatch⟩ := mem_score.mp hx
    exact ⟨p, hp, reports_of_match? hmatch⟩
  · rw [← exists_match?_iff m]
    constructor
    · rintro ⟨x, hx, hreports⟩
      obtain ⟨q, hq, hmatch⟩ := mem_score.mp hx
      have hname : q.name = p.name := (reports_of_match? hmatch).pattern.symm.trans hreports.pattern
      obtain rfl := List.inj_on_of_nodup_map hc.nodup_names hq hp hname
      exact ⟨x, hmatch⟩
    · rintro ⟨x, hmatch⟩
      exact ⟨x, mem_score.mpr ⟨p, hp, hmatch⟩, reports_of_match? hmatch⟩

/-- Two patterns that tie in all but their names, registered in either order, under a cap that is no
number. -/
theorem scoring_is_exact_two :
    let first : Provider := ⟨"First", ["one"], 0.5, ""⟩
    let second : Provider := ⟨"Second", ["two"], 0.5, ""⟩
    let c := Catalog.ofProviders [first, second]
    let d := Catalog.ofProviders [second, first]
    let m : Matcher := ⟨0.0, 0.0 / 0.0⟩
    c.Constructible ∧ c.FitsMachine ∧ d.Constructible ∧ (∀ p, p ∈ d.patterns ↔ p ∈ c.patterns) ∧
      (∀ p ∈ c.patterns, ∃ x ∈ m.score c "One, Two", x.pattern = p.name) ∧
      m.score d "One, Two" = m.score c "One, Two" := by
  intro first second c d m
  have hc : c.Constructible := Catalog.constructible_ofProviders _
  have hd : d.Constructible := Catalog.constructible_ofProviders _
  have hpatterns := Catalog.patterns_ofProviders_pair (by decide : first.name ≠ second.name)
  have hpatterns' := Catalog.patterns_ofProviders_pair (by decide : second.name ≠ first.name)
  have hsizes : c.FitsMachine := by
    rw [Catalog.FitsMachine, hpatterns]
    decide +kernel
  have hsame (p : Pattern) : p ∈ d.patterns ↔ p ∈ c.patterns := by
    rw [hpatterns, hpatterns', List.mem_pair, List.mem_pair, or_comm]
  have hoccurs : ∀ p ∈ c.patterns, ∃ i ∈ p.indicators.words,
      i.toList <:+: Text.lower "One, Two".toList := by
    rw [hpatterns]
    decide +kernel
  obtain ⟨-, -, hfound, -, -, hcongr⟩ := scoring_is_exact m c "One, Two" hc hsizes
  refine ⟨hc, hsizes, hd, hsame, fun p hp => ?_, hcongr d hd hsame⟩
  obtain ⟨x, hx, hreports⟩ := (hfound p hp).mpr (hoccurs p hp)
  exact ⟨x, hx, hreports.pattern⟩

end Matcher
end Motif
