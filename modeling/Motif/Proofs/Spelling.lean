import Motif.Proofs.LowerCase
import Motif.Proofs.Scoring

/-!
The spelling in which indicators count.  A catalog keeps them without the blanks at their ends, so
a match of a built-in pattern counts the indicators whose trimmed form occurs in the code.  Where a
blank was meant to end a word, as in `case` and `static`, any longer word counts as well.
-/

namespace Motif

/-! ## Trimming -/

theorem Text.trim_infix (s : List Char) : trim s <:+: s := by
  have hend : trim s <+: trimStart s := by
    rw [trim, trimEnd, ← List.reverse_suffix, List.reverse_reverse]
    exact List.dropWhile_suffix isBlank
  exact hend.isInfix.trans (List.dropWhile_suffix isBlank).isInfix

/-- How many indicators occur in the text, each in the form that `spell` gives it. -/
def Provider.occurring (p : Provider) (spell : List Char → List Char) (text : List Char) : Nat :=
  p.indicators.countP fun i => Text.includes text (spell i.toList)

/-- Trimming hides no indicator.  It adds none if and only if each occurs as listed. -/
theorem Provider.occurring_trim_eq_iff (p : Provider) (text : List Char) :
    p.occurring Text.trim text = p.occurring id text ↔
      ∀ i ∈ p.indicators, Text.trim i.toList <:+: text → i.toList <:+: text := by
  have htrim (i : String) (h : Text.includes text i.toList = true) :
      Text.includes text (Text.trim i.toList) = true := by
    exact Text.includes_iff.mpr ((Text.trim_infix _).trans (Text.includes_iff.mp h))
  have hlisted : p.indicators.filter (fun i => Text.includes text i.toList) =
      (p.indicators.filter fun i => Text.includes text (Text.trim i.toList)).filter
        fun i => Text.includes text i.toList := by
    rw [List.filter_filter]
    refine List.filter_congr fun i _ => ?_
    cases h : Text.includes text i.toList with
    | false => rfl
    | true => rw [htrim i h]; rfl
  rw [occurring, occurring, List.countP_eq_length_filter, List.countP_eq_length_filter]
  show _ = (p.indicators.filter fun i => Text.includes text i.toList).length ↔ _
  rw [hlisted, eq_comm, List.length_filter_eq_length_iff]
  simp only [List.mem_filter, Text.includes_iff, and_imp]

/-! ## Sets of words -/

theorem WordSet.perm_words_ofList {ws : List String} (h : ws.Nodup) : (ofList ws).words.Perm ws :=
  (List.perm_ext_iff_of_nodup (ofList ws).nodup_words h).mpr fun _ => mem_ofList

/-! ## Catalogs of providers -/

namespace Catalog

theorem indicators_adopt (c : Catalog) (p : Provider) :
    (c.adopt p).indicators = Pattern.indicatorSet p.indicators := by
  rw [adopt]
  split
  · exact Pattern.indicatorSet_words p.indicators
  · rfl

end Catalog

/-! ## Matches of one name -/

namespace Matcher

/-- The numbers of indicators in the matches that go by the name. -/
def foundFor (m : Matcher) (c : Catalog) (code name : String) : List Nat :=
  ((m.score c code).filter (·.pattern == name)).map (·.found)

/-- A count as matches report it, where none is reported for nothing. -/
def reported (n : Nat) : List Nat := if n = 0 then [] else [n]

theorem reported_inj {n k : Nat} : reported n = reported k ↔ n = k := by
  simp only [reported]
  constructor
  · intro h
    split at h <;> split at h <;> simp_all
  · rintro rfl
    rfl

variable {m : Matcher}

theorem map_found_match? (m : Matcher) (text : List Char) (p : Pattern) :
    (m.match? text p).toList.map (·.found) =
      reported (p.indicators.words.countP fun i => Text.includes text i.toList) := by
  rw [match?, List.countP_eq_length_filter, reported]
  cases p.indicators.words.filter fun i => Text.includes text i.toList with
  | nil => rfl
  | cons i rest => rfl

/-- The matches of a pattern's name are the match of the pattern, if there is one. -/
theorem filter_score {c : Catalog} (hc : c.Constructible) {p : Pattern} (hp : p ∈ c.patterns)
    (code : String) :
    (m.score c code).filter (·.pattern == p.name) =
      (m.match? (Text.lower code.toList) p).toList := by
  have hmem : ∀ x, x ∈ (m.score c code).filter (·.pattern == p.name) ↔
      m.match? (Text.lower code.toList) p = some x := by
    intro x
    rw [List.mem_filter, mem_score, beq_iff_eq]
    constructor
    · rintro ⟨⟨q, hq, hmatch⟩, hname⟩
      have hqp : q.name = p.name := (reports_of_match? hmatch).pattern.symm.trans hname
      obtain rfl := List.inj_on_of_nodup_map hc.nodup_names hq hp hqp
      exact hmatch
    · intro hmatch
      exact ⟨⟨p, hp, hmatch⟩, (reports_of_match? hmatch).pattern⟩
  have hnodup : ((m.score c code).filter (·.pattern == p.name)).Nodup :=
    (nodup_score m hc code).of_map.filter _
  cases hmatch : m.match? (Text.lower code.toList) p with
  | none =>
    refine List.eq_nil_iff_forall_not_mem.mpr fun x hx => ?_
    rw [hmem, hmatch] at hx
    cases hx
  | some y =>
    refine List.perm_singleton.mp ((List.perm_ext_iff_of_nodup hnodup (List.nodup_singleton y)).mpr
      fun x => ?_)
    rw [hmem, hmatch, List.mem_singleton, Option.some_inj, eq_comm]

/-- A provider of a catalog is matched by the indicators that are kept of it. -/
theorem foundFor_ofProviders {ps : List Provider} (hps : (ps.map (·.name)).Nodup) {p : Provider}
    (hp : p ∈ ps) {kept : List String} (hnodup : kept.Nodup)
    (hkept : (p.indicators.map Pattern.normalize).filter (!·.isEmpty) = kept) (code : String) :
    m.foundFor (.ofProviders ps) code p.name =
      reported (kept.countP fun i => Text.includes (Text.lower code.toList) i.toList) := by
  have hc : (Catalog.ofProviders ps).Constructible := Catalog.constructible_ofProviders ps
  have hadopted : Catalog.empty.adopt p ∈ (Catalog.ofProviders ps).patterns := by
    rw [Catalog.patterns_ofProviders hps]
    exact List.mem_map_of_mem hp
  have hwords : (Catalog.empty.adopt p).indicators.words.Perm kept := by
    rw [Catalog.indicators_adopt, Pattern.indicatorSet, hkept]
    exact WordSet.perm_words_ofList hnodup
  rw [foundFor, ← Catalog.name_adopt .empty p, filter_score hc hadopted, map_found_match?,
    hwords.countP_eq]

/-! ## The built-in patterns -/

/-- The built-in patterns differ in name, and normalizing only trims their indicators. -/
theorem foundFor_seeded (m : Matcher) (code : String) {p : Provider} (hp : p ∈ Pattern.seeds) :
    m.foundFor .seeded code p.name =
      reported (p.occurring Text.trim (Text.lower code.toList)) := by
  have hnames : (Pattern.seeds.map (·.name)).Nodup := by decide +kernel
  have hkept : ∀ q ∈ Pattern.seeds,
      (q.indicators.map Pattern.normalize).filter (!·.isEmpty) =
          q.indicators.map (fun i => String.ofList (Text.trim i.toList)) ∧
        (q.indicators.map fun i => String.ofList (Text.trim i.toList)).Nodup := by
    decide +kernel
  obtain ⟨hp', hnodup⟩ := hkept p hp
  rw [Catalog.seeded, foundFor_ofProviders hnames hp hnodup hp', List.countP_map,
    Provider.occurring]
  simp only [Function.comp_def, String.toList_ofList]

/-- A match of a built-in pattern counts the indicators that occur without the blanks at their
ends, and there is none if none does.  This is their number as listed if and only if each that
occurs trimmed occurs as listed, which may fail for factories and singletons only. -/
theorem seeds_count_trimmed (m : Matcher) (code : String) {p : Provider}
    (hp : p ∈ Pattern.seeds) :
    let text := Text.lower code.toList
    let found := m.foundFor .seeded code p.name
    found = reported (p.occurring Text.trim text) ∧
      (found = reported (p.occurring id text) ↔
        ∀ i ∈ p.indicators, Text.trim i.toList <:+: text → i.toList <:+: text) ∧
      (p.name ∉ ["Factory Pattern", "Singleton Pattern"] →
        found = reported (p.occurring id text)) := by
  intro text found
  have hfound : found = reported (p.occurring Text.trim text) := foundFor_seeded m code hp
  have hlisted : found = reported (p.occurring id text) ↔
      ∀ i ∈ p.indicators, Text.trim i.toList <:+: text → i.toList <:+: text := by
    rw [hfound, reported_inj, Provider.occurring_trim_eq_iff]
  have htrimmed : ∀ q ∈ Pattern.seeds, q.name ∉ ["Factory Pattern", "Singleton Pattern"] →
      ∀ i ∈ q.indicators, Text.trim i.toList = i.toList := by
    decide +kernel
  refine ⟨hfound, hlisted, fun hname => hlisted.mpr fun i hi h => ?_⟩
  rw [← htrimmed p hp hname i hi]
  exact h

/-- A keyword at the end of its line, where no blank follows. -/
theorem seeds_count_trimmed_static :
    let singleton := Pattern.seeds[3]
    let code := "final static\nint instance;"
    singleton ∈ Pattern.seeds ∧ singleton.name = "Singleton Pattern" ∧
      singleton.occurring id (Text.lower code.toList) = 1 ∧
      (Matcher.make 0.1).foundFor .seeded code singleton.name = [2] := by
  intro singleton code
  have hin : singleton ∈ Pattern.seeds := List.getElem_mem (by decide)
  obtain ⟨hfound, -, -⟩ := seeds_count_trimmed (Matcher.make 0.1) code hin
  refine ⟨hin, rfl, by decide +kernel, ?_⟩
  rw [hfound]
  decide +kernel

/-- A longer word counts as the keyword inside it, so a text without any indicator as listed matches
the factory. -/
theorem showcases_count_as_case :
    let factory := Pattern.seeds[1]
    let code := "museum showcases"
    factory.name = "Factory Pattern" ∧
      factory.occurring id (Text.lower code.toList) = 0 ∧
      (Matcher.make 0.1).foundFor .seeded code factory.name = [1] := by
  intro factory code
  have hin : factory ∈ Pattern.seeds := List.getElem_mem (by decide)
  have hfound : (Matcher.make 0.1).foundFor .seeded code factory.name =
      reported (factory.occurring Text.trim (Text.lower code.toList)) :=
    foundFor_seeded (Matcher.make 0.1) code hin
  refine ⟨rfl, by decide +kernel, ?_⟩
  rw [hfound]
  decide +kernel

end Matcher
end Motif
