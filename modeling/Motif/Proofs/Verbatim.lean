import Motif.Proofs.CatalogChanges
import Motif.Proofs.LowerCase

/-!
Indicators that stand in a code as they were given.  An indicator is put in lower case alone, the
code as a whole, and the two agree but for capital sigmas.  A sigma takes its form from the
characters around it, so one near an end of the indicator may have another form in the code.  An
indicator is found wherever it stands if and only if the indicator itself settles the forms of its
capital sigmas.
-/

namespace Motif
namespace Text

/-! ## The form of a sigma in a longer text -/

variable {s before after : List Char}

theorem startsCased_append_of_all (h : s.all isCaseIgnorable = true) (t : List Char) :
    startsCased (s ++ t) = startsCased t := by
  have hskip : s.dropWhile isCaseIgnorable = [] :=
    List.dropWhile_eq_nil_iff.mpr (List.all_eq_true.mp h)
  rw [startsCased, List.dropWhile_append, hskip, List.isEmpty_nil, if_pos rfl, startsCased]

theorem startsCased_append_of_not_all (h : s.all isCaseIgnorable = false) (t : List Char) :
    startsCased (s ++ t) = startsCased s := by
  have hstop : s.dropWhile isCaseIgnorable ≠ [] := fun hnil =>
    Bool.eq_false_iff.mp h (List.all_eq_true.mpr (List.dropWhile_eq_nil_iff.mp hnil))
  cases hrest : s.dropWhile isCaseIgnorable with
  | nil => exact absurd hrest hstop
  | cons c rest =>
    rw [startsCased, startsCased, List.dropWhile_append, hrest]
    rfl

theorem startsCased_of_all (h : s.all isCaseIgnorable = true) : startsCased s = false := by
  have hnil := startsCased_append_of_all h []
  rwa [List.append_nil] at hnil

theorem not_all_of_startsCased (h : startsCased s = true) : s.all isCaseIgnorable = false := by
  rw [← Bool.not_eq_true]
  intro hall
  rw [startsCased_of_all hall] at h
  cases h

/-- Two texts that settle the form of a capital sigma between them, the one before it given
backwards: a word goes on after it, or the text before it tells whether a word may end there, and if
so the text after it tells that it does. -/
def IsSettled (before after : List Char) : Prop :=
  startsCased after = true ∨
    before.all isCaseIgnorable = false ∧
      (startsCased before = false ∨ after.all isCaseIgnorable = false)

theorem IsSettled.lowerSigma_append (h : IsSettled before after) (b a : List Char) :
    lowerSigma (before ++ b) (after ++ a) = lowerSigma before after := by
  rcases h with hafter | ⟨hbefore, hfalse | hafter⟩
  · have hcased := startsCased_append_of_not_all (not_all_of_startsCased hafter) a
    rw [lowerSigma, lowerSigma, hcased, hafter, Bool.not_true, Bool.and_false, Bool.and_false]
  · rw [lowerSigma, lowerSigma, startsCased_append_of_not_all hbefore, hfalse, Bool.false_and,
      Bool.false_and]
  · rw [lowerSigma, lowerSigma, startsCased_append_of_not_all hbefore,
      startsCased_append_of_not_all hafter]

theorem lowerSigma_eq_or (before after : List Char) :
    lowerSigma before after = 'ς' ∨ lowerSigma before after = 'σ' := by
  rw [lowerSigma]
  split
  · exact .inl rfl
  · exact .inr rfl

/-- There are two forms, so what is not the one is the other. -/
theorem lowerSigma_eq_of_ne {before' after' : List Char} {e : Char} (he : e = 'ς' ∨ e = 'σ')
    (h : lowerSigma before after ≠ e) (h' : lowerSigma before' after' ≠ e) :
    lowerSigma before after = lowerSigma before' after' := by
  rcases lowerSigma_eq_or before after with hform | hform <;>
    rcases lowerSigma_eq_or before' after' with hform' | hform' <;>
    rcases he with rfl | rfl <;> simp_all

/-- A letter before the text can only bring a sigma to the end of a word. -/
theorem lowerSigma_of_letter_before (h : lowerSigma (before ++ ['A']) after = 'σ') :
    lowerSigma before after = 'σ' := by
  cases hbefore : before.all isCaseIgnorable with
  | true => rw [lowerSigma, startsCased_of_all hbefore, Bool.false_and, if_neg Bool.false_ne_true]
  | false => rwa [lowerSigma, startsCased_append_of_not_all hbefore] at h

/-- A letter after the text can only take a sigma away from the end of a word. -/
theorem lowerSigma_of_letter_after (h : lowerSigma before (after ++ ['A']) = 'ς') :
    lowerSigma before after = 'ς' := by
  cases hafter : after.all isCaseIgnorable with
  | true =>
    have hcased : startsCased ['A'] = true := by decide
    rw [lowerSigma, startsCased_append_of_all hafter, hcased, Bool.not_true, Bool.and_false,
      if_neg Bool.false_ne_true] at h
    exact absurd h (by decide)
  | false => rwa [lowerSigma, startsCased_append_of_not_all hafter] at h

/-- A letter on one side or on the other changes a form that is not settled. -/
theorem lowerSigma_ne_of_not_isSettled (h : ¬ IsSettled before after) :
    lowerSigma (before ++ ['A']) after ≠ lowerSigma before after ∨
      lowerSigma before (after ++ ['A']) ≠ lowerSigma before after := by
  have hcased : startsCased ['A'] = true := by decide
  obtain ⟨hafter, hopen⟩ := not_or.mp h
  rw [Bool.not_eq_true] at hafter
  cases hbefore : before.all isCaseIgnorable with
  | true =>
    refine .inl ?_
    rw [lowerSigma, lowerSigma, startsCased_append_of_all hbefore, startsCased_of_all hbefore,
      hcased, hafter]
    decide
  | false =>
    obtain ⟨hword, hall⟩ := not_or.mp (not_and.mp hopen hbefore)
    rw [Bool.not_eq_false] at hword hall
    refine .inr ?_
    rw [lowerSigma, lowerSigma, startsCased_append_of_all hall, hword, hcased, hafter]
    decide

/-! ## Parts that a longer text hides -/

/-- Where a place gives a character one form of the sigma only if another place does, it gives the
form less often, unless it gives the character the same lower case. -/
theorem count_lowerAt {before' after' : List Char} {c e : Char} (he : e = 'ς' ∨ e = 'σ')
    (h : c = sigma → lowerSigma before' after' = e → lowerSigma before after = e) :
    (lowerAt before' c after').count e ≤ (lowerAt before c after).count e ∧
      ((lowerAt before' c after').count e = (lowerAt before c after).count e →
        lowerAt before' c after' = lowerAt before c after) := by
  by_cases hc : c = sigma
  · rw [hc, lowerAt_sigma, lowerAt_sigma]
    by_cases hform : lowerSigma before' after' = e
    · rw [hform, h hc hform]
      exact ⟨Nat.le_refl _, fun _ => rfl⟩
    · have hzero : List.count e [lowerSigma before' after'] = 0 :=
        List.count_eq_zero.mpr fun hin => hform (List.mem_singleton.mp hin).symm
      rw [hzero]
      refine ⟨Nat.zero_le _, fun hcount => ?_⟩
      have hother : lowerSigma before after ≠ e := fun heq =>
        List.count_eq_zero.mp hcount.symm (List.mem_singleton.mpr heq.symm)
      rw [lowerSigma_eq_of_ne he hform hother]
  · rw [lowerAt_of_ne hc, lowerAt_of_ne hc]
    exact ⟨Nat.le_refl _, fun _ => rfl⟩

/-- Where a place has one form of the sigma only if another place has it, it has the form less
often, unless it gives the part the same lower case. -/
theorem count_lowerIn {before' after' : List Char} {e : Char} (he : e = 'ς' ∨ e = 'σ')
    (h : ∀ p q, s = p ++ sigma :: q → lowerSigma (p.reverse ++ before') (q ++ after') = e →
      lowerSigma (p.reverse ++ before) (q ++ after) = e) :
    (lowerIn before' s after').count e ≤ (lowerIn before s after).count e ∧
      ((lowerIn before' s after').count e = (lowerIn before s after).count e →
        lowerIn before' s after' = lowerIn before s after) := by
  induction s generalizing before before' with
  | nil => exact ⟨Nat.le_refl _, fun _ => rfl⟩
  | cons c rest ih =>
    have htail : ∀ p q, rest = p ++ sigma :: q →
        lowerSigma (p.reverse ++ c :: before') (q ++ after') = e →
          lowerSigma (p.reverse ++ c :: before) (q ++ after) = e := by
      intro p q hsplit
      have hcons := h (c :: p) q (by rw [hsplit]; rfl)
      rwa [List.reverse_cons, List.append_assoc, List.append_assoc] at hcons
    have hrest := ih htail
    have hhead : (lowerAt before' c (rest ++ after')).count e ≤
          (lowerAt before c (rest ++ after)).count e ∧
        ((lowerAt before' c (rest ++ after')).count e = (lowerAt before c (rest ++ after)).count e →
          lowerAt before' c (rest ++ after') = lowerAt before c (rest ++ after)) :=
      count_lowerAt he fun hc => h [] rest (by rw [hc]; rfl)
    rw [lowerIn, lowerIn, List.count_append, List.count_append]
    refine ⟨Nat.add_le_add hhead.1 hrest.1, fun heq => ?_⟩
    rw [hhead.2 (by omega), hrest.2 (by omega)]

/-- The part does not stand in the lower case of a longer text when its own lower case has a form of
the sigma more often than the text. -/
theorem not_infix_lower (part a b : List Char) {e : Char} (he : e = 'ς' ∨ e = 'σ')
    (h : ∀ p q, part = p ++ sigma :: q → lowerSigma (p.reverse ++ a.reverse) (q ++ b) = e →
      lowerSigma p.reverse q = e)
    (hne : lowerIn a.reverse part b ≠ lower part) (ha : e ∉ lowerIn [] a (part ++ b))
    (hb : e ∉ lowerIn (part.reverse ++ a.reverse) b []) :
    ¬ lower part <:+: lower (a ++ part ++ b) := by
  intro hinfix
  have halone : ∀ p q, part = p ++ sigma :: q → lowerSigma (p.reverse ++ a.reverse) (q ++ b) = e →
      lowerSigma (p.reverse ++ []) (q ++ []) = e := by
    intro p q hsplit hform
    rw [List.append_nil, List.append_nil]
    exact h p q hsplit hform
  obtain ⟨hle, hsame⟩ := count_lowerIn he halone
  have htotal := hinfix.sublist.count_le e
  rw [lower_append_append, List.count_append, List.count_append, List.count_eq_zero.mpr ha,
    List.count_eq_zero.mpr hb, Nat.zero_add, Nat.add_zero, lower_eq_lowerIn] at htotal
  rw [lower_eq_lowerIn] at hne
  exact hne (hsame (Nat.le_antisymm hle htotal))

/-- A capital sigma that the part does not settle is lost in a text with one letter more. -/
theorem not_infix_of_not_isSettled {p q : List Char} (h : ¬ IsSettled p.reverse q) :
    let part := p ++ sigma :: q
    ¬ lower part <:+: lower ('A' :: part) ∨ ¬ lower part <:+: lower (part ++ ['A']) := by
  intro part
  have hletter (before after : List Char) : lowerIn before ['A'] after = ['a'] := by
    have hcapital : lowerChar 'A' = ['a'] := by decide
    rw [lowerIn, lowerIn, List.append_nil, lowerAt_of_ne (by decide), hcapital]
  have hplace {a b : List Char}
      (hform : lowerSigma (p.reverse ++ a) (q ++ b) ≠ lowerSigma p.reverse q) :
      lowerIn a part b ≠ lower part := by
    rw [lower_eq_lowerIn]
    intro heq
    have hsame := lowerIn_eq_iff.mp heq p q rfl
    rw [List.append_nil, List.append_nil] at hsame
    exact hform hsame
  rcases lowerSigma_ne_of_not_isSettled h with hform | hform
  · left
    have hnot := not_infix_lower part ['A'] [] (.inr rfl)
      (fun r t _ hplace => ?_) (hplace (by rwa [List.append_nil])) ?_ ?_
    · rwa [List.append_nil] at hnot
    · rw [List.append_nil] at hplace
      exact lowerSigma_of_letter_before hplace
    · rw [List.append_nil, hletter]
      decide
    · exact List.not_mem_nil
  · right
    have hnot := not_infix_lower part [] ['A'] (.inl rfl)
      (fun r t _ hplace => ?_) (hplace (by rwa [List.reverse_nil, List.append_nil])) ?_ ?_
    · rwa [List.nil_append] at hnot
    · rw [List.reverse_nil, List.append_nil] at hplace
      exact lowerSigma_of_letter_after hplace
    · exact List.not_mem_nil
    · rw [hletter]
      decide

end Text

/-! ## What the matcher finds -/

namespace Matcher

/-- Whether the pattern of the name matches the code, with the indicator in the form in which it is
kept among those that occur. -/
def Finds (m : Matcher) (c : Catalog) (code name indicator : String) : Prop :=
  ∃ x ∈ m.score c code, x.pattern = name ∧ Pattern.normalize indicator ∈ x.indicators

theorem finds_iff {m : Matcher} {c : Catalog} {p : Pattern} (hp : p ∈ c.patterns) {i : String}
    (hi : Pattern.normalize i ∈ p.indicators) (code : String) :
    m.Finds c code p.name i ↔ Text.lower (Text.trim i.toList) <:+: Text.lower code.toList := by
  have hform : (Pattern.normalize i).toList = Text.lower (Text.trim i.toList) :=
    String.toList_ofList
  constructor
  · rintro ⟨x, hx, -, hin⟩
    obtain ⟨q, -, hmatch⟩ := mem_score.mp hx
    rw [← hform]
    exact (((reports_of_match? hmatch).indicators _).mp hin).2
  · intro hoccurs
    rw [← hform] at hoccurs
    obtain ⟨x, hmatch⟩ := (exists_match?_iff m (Text.lower code.toList) p).mpr ⟨_, hi, hoccurs⟩
    have hreports := reports_of_match? hmatch
    exact ⟨x, mem_score.mpr ⟨p, hp, hmatch⟩, hreports.pattern,
      (hreports.indicators _).mpr ⟨hi, hoccurs⟩⟩

/-- A registered indicator is found in the codes that have its lower case in theirs.  Where it
stands in a code verbatim, it is found if each of its capital sigmas has the form there that it has
in the indicator alone.  It is found wherever it stands if and only if it settles these forms
itself. -/
theorem verbatim_indicators_are_found (m : Matcher) (before after : List Catalog.Change)
    (p : Provider) (i : String) (hnew : (Catalog.build before).get? p.name = none)
    (hi : i ∈ p.indicators) (hvisible : Text.isAllBlank i.toList = false) :
    let c := Catalog.build (before ++ .register p :: after)
    let part := Text.trim i.toList
    (∀ code, m.Finds c code p.name i ↔ Text.lower part <:+: Text.lower code.toList) ∧
    (∀ code a b, code.toList = a ++ part ++ b →
      (∀ s t, part = s ++ Text.sigma :: t →
        Text.lowerSigma (s.reverse ++ a.reverse) (t ++ b) = Text.lowerSigma s.reverse t) →
      m.Finds c code p.name i) ∧
    ((∀ code, part <:+: code.toList → m.Finds c code p.name i) ↔
      ∀ s t, part = s ++ Text.sigma :: t → Text.IsSettled s.reverse t) := by
  intro c part
  obtain ⟨q, hq, hname, hindicators⟩ := Catalog.exists_pattern_of_register hnew after
  have hkept : Pattern.normalize i ∈ q.indicators := by
    rw [hindicators]
    exact Pattern.normalize_mem_indicatorSet hi hvisible
  have hfinds (code : String) :
      m.Finds c code p.name i ↔ Text.lower part <:+: Text.lower code.toList := by
    rw [← hname]
    exact finds_iff hq hkept code
  have hplace : ∀ code a b, code.toList = a ++ part ++ b →
      (∀ s t, part = s ++ Text.sigma :: t →
        Text.lowerSigma (s.reverse ++ a.reverse) (t ++ b) = Text.lowerSigma s.reverse t) →
      m.Finds c code p.name i := by
    intro code a b hcode hforms
    have halone : Text.lowerIn a.reverse part b = Text.lower part := by
      rw [Text.lower_eq_lowerIn, Text.lowerIn_eq_iff]
      intro s t hsplit
      rw [List.append_nil, List.append_nil]
      exact hforms s t hsplit
    rw [hfinds, hcode, ← halone]
    exact Text.lowerIn_infix_lower a part b
  refine ⟨hfinds, hplace, fun hfound s t hsplit => ?_, fun hsettled code hin => ?_⟩
  · by_contra hopen
    have hfound' (code : List Char) (hin : part <:+: code) :
        Text.lower part <:+: Text.lower code := by
      have h := (hfinds (String.ofList code)).mp (hfound _ (by rwa [String.toList_ofList]))
      rwa [String.toList_ofList] at h
    have hhidden := Text.not_infix_of_not_isSettled hopen
    rw [← hsplit] at hhidden
    rcases hhidden with hnot | hnot
    · exact hnot (hfound' _ (List.suffix_cons _ _).isInfix)
    · exact hnot (hfound' _ (List.prefix_append _ _).isInfix)
  · obtain ⟨a, b, hcode⟩ := hin
    exact hplace code a b hcode.symm fun s t hsplit => (hsettled s t hsplit).lowerSigma_append _ _

/-- A name that ends in a sigma and does so in the code too.  The weight lies above the cap. -/
theorem verbatim_indicators_are_found_sum :
    let sum : Provider := ⟨"Sum", ["totalΣ"], 0.5, "A running total"⟩
    let capped : List Catalog.Change := [.withCap 0.4]
    let c := Catalog.build (capped ++ .register sum :: [])
    (Catalog.build capped).get? sum.name = none ∧ "totalΣ" ∈ sum.indicators ∧
      Text.isAllBlank "totalΣ".toList = false ∧
      (Matcher.make 0.1).Finds c "let totalΣ = 1;" sum.name "totalΣ" := by
  intro sum capped c
  have hnew : (Catalog.build capped).get? sum.name = none := rfl
  have hi : "totalΣ" ∈ sum.indicators := .head _
  have hvisible : Text.isAllBlank "totalΣ".toList = false := by decide +kernel
  have hfinds := (verbatim_indicators_are_found (Matcher.make 0.1) capped [] sum "totalΣ" hnew hi
    hvisible).1 "let totalΣ = 1;"
  have hoccurs : Text.lower (Text.trim "totalΣ".toList) <:+:
      Text.lower "let totalΣ = 1;".toList := by
    decide +kernel
  exact ⟨hnew, hi, hvisible, hfinds.mpr hoccurs⟩

/-- The code has the indicator at the beginning of a longer word, and it is not found. -/
theorem longer_word_hides_indicator :
    let sum : Provider := ⟨"Sum", ["totalΣ"], 0.5, "A running total"⟩
    let c := Catalog.build [.register sum]
    Text.trim "totalΣ".toList <:+: "let totalΣx = 1;".toList ∧
      ¬ (Matcher.make 0.1).Finds c "let totalΣx = 1;" sum.name "totalΣ" := by
  intro sum c
  have hnew : (Catalog.build []).get? sum.name = none := rfl
  have hstands : Text.trim "totalΣ".toList <:+: "let totalΣx = 1;".toList := by decide +kernel
  have hvisible : Text.isAllBlank "totalΣ".toList = false := by decide +kernel
  have hhidden : ¬ Text.lower (Text.trim "totalΣ".toList) <:+:
      Text.lower "let totalΣx = 1;".toList := by
    decide +kernel
  obtain ⟨q, hq, hname, hindicators⟩ := Catalog.exists_pattern_of_register hnew []
  have hkept : Pattern.normalize "totalΣ" ∈ q.indicators := by
    rw [hindicators]
    exact Pattern.normalize_mem_indicatorSet (.head _) hvisible
  have hin : q ∈ c.patterns := hq
  rw [← hname, finds_iff hin hkept]
  exact ⟨hstands, hhidden⟩

end Matcher
end Motif
