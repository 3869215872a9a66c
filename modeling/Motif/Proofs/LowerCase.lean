import Mathlib
import Motif.Pattern

/-!
Lower case, a part at a time.  A part of a text gets its lower case from its own characters and, at
its capital sigmas only, from what stands around it.  Lower case leaves alone what it gives, and
only blanks become blanks, so the form in which an indicator is kept is kept as it is.
-/

namespace Motif
namespace Text

/-! ## A part in its place -/

/-- The lower case of a part between two texts, the one before it given backwards. -/
def lowerIn (before : List Char) (s after : List Char) : List Char :=
  match s with
  | [] => []
  | c :: rest => lowerAt before c (rest ++ after) ++ lowerIn (c :: before) rest after

theorem lowerFrom_append (before s after : List Char) :
    lowerFrom before [] (s ++ after) =
      lowerIn before s after ++ lowerFrom (s.reverse ++ before) [] after := by
  induction s generalizing before with
  | nil => rfl
  | cons c rest ih =>
    rw [List.cons_append, lowerFrom_cons, ih, lowerIn, List.append_assoc, List.reverse_cons,
      List.append_assoc, List.singleton_append]

theorem lower_eq_lowerIn (s : List Char) : lower s = lowerIn [] s [] := by
  have happend := lowerFrom_append [] s []
  rwa [List.append_nil, lowerFrom, List.reverse_nil, List.append_nil] at happend

/-- The lower case of a text has that of each part in its place. -/
theorem lower_append_append (a s b : List Char) :
    lower (a ++ s ++ b) =
      lowerIn [] a (s ++ b) ++ lowerIn a.reverse s b ++ lowerIn (s.reverse ++ a.reverse) b [] := by
  have hrest := lowerFrom_append (s.reverse ++ a.reverse) b []
  rw [List.append_nil, lowerFrom, List.reverse_nil, List.append_nil] at hrest
  rw [lower, List.append_assoc, lowerFrom_append, lowerFrom_append, List.append_nil, hrest,
    List.append_assoc]

theorem lowerIn_infix_lower (a s b : List Char) :
    lowerIn a.reverse s b <:+: lower (a ++ s ++ b) := by
  rw [lower_append_append]
  exact ⟨_, _, rfl⟩

theorem lowerChar_ne_nil (c : Char) : lowerChar c ≠ [] := by
  rw [lowerChar]
  split
  · exact List.cons_ne_nil _ _
  split
  · exact List.cons_ne_nil _ _
  split <;> exact List.cons_ne_nil _ _

theorem lowerAt_ne_nil (before : List Char) (c : Char) (after : List Char) :
    lowerAt before c after ≠ [] := by
  rw [lowerAt]
  split
  · exact List.cons_ne_nil _ _
  · exact lowerChar_ne_nil c

theorem lowerAt_sigma (before after : List Char) :
    lowerAt before sigma after = [lowerSigma before after] :=
  if_pos (beq_self_eq_true sigma)

theorem lowerAt_of_ne {c : Char} (h : c ≠ sigma) (before after : List Char) :
    lowerAt before c after = lowerChar c :=
  if_neg fun heq => h (beq_iff_eq.mp heq)

/-- Two places give a part the same lower case if and only if they give each of its capital sigmas
the same form. -/
theorem lowerIn_eq_iff {before before' s after after' : List Char} :
    lowerIn before s after = lowerIn before' s after' ↔
      ∀ p q, s = p ++ sigma :: q →
        lowerSigma (p.reverse ++ before) (q ++ after) =
          lowerSigma (p.reverse ++ before') (q ++ after') := by
  induction s generalizing before before' with
  | nil =>
    refine ⟨fun _ p q h => ?_, fun _ => rfl⟩
    exact absurd h.symm (List.append_ne_nil_of_right_ne_nil p (List.cons_ne_nil _ _))
  | cons c rest ih =>
    have hlength : (lowerAt before c (rest ++ after)).length =
        (lowerAt before' c (rest ++ after')).length := by
      by_cases hc : c = sigma
      · rw [hc, lowerAt_sigma, lowerAt_sigma, List.length_singleton, List.length_singleton]
      · rw [lowerAt_of_ne hc, lowerAt_of_ne hc]
    have hsplit : lowerIn before (c :: rest) after = lowerIn before' (c :: rest) after' ↔
        lowerAt before c (rest ++ after) = lowerAt before' c (rest ++ after') ∧
          lowerIn (c :: before) rest after = lowerIn (c :: before') rest after' := by
      rw [lowerIn, lowerIn]
      exact ⟨fun h => List.append_inj h hlength, fun ⟨h, h'⟩ => by rw [h, h']⟩
    have hhead : lowerAt before c (rest ++ after) = lowerAt before' c (rest ++ after') ↔
        (c = sigma → lowerSigma before (rest ++ after) = lowerSigma before' (rest ++ after')) := by
      by_cases hc : c = sigma
      · rw [hc, lowerAt_sigma, lowerAt_sigma, List.singleton_inj]
        exact ⟨fun h _ => h, fun h => h rfl⟩
      · rw [lowerAt_of_ne hc, lowerAt_of_ne hc]
        exact ⟨fun _ h => absurd h hc, fun _ => rfl⟩
    rw [hsplit, hhead, ih]
    constructor
    · rintro ⟨hfirst, hothers⟩ p q h
      cases p with
      | nil =>
        obtain ⟨hc, rfl⟩ := List.cons.inj h
        exact hfirst hc
      | cons d p =>
        obtain ⟨rfl, hrest⟩ := List.cons.inj h
        have hform := hothers p q hrest
        rwa [List.reverse_cons, List.append_assoc, List.append_assoc]
    · intro h
      refine ⟨fun hc => h [] rest (by rw [hc]; rfl), fun p q hrest => ?_⟩
      have hform := h (c :: p) q (by rw [hrest]; rfl)
      rwa [List.reverse_cons, List.append_assoc, List.append_assoc] at hform

/-! ## What capitals map to -/

namespace CaseRun

/-- The greatest code point that the run maps to. -/
def top (r : CaseRun) : Nat := r.target + (r.last - r.first)

/-- Whether all that the run maps to are characters, and none of them is a blank or a capital of
ASCII. -/
def isTidy (r : CaseRun) : Bool :=
  (r.top < 0xD800 || 0xDFFF < r.target && r.top < 0x110000) &&
    (List.range (r.last - r.first + 1)).all fun k =>
      !isBlank (Char.ofNat (r.target + k)) && !(Char.ofNat (r.target + k)).isUpper

/-- Whether the run maps to nothing that the other covers: they lie apart, or one takes the odd code
points and the other the even ones. -/
def isApartFrom (r q : CaseRun) : Bool :=
  r.top < q.first || q.last < r.target ||
    (r.step == 2 || r.first == r.last) && q.step == 2 && (r.target + q.first) % 2 == 1

theorem isTidy_of_mem : ∀ r ∈ capitalRuns.toList, r.isTidy = true := by
  decide +kernel

theorem all_isApartFrom :
    (capitalRuns.toList.all fun r => capitalRuns.toList.all r.isApartFrom) = true := by
  decide +kernel

/-- The dotted capital I is in no run, and no run maps to it. -/
theorem ne_dotted_of_mem : ∀ r ∈ capitalRuns.toList, r.isApartFrom ⟨0x130, 0x130, 2, 0⟩ = true := by
  decide +kernel

variable {r q : CaseRun} {code : Nat}

theorem toNat_apply (h : r.isTidy = true) (hcode : r.covers code = true) :
    (r.apply code).toNat = r.target + (code - r.first) := by
  simp only [isTidy, covers, Bool.and_eq_true, Bool.or_eq_true, decide_eq_true_eq] at h hcode
  have hvalid : (r.target + (code - r.first)).isValidChar := by
    rw [Nat.isValidChar]
    rw [top] at h
    omega
  rw [apply, Char.ofNat, dif_pos hvalid]
  rfl

theorem isPlain_apply (h : r.isTidy = true) (hcode : r.covers code = true) :
    isBlank (r.apply code) = false ∧ (r.apply code).isUpper = false := by
  simp only [covers, Bool.and_eq_true, decide_eq_true_eq] at hcode
  have hplace : code - r.first ∈ List.range (r.last - r.first + 1) := by
    rw [List.mem_range]
    omega
  have himage := List.all_eq_true.mp (Bool.and_eq_true_iff.mp h).2 _ hplace
  rwa [Bool.and_eq_true, Bool.not_eq_true', Bool.not_eq_true'] at himage

theorem covers_image (h : r.isApartFrom q = true) (hcode : r.covers code = true) :
    q.covers (r.target + (code - r.first)) = false := by
  rw [← Bool.not_eq_true]
  intro himage
  simp only [isApartFrom, covers, Bool.and_eq_true, Bool.or_eq_true, decide_eq_true_eq,
    beq_iff_eq] at h hcode himage
  rw [top] at h
  rcases h with (h | h) | ⟨⟨h | h, hstep⟩, hodd⟩
  · omega
  · omega
  · rw [h] at hcode
    rw [hstep] at himage
    omega
  · rw [hstep] at himage
    omega

end CaseRun

/-! ## Lower case of lower case -/

/-- A character that lower case leaves alone, wherever it stands. -/
def IsSmall (c : Char) : Prop := ∀ before after, lowerAt before c after = [c]

theorem isSmall_of_lowerChar {c : Char} (hc : c ≠ sigma) (h : lowerChar c = [c]) : IsSmall c :=
  fun before after => (lowerAt_of_ne hc before after).trans h

theorem isSmall_of_not_isUpper {c : Char} (hascii : c.toNat < 128) (h : c.isUpper = false) :
    IsSmall c := by
  refine isSmall_of_lowerChar (fun heq => absurd hascii (heq ▸ by decide)) ?_
  rw [lowerChar, if_pos hascii, Char.toLower_eq_of_not_isUpper (Bool.eq_false_iff.mp h)]

theorem isSmall_of_not_covers {c : Char} (hascii : 128 ≤ c.toNat) (hdotted : c ≠ 'İ')
    (h : ∀ r ∈ capitalRuns.toList, r.covers c.toNat = false) : IsSmall c := by
  have hsigma : ∃ r ∈ capitalRuns.toList, r.covers sigma.toNat = true := by decide +kernel
  have hnone : capitalRuns.find? (·.covers c.toNat) = none := by
    rw [Array.find?_eq_none]
    intro r hr
    rw [h r (Array.mem_toList_iff.mpr hr)]
    exact Bool.false_ne_true
  refine isSmall_of_lowerChar (fun heq => ?_) ?_
  · obtain ⟨r, hr, hcovers⟩ := hsigma
    rw [← heq, h r hr] at hcovers
    cases hcovers
  · rw [lowerChar, if_neg (Nat.not_lt.mpr hascii), if_neg (fun heq => hdotted (beq_iff_eq.mp heq)),
      hnone]

/-- What a run maps to is small and not blank, since no run covers it. -/
theorem isSmall_apply {r : CaseRun} (hmem : r ∈ capitalRuns.toList) {code : Nat}
    (hcovers : r.covers code = true) :
    IsSmall (r.apply code) ∧ isBlank (r.apply code) = false := by
  have htidy := CaseRun.isTidy_of_mem r hmem
  have hplace := CaseRun.toNat_apply htidy hcovers
  obtain ⟨hblank, hupper⟩ := CaseRun.isPlain_apply htidy hcovers
  refine ⟨?_, hblank⟩
  by_cases hlow : (r.apply code).toNat < 128
  · exact isSmall_of_not_isUpper hlow hupper
  · refine isSmall_of_not_covers (Nat.not_lt.mp hlow) (fun heq => ?_) fun q hq => ?_
    · have hdotted := CaseRun.covers_image (CaseRun.ne_dotted_of_mem r hmem) hcovers
      rw [← hplace, heq] at hdotted
      exact absurd hdotted (by decide)
    · have hapart := List.all_eq_true.mp (List.all_eq_true.mp CaseRun.all_isApartFrom r hmem) q hq
      rw [hplace]
      exact CaseRun.covers_image hapart hcovers

/-- What lower case makes of a character is small, and blank only if the character is. -/
theorem mem_lowerChar {c d : Char} (h : d ∈ lowerChar c) :
    IsSmall d ∧ (isBlank d = true → isBlank c = true) := by
  rw [lowerChar] at h
  split at h
  · next hascii =>
    obtain rfl := List.mem_singleton.mp h
    have htable : ∀ n < 128, (Char.ofNat n).toLower.toNat < 128 ∧
        (isBlank (Char.ofNat n).toLower = true → isBlank (Char.ofNat n) = true) := by
      decide +kernel
    obtain ⟨hlow, hblank⟩ := htable c.toNat hascii
    rw [Char.ofNat_toNat] at hlow hblank
    exact ⟨isSmall_of_not_isUpper hlow c.isUpper_toLower_eq_false, hblank⟩
  next hascii =>
  split at h
  · rcases List.mem_pair.mp h with rfl | rfl
    · exact ⟨isSmall_of_not_isUpper (by decide) (by decide), fun h => absurd h (by decide)⟩
    · exact ⟨isSmall_of_not_covers (by decide) (by decide) (by decide +kernel),
        fun h => absurd h (by decide +kernel)⟩
  next hdotted =>
  cases hrun : capitalRuns.find? (·.covers c.toNat) with
  | none =>
    rw [hrun] at h
    obtain rfl := List.mem_singleton.mp h
    refine ⟨isSmall_of_not_covers (Nat.not_lt.mp hascii) (fun heq => hdotted (beq_iff_eq.mpr heq))
      fun r hr => ?_, id⟩
    have hnone := Array.find?_eq_none.mp hrun r (Array.mem_toList_iff.mp hr)
    exact Bool.eq_false_iff.mpr hnone
  | some r =>
    rw [hrun] at h
    obtain rfl := List.mem_singleton.mp h
    have hcovers := Array.find?_some hrun
    have hmem : r ∈ capitalRuns.toList := Array.mem_toList_iff.mpr (Array.mem_of_find?_eq_some hrun)
    obtain ⟨hsmall, hblank⟩ := isSmall_apply hmem hcovers
    exact ⟨hsmall, fun h => absurd h (Bool.eq_false_iff.mp hblank)⟩

theorem mem_lowerAt {before after : List Char} {c d : Char} (h : d ∈ lowerAt before c after) :
    IsSmall d ∧ (isBlank d = true → isBlank c = true) := by
  by_cases hc : c = sigma
  · subst hc
    rw [lowerAt_sigma, List.mem_singleton, lowerSigma] at h
    split at h
    · subst h
      exact ⟨isSmall_of_not_covers (by decide) (by decide) (by decide +kernel), by decide +kernel⟩
    · subst h
      exact ⟨isSmall_of_not_covers (by decide) (by decide) (by decide +kernel), by decide +kernel⟩
  · rw [lowerAt_of_ne hc] at h
    exact mem_lowerChar h

theorem isSmall_of_mem_lowerFrom {before s : List Char} {d : Char}
    (h : d ∈ lowerFrom before [] s) : IsSmall d := by
  induction s generalizing before with
  | nil => exact absurd h List.not_mem_nil
  | cons c rest ih =>
    rw [lowerFrom_cons] at h
    rcases List.mem_append.mp h with h | h
    · exact (mem_lowerAt h).1
    · exact ih h

theorem lowerFrom_eq_self_of_isSmall {before s : List Char} (h : ∀ c ∈ s, IsSmall c) :
    lowerFrom before [] s = s := by
  induction s generalizing before with
  | nil => rfl
  | cons c rest ih =>
    obtain ⟨hhead, htail⟩ := List.forall_mem_cons.mp h
    rw [lowerFrom_cons, hhead, ih htail, List.singleton_append]

theorem lower_lower (s : List Char) : lower (lower s) = lower s :=
  lowerFrom_eq_self_of_isSmall fun _ h => isSmall_of_mem_lowerFrom h

/-! ## Trimmed texts -/

/-- A text that neither begins nor ends with a blank. -/
def IsTrimmed (s : List Char) : Prop :=
  (∀ c ∈ s.head?, isBlank c = false) ∧ ∀ c ∈ s.getLast?, isBlank c = false

theorem isTrimmed_trim (s : List Char) : IsTrimmed (trim s) := by
  constructor
  · intro c hc
    have hlead : trim s <+: trimStart s := List.rdropWhile_prefix isBlank _
    have hhead : (trimStart s).head? = some c := by
      obtain ⟨rest, hrest⟩ := hlead
      rw [← hrest, List.head?_append, hc, Option.some_or]
    have hnot := List.head?_dropWhile_not isBlank s
    rw [← trimStart, hhead] at hnot
    exact hnot
  · intro c hc
    obtain ⟨hne, rfl⟩ := List.mem_getLast?_eq_getLast hc
    exact Bool.eq_false_iff.mpr (List.rdropWhile_last_not isBlank (trimStart s) hne)

theorem trim_eq_self {s : List Char} (h : IsTrimmed s) : trim s = s := by
  have hstart : trimStart s = s := by
    cases s with
    | nil => rfl
    | cons c rest => exact List.dropWhile_cons_of_neg (Bool.eq_false_iff.mp (h.1 c rfl))
  rw [trim, hstart]
  exact List.rdropWhile_eq_self_iff.mpr fun hne =>
    Bool.eq_false_iff.mp (h.2 _ (List.getLast?_eq_some_getLast hne))

/-- A text in lower case begins with what its first character becomes. -/
theorem head_lower {s : List Char} {d : Char} (h : d ∈ (lower s).head?) :
    ∃ c ∈ s.head?, isBlank d = true → isBlank c = true := by
  cases s with
  | nil => cases h
  | cons c rest =>
    rw [lower, lowerFrom_cons, List.head?_append_of_ne_nil _ (lowerAt_ne_nil [] c rest)] at h
    exact ⟨c, rfl, (mem_lowerAt (List.mem_of_mem_head? h)).2⟩

theorem getLast_lower {s : List Char} {d : Char} (h : d ∈ (lower s).getLast?) :
    ∃ c ∈ s.getLast?, isBlank d = true → isBlank c = true := by
  induction s using List.reverseRecOn with
  | nil => cases h
  | append_singleton s c _ =>
    have hlast : lowerFrom (s.reverse ++ []) [] [c] = lowerAt (s.reverse ++ []) c [] := by
      rw [lowerFrom_cons, lowerFrom, List.reverse_nil, List.append_nil]
    rw [lower, lowerFrom_append, hlast,
      List.getLast?_append_of_ne_nil _ (lowerAt_ne_nil _ c [])] at h
    exact ⟨c, List.getLast?_concat, (mem_lowerAt (List.mem_of_mem_getLast? h)).2⟩

theorem isTrimmed_lower {s : List Char} (h : IsTrimmed s) : IsTrimmed (lower s) := by
  constructor
  · intro d hd
    obtain ⟨c, hc, hblank⟩ := head_lower hd
    exact Bool.eq_false_iff.mpr fun hd => Bool.eq_false_iff.mp (h.1 c hc) (hblank hd)
  · intro d hd
    obtain ⟨c, hc, hblank⟩ := getLast_lower hd
    exact Bool.eq_false_iff.mpr fun hd => Bool.eq_false_iff.mp (h.2 c hc) (hblank hd)

theorem lower_eq_nil_iff {s : List Char} : lower s = [] ↔ s = [] := by
  cases s with
  | nil => exact ⟨fun _ => rfl, fun _ => rfl⟩
  | cons c rest =>
    rw [lower, lowerFrom_cons, List.append_eq_nil_iff]
    exact ⟨fun h => absurd h.1 (lowerAt_ne_nil [] c rest), fun h => absurd h (List.cons_ne_nil _ _)⟩

theorem trim_eq_nil_iff {s : List Char} : trim s = [] ↔ isAllBlank s = true := by
  refine ⟨fun h => ?_, trim_eq_nil_of_isAllBlank⟩
  have hstart : ∀ c ∈ trimStart s, isBlank c = true := List.rdropWhile_eq_nil_iff.mp h
  rw [isAllBlank, List.all_eq_true]
  intro c hc
  rw [← List.takeWhile_append_dropWhile (p := isBlank) (l := s)] at hc
  rcases List.mem_append.mp hc with hc | hc
  · exact List.mem_takeWhile_imp hc
  · exact hstart c hc

end Text

namespace Pattern

theorem normalize_normalize (i : String) : normalize (normalize i) = normalize i := by
  rw [normalize, normalize, String.toList_ofList,
    Text.trim_eq_self (Text.isTrimmed_lower (Text.isTrimmed_trim i.toList)), Text.lower_lower]

/-- The indicators that are kept would be kept as they are. -/
theorem indicatorSet_words (indicators : List String) :
    indicatorSet (indicatorSet indicators).words = indicatorSet indicators := by
  have hkept : ∀ w ∈ (indicatorSet indicators).words, normalize w = w ∧ w.isEmpty = false := by
    intro w hw
    obtain ⟨hw, hne⟩ := List.mem_filter.mp (WordSet.mem_ofList.mp hw)
    obtain ⟨i, -, rfl⟩ := List.mem_map.mp hw
    exact ⟨normalize_normalize i, Bool.not_eq_true' _ ▸ hne⟩
  have hmap : (indicatorSet indicators).words.map normalize = (indicatorSet indicators).words :=
    (List.map_congr_left fun w hw => (hkept w hw).1).trans (List.map_id _)
  have hfilter : (indicatorSet indicators).words.filter (!·.isEmpty) =
      (indicatorSet indicators).words :=
    List.filter_eq_self.mpr fun w hw => by rw [(hkept w hw).2]; rfl
  rw [indicatorSet, hmap, hfilter]
  exact WordSet.ofList_words _

/-- Only what is all blank has no form to be kept in. -/
theorem isEmpty_normalize (i : String) : (normalize i).isEmpty = Text.isAllBlank i.toList := by
  rw [Bool.eq_iff_iff, String.isEmpty_iff, normalize, String.ofList_eq_empty_iff,
    Text.lower_eq_nil_iff, Text.trim_eq_nil_iff]

theorem mem_indicatorSet_iff {indicators : List String} {w : String} :
    w ∈ indicatorSet indicators ↔
      ∃ i ∈ indicators, Text.isAllBlank i.toList = false ∧ normalize i = w := by
  rw [indicatorSet, WordSet.mem_ofList, List.mem_filter, List.mem_map, Bool.not_eq_true']
  constructor
  · rintro ⟨⟨i, hi, rfl⟩, hvisible⟩
    exact ⟨i, hi, isEmpty_normalize i ▸ hvisible, rfl⟩
  · rintro ⟨i, hi, hvisible, rfl⟩
    exact ⟨⟨i, hi, rfl⟩, (isEmpty_normalize i).trans hvisible⟩

theorem normalize_mem_indicatorSet {indicators : List String} {i : String} (hi : i ∈ indicators)
    (hvisible : Text.isAllBlank i.toList = false) : normalize i ∈ indicatorSet indicators :=
  mem_indicatorSet_iff.mpr ⟨i, hi, hvisible, rfl⟩

end Pattern
end Motif
