import Motif.Proofs.ConfidenceFloor

/-!
Proposals of one name are reduced to the strongest.  A merge puts a proposal in the place of a
weaker one, and so after each merge the place of every name holds the first of the strongest
proposals so far.  What an analysis reports is the same before the reduction and after it.
-/

namespace Motif

open Double

namespace Proposal

/-! ## What is kept -/

theorem mem_of_mem_distinct {ps : List Proposal} {q : Proposal} (hq : q ∈ distinct ps) :
    q ∈ ps := by
  induction ps using List.reverseRecOn with
  | nil => exact absurd hq List.not_mem_nil
  | append_singleton ps p ih =>
    rw [distinct_concat] at hq
    rcases mem_merge (nodup_names_distinct ps) hq with ⟨rfl, -⟩ | ⟨hq, -⟩
    · exact List.mem_append_right ps (List.mem_singleton_self q)
    · exact List.mem_append_left [p] (ih hq)

/-- The first of the strongest of a name is not weaker than any other of the name. -/
theorem le_of_isFirstGreatest {ps : List Proposal} {p q : Proposal}
    (h : Sequence.IsFirstGreatest (·.confidence) (ps.filter (·.name == q.name)) q)
    (hnumber : IsNumber q.confidence) (hp : p ∈ ps) (hname : q.name = p.name) :
    p.confidence ≤ q.confidence :=
  h.le Double.le_of_lt (Double.le_refl hnumber)
    (List.mem_filter.mpr ⟨hp, beq_iff_eq.mpr hname.symm⟩)

/-- What is kept of a name is the first of the strongest. -/
theorem isFirstGreatest_of_mem_distinct {ps : List Proposal}
    (hnumbers : ∀ p ∈ ps, IsNumber p.confidence) {q : Proposal} (hq : q ∈ distinct ps) :
    Sequence.IsFirstGreatest (·.confidence) (ps.filter (·.name == q.name)) q := by
  -- by what was merged so far: each place holds the first of the strongest until then
  induction ps using List.reverseRecOn generalizing q with
  | nil => exact absurd hq List.not_mem_nil
  | append_singleton ps p ih =>
    have hnumber : IsNumber p.confidence :=
      hnumbers p (List.mem_append_right ps (List.mem_singleton_self p))
    have hearlier (r : Proposal) (hr : r ∈ ps) : IsNumber r.confidence :=
      hnumbers r (List.mem_append_left [p] hr)
    rw [distinct_concat] at hq
    rw [List.filter_append]
    rcases mem_merge (nodup_names_distinct ps) hq with ⟨rfl, hbelow⟩ | ⟨hmem, hstays⟩
    · rw [List.filter_cons, List.filter_nil, if_pos (beq_self_eq_true q.name)]
      refine .of_lt fun r hr => ?_
      obtain ⟨hr, hname⟩ := List.mem_filter.mp hr
      -- what stood in the place so far is between the two
      obtain ⟨k, hk, hkname⟩ := List.mem_map.mp (mem_names_distinct.mpr (List.mem_map_of_mem hr))
      have hle : r.confidence ≤ k.confidence :=
        le_of_isFirstGreatest (ih hearlier hk) (hearlier k (mem_of_mem_distinct hk)) hr hkname
      exact Double.lt_of_le_of_lt hle (hbelow k hk (hkname.trans (beq_iff_eq.mp hname)))
    · have hfirst := ih hearlier hmem
      rw [List.filter_cons, List.filter_nil]
      split
      · next hname =>
        have hname : q.name = p.name := (beq_iff_eq.mp hname).symm
        exact hfirst.concat
          (le_of_not_lt hnumber (hearlier q (mem_of_mem_distinct hmem)) (hstays hname))
      · rw [List.append_nil]
        exact hfirst

/-- Each proposal has one of its name that is kept and not weaker. -/
theorem exists_mem_distinct {ps : List Proposal} (hnumbers : ∀ p ∈ ps, IsNumber p.confidence)
    {p : Proposal} (hp : p ∈ ps) :
    ∃ q ∈ distinct ps, q.name = p.name ∧ p.confidence ≤ q.confidence := by
  obtain ⟨q, hq, hname⟩ := List.mem_map.mp (mem_names_distinct.mpr (List.mem_map_of_mem hp))
  have hfirst := isFirstGreatest_of_mem_distinct hnumbers hq
  exact ⟨q, hq, hname,
    le_of_isFirstGreatest hfirst (hnumbers q (mem_of_mem_distinct hq)) hp hname⟩

theorem distinct_eq_self {ps : List Proposal} (h : (ps.map (·.name)).Nodup) : distinct ps = ps := by
  induction ps using List.reverseRecOn with
  | nil => rfl
  | append_singleton ps p ih =>
    rw [List.map_append, List.nodup_append] at h
    obtain ⟨hnames, -, hdisjoint⟩ := h
    have hnew : p.name ∉ ps.map (·.name) := fun hin =>
      hdisjoint p.name hin p.name (List.mem_singleton_self p.name) rfl
    rw [distinct_concat, ih hnames, merge_of_new hnew]

/-! ## What an analysis reports of it -/

theorem callConfidence_of_strongest {ps : List Proposal} {x : Float} (h : strongest ps = some x)
    (floor : Float) : callConfidence [] ps floor = Confidence.clamp 0.0 1.0 x := by
  rw [callConfidence, h, Option.getD_some]

/-- The strongest of all and the strongest of those kept do not exceed each other. -/
theorem strongest_distinct {ps : List Proposal} (hnumbers : ∀ p ∈ ps, IsNumber p.confidence)
    {x y : Float} (hx : strongest ps = some x) (hy : strongest (distinct ps) = some y) :
    x ≤ y ∧ y ≤ x := by
  obtain ⟨hmem, hbound⟩ := strongest_spec hx
  obtain ⟨hmem', hbound'⟩ := strongest_spec hy
  constructor
  · obtain ⟨p, hp, rfl⟩ := List.mem_map.mp hmem
    obtain ⟨q, hq, -, hle⟩ := exists_mem_distinct hnumbers hp
    exact Double.le_trans hle (hbound' _ (List.mem_map_of_mem hq) (isNumber_right hle))
  · obtain ⟨q, hq, rfl⟩ := List.mem_map.mp hmem'
    have hin := mem_of_mem_distinct hq
    exact hbound _ (List.mem_map_of_mem hin) (hnumbers q hin)

/-- One proposal is kept for each name, in the order in which the names first appear, and it is the
earliest of the strongest of its name.  Another reduction changes nothing.  Without a match the
confidence reported is that of the strongest that is kept, brought into the unit interval, whether
it is taken from all proposals or from those kept. -/
theorem distinct_keeps_strongest (ps : List Proposal)
    (hnumbers : ∀ p ∈ ps, IsNumber p.confidence) :
    let kept := distinct ps
    kept.map (·.name) = (ps.map (·.name)).eraseDups ∧
    (∀ q ∈ kept, Sequence.IsFirstGreatest (·.confidence) (ps.filter (·.name == q.name)) q) ∧
    distinct kept = kept ∧
    ∀ floor, ps ≠ [] → ∃ x ∈ kept.map (·.confidence),
      (∀ y ∈ kept.map (·.confidence), y ≤ x) ∧
      callConfidence [] kept floor = Confidence.clamp 0.0 1.0 x ∧
      callConfidence [] ps floor == Confidence.clamp 0.0 1.0 x := by
  intro kept
  refine ⟨names_distinct ps, fun q hq => isFirstGreatest_of_mem_distinct hnumbers hq,
    distinct_eq_self (nodup_names_distinct ps), fun floor hne => ?_⟩
  obtain ⟨p, hp⟩ := List.exists_mem_of_ne_nil ps hne
  obtain ⟨q, hq, -, -⟩ := exists_mem_distinct hnumbers hp
  obtain ⟨x, hx⟩ := Option.ne_none_iff_exists'.mp (mt strongest_eq_none_iff.mp hne)
  obtain ⟨y, hy⟩ :=
    Option.ne_none_iff_exists'.mp (mt strongest_eq_none_iff.mp (List.ne_nil_of_mem hq))
  obtain ⟨hmem, hbound⟩ := strongest_spec hy
  obtain ⟨hxy, hyx⟩ := strongest_distinct hnumbers hx hy
  refine ⟨y, hmem, fun z hz => ?_, callConfidence_of_strongest hy floor, ?_⟩
  · obtain ⟨r, hr, rfl⟩ := List.mem_map.mp hz
    exact hbound _ hz (hnumbers r (mem_of_mem_distinct hr))
  · rw [callConfidence_of_strongest hx]
    exact beq_of_le_of_le (Confidence.clamp_mono hxy) (Confidence.clamp_mono hyx)

/-- Two tiers that propose one name, the stronger tier twice, and another name between them. -/
theorem distinct_keeps_strongest_tiers :
    let pool : Proposal := ⟨"Object Pool", "", 0.4, .trigger, ["pool"]⟩
    let cache : Proposal := ⟨"Memoization", "", 0.4, .trigger, ["cache"]⟩
    let ps := [cache, pool, { cache with confidence := 0.55, tier := .structural },
      { cache with confidence := 0.55 }]
    (∀ p ∈ ps, IsNumber p.confidence) ∧ ps ≠ [] ∧
      (∀ q ∈ distinct ps,
        Sequence.IsFirstGreatest (·.confidence) (ps.filter (·.name == q.name)) q) ∧
      distinct (distinct ps) = distinct ps ∧
      ∃ x ∈ (distinct ps).map (·.confidence),
        callConfidence [] ps 0.1 == Confidence.clamp 0.0 1.0 x := by
  intro pool cache ps
  have hnumbers : ∀ p ∈ ps, IsNumber p.confidence := by decide
  have hne : ps ≠ [] := List.cons_ne_nil _ _
  obtain ⟨-, hfirst, hself, hreported⟩ := distinct_keeps_strongest ps hnumbers
  obtain ⟨x, hx, -, -, hall⟩ := hreported 0.1 hne
  exact ⟨hnumbers, hne, hfirst, hself, x, hx, hall⟩

/-- Equal confidences need not be the same double: of two names with zeros of opposite signs the
reduction may bring the other to the front. -/
example :
    let a : Proposal := ⟨"A", "", -1.0, .trigger, []⟩
    let b : Proposal := ⟨"B", "", -0.0, .trigger, []⟩
    let ps := [a, b, { a with confidence := 0.0 }]
    (callConfidence [] ps 0.1).toBits ≠ (callConfidence [] (distinct ps) 0.1).toBits := by
  decide +kernel

end Proposal
end Motif
