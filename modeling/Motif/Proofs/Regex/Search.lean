import Motif.Proofs.Regex.Ways

/-!
All matches of an expression in a text.  The search goes from place to place.  Where the expression
matches it takes the preferred match and goes on behind it.
-/

namespace Motif
namespace Regex

/-! ## The search, place by place -/

/-- The preferred match at a place. -/
def matchAt? (r : Regex) (l : Place) : Option Span :=
  (r.ways l).head?.map fun w =>
    let length := w.before.length - l.before.length
    ⟨l.before, l.ahead.take length, l.ahead.drop length⟩

/-- The matches from a place on, `skip` being the characters of the last match still to pass. -/
def search (r : Regex) : Nat → List Char → List Char → List Span
  | 0, before, [] => (r.matchAt? ⟨before, []⟩).toList
  | _ + 1, _, [] => []
  | 0, before, c :: rest =>
    match r.matchAt? ⟨before, c :: rest⟩ with
    | some m => m :: search r (m.text.length - 1) (c :: before) rest
    | none => search r 0 (c :: before) rest
  | skip + 1, before, c :: rest => search r skip (c :: before) rest

variable {r : Regex} {l : Place} {m : Span} {text : List Char}

theorem fits_of_matchAt? (h : r.matchAt? l = some m) :
    m.before = l.before ∧ l.ahead = m.text ++ m.after ∧ r.Fits m.before m.text m.after := by
  obtain ⟨w, hw, rfl⟩ := Option.map_eq_some_iff.mp h
  obtain ⟨t, hbefore, hahead, hfits⟩ := mem_ways_iff.mp (List.mem_of_head? hw)
  have hlength : w.before.length - l.before.length = t.length := by
    rw [hbefore, List.length_append, List.length_reverse, Nat.add_sub_cancel]
  refine ⟨rfl, (List.take_append_drop _ _).symm, ?_⟩
  simp only [hlength]
  rw [hahead, List.take_left, List.drop_left]
  exact hfits

theorem matchAt?_eq_none_iff : r.matchAt? l = none ↔ r.ways l = [] := by
  rw [matchAt?, Option.map_eq_none_iff, List.head?_eq_none_iff]

theorem ways_ne_nil_of_matchAt? (h : r.matchAt? l = some m) : r.ways l ≠ [] := by
  intro hnone
  rw [matchAt?_eq_none_iff.mpr hnone] at h
  cases h

theorem drop_stops (r : Regex) {before ahead : List Char} (h : before.reverse ++ ahead = text) :
    (r.stops text).drop before.length =
      (r.ways ⟨before, ahead⟩).head?.map (·.before.length) ::
        (r.stops text).drop (before.length + 1) := by
  have hlength : (r.stops text).length = text.length + 1 := length_table r (by simp)
  have hinside : before.length < (r.stops text).length := by
    rw [hlength, ← h, List.length_append, List.length_reverse]
    omega
  rw [List.drop_eq_getElem_cons hinside, ← entry_stops r (l := ⟨before, ahead⟩) h, entry,
    List.getElem?_eq_getElem hinside]
  rfl

theorem spansFrom_eq_search (r : Regex) {before ahead : List Char} (skip : Nat)
    (found : List Span) (h : before.reverse ++ ahead = text) :
    spansFrom before.length skip found before ahead ((r.stops text).drop before.length) =
      found.reverse ++ r.search skip before ahead := by
  induction ahead generalizing before skip found with
  | nil =>
    rw [drop_stops r h]
    cases skip with
    | succ skip => simp [spansFrom, search]
    | zero =>
      cases hw : (r.ways ⟨before, []⟩).head? with
      | none => simp [spansFrom, search, matchAt?, hw]
      | some w => simp [spansFrom, search, matchAt?, hw]
  | cons c rest ih =>
    have hrest : (c :: before).reverse ++ rest = text := by
      rw [← h]
      simp
    rw [drop_stops r h]
    cases skip with
    | succ skip => exact ih skip found hrest
    | zero =>
      cases hw : (r.ways ⟨before, c :: rest⟩).head? with
      | none =>
        rw [search, matchAt?, hw]
        exact ih 0 found hrest
      | some w =>
        have hlength : ((c :: rest).take (w.before.length - before.length)).length =
            w.before.length - before.length := by
          obtain ⟨t, hbefore, hahead, -⟩ := mem_ways_iff.mp (List.mem_of_head? hw)
          simp only at hbefore hahead
          rw [hbefore, hahead, List.length_append, List.length_reverse, Nat.add_sub_cancel,
            List.take_left]
        have hmatch := ih (w.before.length - before.length - 1)
          (⟨before, (c :: rest).take (w.before.length - before.length),
            (c :: rest).drop (w.before.length - before.length)⟩ :: found) hrest
        rw [List.reverse_cons, List.append_assoc] at hmatch
        simp only [search, matchAt?, hw, Option.map_some, hlength]
        exact hmatch

theorem findAll_eq_search (r : Regex) (text : List Char) :
    r.findAll text = r.search 0 [] text := by
  have hstart : ([] : List Char).reverse ++ text = text := rfl
  exact spansFrom_eq_search r 0 [] hstart

/-! ## What is found -/

/-- Each match lies in the text ahead, behind the characters that were to be passed. -/
theorem mem_search {skip : Nat} {before ahead : List Char} (h : m ∈ r.search skip before ahead) :
    ∃ u, m.before = u.reverse ++ before ∧ ahead = u ++ (m.text ++ m.after) ∧ skip ≤ u.length ∧
      r.Fits m.before m.text m.after := by
  have hhere {skip : Nat} {before ahead : List Char} (hm : r.matchAt? ⟨before, ahead⟩ = some m)
      (hskip : skip = 0) : ∃ u, m.before = u.reverse ++ before ∧
        ahead = u ++ (m.text ++ m.after) ∧ skip ≤ u.length ∧ r.Fits m.before m.text m.after := by
    obtain ⟨hbefore, hahead, hfits⟩ := fits_of_matchAt? hm
    exact ⟨[], hbefore, hahead, Nat.le_of_eq hskip, hfits⟩
  induction ahead generalizing skip before with
  | nil =>
    cases skip with
    | zero => exact hhere (Option.mem_toList.mp h) rfl
    | succ skip => exact absurd h List.not_mem_nil
  | cons c rest ih =>
    have hlater {skip skip' : Nat} (hskip : skip ≤ skip' + 1)
        (hm : m ∈ r.search skip' (c :: before) rest) : ∃ u, m.before = u.reverse ++ before ∧
          c :: rest = u ++ (m.text ++ m.after) ∧ skip ≤ u.length ∧
            r.Fits m.before m.text m.after := by
      obtain ⟨u, hbefore, hahead, hpassed, hfits⟩ := ih hm
      refine ⟨c :: u, by rw [hbefore]; simp, by rw [hahead]; rfl, ?_, hfits⟩
      exact Nat.le_trans hskip (Nat.succ_le_succ hpassed)
    cases skip with
    | succ skip => exact hlater (Nat.le_refl _) h
    | zero =>
      rw [search] at h
      split at h
      · next n hn =>
        rcases List.mem_cons.mp h with rfl | h
        · exact hhere hn rfl
        · exact hlater (Nat.zero_le _) h
      · exact hlater (Nat.zero_le _) h

theorem fits_of_mem_findAll (h : m ∈ r.findAll text) :
    text = m.before.reverse ++ (m.text ++ m.after) ∧ r.Fits m.before m.text m.after := by
  rw [findAll_eq_search] at h
  obtain ⟨u, hbefore, htext, -, hfits⟩ := mem_search h
  rw [List.append_nil] at hbefore
  rw [hbefore, List.reverse_reverse]
  exact ⟨htext, hbefore ▸ hfits⟩

/-- One match ends before or where the other begins. -/
def Span.IsBefore (m n : Span) : Prop :=
  ∃ u, n.before = (m.text ++ u).reverse ++ m.before ∧ m.after = u ++ (n.text ++ n.after)

theorem pairwise_search (r : Regex) (skip : Nat) (before ahead : List Char) :
    (r.search skip before ahead).Pairwise Span.IsBefore := by
  induction ahead generalizing skip before with
  | nil =>
    cases skip with
    | zero =>
      rw [search]
      cases r.matchAt? ⟨before, []⟩ with
      | none => exact .nil
      | some m => exact List.pairwise_singleton _ _
    | succ skip => exact .nil
  | cons c rest ih =>
    cases skip with
    | succ skip => exact ih skip (c :: before)
    | zero =>
      rw [search]
      split
      · next m hm =>
        refine List.pairwise_cons.mpr ⟨fun n hn => ?_, ih _ _⟩
        obtain ⟨hbefore, hahead, -⟩ := fits_of_matchAt? hm
        obtain ⟨u, hbefore', hrest, hpassed, -⟩ := mem_search hn
        simp only at hbefore hahead
        have hlead : m.text <+: c :: u := by
          have htext : m.text <+: c :: rest := ⟨m.after, hahead.symm⟩
          have hlater : c :: u <+: c :: rest := ⟨n.text ++ n.after, by rw [hrest]; rfl⟩
          refine List.prefix_of_prefix_length_le htext hlater ?_
          rw [List.length_cons]
          omega
        obtain ⟨u', hu'⟩ := hlead
        refine ⟨u', ?_, ?_⟩
        · rw [hbefore', hbefore, hu', List.reverse_cons, List.append_assoc]
          rfl
        · refine (List.append_right_inj m.text).mp ?_
          rw [← hahead, ← List.append_assoc, hu', hrest]
          rfl
      · exact ih 0 (c :: before)

theorem pairwise_findAll (r : Regex) (text : List Char) :
    (r.findAll text).Pairwise Span.IsBefore := by
  rw [findAll_eq_search]
  exact pairwise_search r 0 [] text

theorem ways_eq_nil_of_search_eq_nil {before ahead : List Char}
    (h : r.search 0 before ahead = []) {u v : List Char} (hsplit : ahead = u ++ v) :
    r.ways ⟨u.reverse ++ before, v⟩ = [] := by
  induction ahead generalizing before u with
  | nil =>
    obtain ⟨rfl, rfl⟩ := List.append_eq_nil_iff.mp hsplit.symm
    exact matchAt?_eq_none_iff.mp (Option.toList_eq_nil_iff.mp h)
  | cons c rest ih =>
    rw [search] at h
    split at h
    · exact absurd h (List.cons_ne_nil _ _)
    · next hnone =>
      cases u with
      | nil =>
        rw [List.nil_append] at hsplit
        subst hsplit
        exact matchAt?_eq_none_iff.mp hnone
      | cons d u =>
        obtain ⟨rfl, hrest⟩ := List.cons.inj hsplit
        rw [List.reverse_cons, List.append_assoc]
        exact ih h hrest

theorem count_pos_iff : 0 < r.count text ↔ r.occursIn text = true := by
  rw [count, List.length_pos_iff_exists_mem, occursIn_iff]
  constructor
  · rintro ⟨m, hm⟩
    obtain ⟨htext, hfits⟩ := fits_of_mem_findAll hm
    exact ⟨m.before, m.text, m.after, htext, hfits⟩
  · rintro ⟨before, s, after, rfl, hfits⟩
    by_contra hnone
    have hsearch : r.search 0 [] (before.reverse ++ (s ++ after)) = [] := by
      rw [← findAll_eq_search, List.eq_nil_iff_forall_not_mem]
      exact fun m hm => hnone ⟨m, hm⟩
    have hways := ways_eq_nil_of_search_eq_nil hsearch rfl
    rw [List.reverse_reverse, List.append_nil] at hways
    exact List.ne_nil_of_mem hfits hways

/-! ## Counting matches that never overlap -/

/-- No match begins inside another. -/
def IsSolitary (r : Regex) : Prop :=
  ∀ before text after, r.Fits before text after → ∀ u v, text = u ++ v → u ≠ [] → v ≠ [] →
    r.ways ⟨u.reverse ++ before, v ++ after⟩ = []

/-- At how many places from one on there is a match. -/
def starts (r : Regex) (before : List Char) : List Char → Nat
  | [] => if r.ways ⟨before, []⟩ = [] then 0 else 1
  | c :: rest => (if r.ways ⟨before, c :: rest⟩ = [] then 0 else 1) + r.starts (c :: before) rest

/-- At the places inside a match nothing begins. -/
theorem IsSolitary.ways_inside (h : r.IsSolitary) {before rest : List Char} {c : Char} {m : Span}
    (hm : r.matchAt? ⟨before, c :: rest⟩ = some m) {u v : List Char} (hsplit : rest = u ++ v)
    (hlength : u.length < m.text.length - 1) : r.ways ⟨u.reverse ++ c :: before, v⟩ = [] := by
  obtain ⟨hbefore, hahead, hfits⟩ := fits_of_matchAt? hm
  simp only at hbefore hahead
  have hlead : c :: u <+: m.text := by
    have hplace : c :: u <+: c :: rest := ⟨v, by rw [hsplit]; rfl⟩
    have htext : m.text <+: c :: rest := ⟨m.after, hahead.symm⟩
    refine List.prefix_of_prefix_length_le hplace htext ?_
    rw [List.length_cons]
    omega
  obtain ⟨w, hw⟩ := hlead
  have hv : v = w ++ m.after := by
    refine (List.append_right_inj (c :: u)).mp ?_
    rw [← List.append_assoc, hw, ← hahead, hsplit]
    rfl
  have hne : w ≠ [] := by
    rintro rfl
    rw [← hw, List.append_nil, List.length_cons] at hlength
    omega
  have hinside := h _ _ _ hfits (c :: u) w hw.symm (List.cons_ne_nil c u) hne
  rwa [hbefore, List.reverse_cons, List.append_assoc, ← hv] at hinside

theorem length_search (h : r.IsSolitary) {skip : Nat} {before ahead : List Char}
    (hskip : ∀ u v, ahead = u ++ v → u.length < skip → r.ways ⟨u.reverse ++ before, v⟩ = []) :
    (r.search skip before ahead).length = r.starts before ahead := by
  induction ahead generalizing skip before with
  | nil =>
    cases skip with
    | succ skip =>
      have hnone := hskip [] [] rfl (Nat.succ_pos skip)
      rw [List.reverse_nil, List.nil_append] at hnone
      rw [search, starts, if_pos hnone]
      rfl
    | zero =>
      rw [search, starts]
      cases hm : r.matchAt? ⟨before, []⟩ with
      | none => rw [if_pos (matchAt?_eq_none_iff.mp hm)]; rfl
      | some m =>
        rw [if_neg (ways_ne_nil_of_matchAt? hm)]
        rfl
  | cons c rest ih =>
    cases skip with
    | succ skip =>
      have hnone := hskip [] (c :: rest) rfl (Nat.succ_pos skip)
      rw [List.reverse_nil, List.nil_append] at hnone
      rw [search, starts, if_pos hnone, Nat.zero_add]
      refine ih fun u v huv hlength => ?_
      have hinside := hskip (c :: u) v (by rw [huv]; rfl) (Nat.succ_lt_succ hlength)
      rwa [List.reverse_cons, List.append_assoc] at hinside
    | zero =>
      rw [search, starts]
      split
      · next m hm =>
        rw [if_neg (ways_ne_nil_of_matchAt? hm), List.length_cons, Nat.add_comm]
        refine congrArg (1 + ·) (ih fun u v huv hlength => ?_)
        exact h.ways_inside hm huv hlength
      · next hm =>
        rw [if_pos (matchAt?_eq_none_iff.mp hm), Nat.zero_add]
        exact ih fun _ _ _ hlength => absurd hlength (Nat.not_lt_zero _)

theorem count_eq_starts (h : r.IsSolitary) (text : List Char) :
    r.count text = r.starts [] text := by
  rw [count, findAll_eq_search]
  exact length_search h fun _ _ _ hlength => absurd hlength (Nat.not_lt_zero _)

end Regex
end Motif
