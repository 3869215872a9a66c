import Mathlib.Data.List.Basic
import Motif.Regex.Search

/-!
What an expression matches.  At a place of a text there are ways to match it, in the order in which
a search that takes back its choices would try them.  The table of an expression has for each place
the entry of the first way that leads to one.  So an expression occurs in a text exactly where there
is a way, and the preferred match is the first.
-/

namespace Motif
namespace Regex

/-- A place of a text: what lies before it, backwards, and what lies ahead. -/
structure Place where
  before : List Char
  ahead : List Char
deriving DecidableEq

namespace Place

def text (p : Place) : List Char := p.before.reverse ++ p.ahead

/-- A word character on one side only. -/
def isWordEdge (p : Place) : Bool :=
  p.before.head?.any Text.isWordChar != p.ahead.head?.any Text.isWordChar

def isLineStart (p : Place) : Bool := p.before.head?.all (· == '\n')

end Place

/-! ## Ways to match -/

/-- The ways to pass characters that satisfy `p`, longer ones first. -/
def waysMany (p : Char → Bool) (before : List Char) : List Char → List Place
  | [] => [⟨before, []⟩]
  | c :: rest => (if p c then waysMany p (c :: before) rest else []) ++ [⟨before, c :: rest⟩]

/-- The places where a match of the expression may stop, preferred ones first. -/
def ways : Regex → Place → List Place
  | empty, l => [l]
  | one p, ⟨before, c :: rest⟩ => if p c then [⟨c :: before, rest⟩] else []
  | one _, ⟨_, []⟩ => []
  | many p, l => waysMany p l.before l.ahead
  | wordEdge, l => if l.isWordEdge then [l] else []
  | lineStart, l => if l.isLineStart then [l] else []
  | seq r s, l => (r.ways l).flatMap s.ways
  | either r s, l => r.ways l ++ s.ways l

/-- A way passes a part of the text ahead. -/
theorem passes_of_mem_waysMany {p : Char → Bool} {before ahead : List Char} {w : Place}
    (h : w ∈ waysMany p before ahead) :
    ∃ t, w.before = t.reverse ++ before ∧ ahead = t ++ w.ahead := by
  induction ahead generalizing before with
  | nil =>
    obtain rfl := List.mem_singleton.mp h
    exact ⟨[], rfl, rfl⟩
  | cons c rest ih =>
    rw [waysMany] at h
    rcases List.mem_append.mp h with h | h
    · split at h
      · obtain ⟨t, hbefore, hahead⟩ := ih h
        exact ⟨c :: t, by rw [hbefore]; simp, by rw [hahead]; rfl⟩
      · exact absurd h List.not_mem_nil
    · obtain rfl := List.mem_singleton.mp h
      exact ⟨[], rfl, rfl⟩

theorem passes_of_mem_ways {r : Regex} {l w : Place} (h : w ∈ r.ways l) :
    ∃ t, w.before = t.reverse ++ l.before ∧ l.ahead = t ++ w.ahead := by
  have hstay {l w : Place} (h : w ∈ [l]) :
      ∃ t, w.before = t.reverse ++ l.before ∧ l.ahead = t ++ w.ahead := by
    obtain rfl := List.mem_singleton.mp h
    exact ⟨[], rfl, rfl⟩
  induction r generalizing l w with
  | empty => exact hstay h
  | one p =>
    obtain ⟨before, ahead⟩ := l
    cases ahead with
    | nil => exact absurd h List.not_mem_nil
    | cons c rest =>
      rw [ways] at h
      split at h
      · obtain rfl := List.mem_singleton.mp h
        exact ⟨[c], rfl, rfl⟩
      · exact absurd h List.not_mem_nil
  | many p => exact passes_of_mem_waysMany h
  | wordEdge =>
    rw [ways] at h
    split at h
    · exact hstay h
    · exact absurd h List.not_mem_nil
  | lineStart =>
    rw [ways] at h
    split at h
    · exact hstay h
    · exact absurd h List.not_mem_nil
  | seq r s ihr ihs =>
    obtain ⟨m, hm, hw⟩ := List.mem_flatMap.mp h
    obtain ⟨t, hbefore, hahead⟩ := ihr hm
    obtain ⟨u, hbefore', hahead'⟩ := ihs hw
    exact ⟨t ++ u, by rw [hbefore', hbefore]; simp, by rw [hahead, hahead']; simp⟩
  | either r s ihr ihs =>
    rcases List.mem_append.mp h with h | h
    · exact ihr h
    · exact ihs h

theorem text_of_mem_ways {r : Regex} {l w : Place} (h : w ∈ r.ways l) : w.text = l.text := by
  obtain ⟨t, hbefore, hahead⟩ := passes_of_mem_ways h
  rw [Place.text, Place.text, hbefore, hahead]
  simp

/-! ## Tables -/

theorem findSome?_congr {α β : Type} {f g : α → Option β} {xs : List α}
    (h : ∀ x ∈ xs, f x = g x) : xs.findSome? f = xs.findSome? g := by
  rw [← List.head?_filterMap, ← List.head?_filterMap, List.filterMap_congr h]

theorem findSome?_flatMap {α β γ : Type} (f : α → List β) (g : β → Option γ) (xs : List α) :
    (xs.flatMap f).findSome? g = xs.findSome? fun x => (f x).findSome? g := by
  rw [← List.head?_filterMap, List.filterMap_flatMap, List.head?_flatMap]
  simp only [List.head?_filterMap]

section

variable {α : Type} {text : List Char} {next : List (Option α)} {l : Place}

/-- The entry of a place. -/
def entry (next : List (Option α)) (place : Nat) : Option α := next[place]?.join

theorem entry_zipWith_or {ns ms : List (Option α)} (h : ns.length = ms.length) (i : Nat) :
    entry (List.zipWith Option.or ns ms) i = (entry ns i).or (entry ms i) := by
  rw [entry, entry, entry, List.getElem?_zipWith]
  rcases Nat.lt_or_ge i ns.length with hi | hi
  · rw [List.getElem?_eq_getElem hi, List.getElem?_eq_getElem (h ▸ hi)]
    rfl
  · rw [List.getElem?_eq_none hi, List.getElem?_eq_none (h ▸ hi)]
    rfl

theorem entry_only {isThere : List Bool} {i : Nat} {b : Bool} (h : isThere[i]? = some b) :
    entry (only isThere next) i = if b then entry next i else none := by
  rw [entry, entry, only, List.getElem?_zipWith, h]
  cases next[i]? with
  | none => cases b <;> rfl
  | some a => cases b <;> rfl

theorem wordEdges_getElem? (h : l.text = text) :
    (wordEdges text)[l.before.length]? = some l.isWordEdge := by
  subst h
  obtain ⟨before, ahead⟩ := l
  have hleft : (false :: (before.reverse ++ ahead).map Text.isWordChar)[before.length]? =
      some (before.head?.any Text.isWordChar) := by
    cases before with
    | nil => rfl
    | cons c rest => simp
  have hright : ((before.reverse ++ ahead).map Text.isWordChar ++ [false])[before.length]? =
      some (ahead.head?.any Text.isWordChar) := by
    cases ahead with
    | nil => simp
    | cons c rest => simp
  rw [wordEdges, List.getElem?_zipWith]
  simp only [Place.text, hleft, hright]
  rfl

theorem lineStarts_getElem? (h : l.text = text) :
    (lineStarts text)[l.before.length]? = some l.isLineStart := by
  subst h
  obtain ⟨before, ahead⟩ := l
  cases before with
  | nil => rfl
  | cons c rest => simp [lineStarts, Place.text, Place.isLineStart]

theorem entry_afterOne (p : Char → Bool) (hnext : next.length = text.length + 1)
    (h : l.text = text) :
    entry (afterOne p text next) l.before.length =
      ((one p).ways l).findSome? fun w => entry next w.before.length := by
  subst h
  obtain ⟨before, ahead⟩ := l
  cases ahead with
  | nil =>
    have hlength : (List.zipWith (fun c a => if p c then a else none)
        (Place.text ⟨before, []⟩) (next.drop 1)).length = before.length := by
      simp [Place.text, hnext]
    rw [entry, afterOne, ← hlength, List.getElem?_concat_length]
    rfl
  | cons c rest =>
    have hinside : before.length + 1 < next.length := by
      rw [hnext]
      simp [Place.text]
    have hentry : entry (afterOne p (Place.text ⟨before, c :: rest⟩) next) before.length =
        if p c then entry next (before.length + 1) else none := by
      rw [entry, entry, afterOne, List.getElem?_append_left (by simp [Place.text, hnext]),
        List.getElem?_zipWith, List.getElem?_drop, Nat.add_comm 1, List.getElem?_eq_getElem hinside]
      cases hc : p c with
      | false => simp [Place.text, hc]
      | true => simp [Place.text, hc]
    rw [hentry, ways]
    cases p c with
    | false => rfl
    | true => simp

theorem afterMany_cons (p : Char → Bool) (c : Char) (text : List Char) (a : Option α)
    (next : List (Option α)) :
    afterMany p (c :: text) (a :: next) =
      (if p c then ((afterMany p text next).headD none).or a else a) :: afterMany p text next :=
  rfl

theorem drop_afterMany (p : Char → Bool) (before ahead : List Char) (next : List (Option α)) :
    (afterMany p (before ++ ahead) next).drop before.length =
      afterMany p ahead (next.drop before.length) := by
  induction before generalizing next with
  | nil => rfl
  | cons c rest ih =>
    cases next with
    | nil => simp [afterMany]
    | cons a next =>
      rw [List.cons_append, afterMany_cons]
      exact ih next

theorem entry_eq_headD (next : List (Option α)) (i : Nat) :
    entry next i = (next.drop i).headD none := by
  rw [entry, List.headD_eq_head?_getD, List.head?_drop]
  cases next[i]? with
  | none => rfl
  | some a => rfl

theorem headD_afterMany (p : Char → Bool) {ahead : List Char}
    (hnext : next.length = ahead.length + 1) (before : List Char) :
    (afterMany p ahead next).headD none =
      (waysMany p before ahead).findSome? fun w =>
        entry next (w.before.length - before.length) := by
  induction ahead generalizing next before with
  | nil =>
    obtain ⟨a, rfl⟩ := List.length_eq_one_iff.mp hnext
    simp [afterMany, waysMany, entry]
  | cons c rest ih =>
    obtain ⟨a, next, rfl⟩ := List.exists_cons_of_length_pos (by omega : 0 < next.length)
    have hrest : next.length = rest.length + 1 := by simpa using hnext
    have hshift : ((waysMany p (c :: before) rest).findSome? fun w =>
          entry (a :: next) (w.before.length - before.length)) =
        (waysMany p (c :: before) rest).findSome? fun w =>
          entry next (w.before.length - (c :: before).length) := by
      refine findSome?_congr fun w hw => ?_
      obtain ⟨t, ht, -⟩ := passes_of_mem_waysMany hw
      have hplace : w.before.length - before.length =
          w.before.length - (c :: before).length + 1 := by
        rw [ht]
        simp only [List.length_append, List.length_cons]
        omega
      rw [hplace]
      rfl
    rw [afterMany_cons, List.headD_cons, waysMany, List.findSome?_append, ih hrest (c :: before)]
    cases p c with
    | false => simp [entry]
    | true =>
      rw [if_pos rfl, if_pos rfl, hshift, List.findSome?_singleton, Nat.sub_self]
      rfl

/-- The entry of a place is that of the first way that leads to one. -/
theorem entry_table (r : Regex) (hnext : next.length = text.length + 1) (h : l.text = text) :
    entry (r.table text next) l.before.length =
      (r.ways l).findSome? fun w => entry next w.before.length := by
  induction r generalizing next l with
  | empty => simp [table, ways]
  | one p => exact entry_afterOne p hnext h
  | many p =>
    subst h
    have hdrop : (next.drop l.before.length).length = l.ahead.length + 1 := by
      rw [List.length_drop, hnext, Place.text, List.length_append, List.length_reverse]
      omega
    have htable := drop_afterMany p l.before.reverse l.ahead next
    rw [List.length_reverse] at htable
    rw [table, entry_eq_headD, Place.text, htable, headD_afterMany p hdrop l.before, ways]
    refine findSome?_congr fun w hw => ?_
    obtain ⟨t, ht, -⟩ := passes_of_mem_waysMany hw
    rw [entry, entry, List.getElem?_drop, ht, List.length_append, Nat.add_sub_cancel_right,
      Nat.add_comm]
  | wordEdge =>
    rw [table, entry_only (wordEdges_getElem? h), ways]
    cases l.isWordEdge with
    | false => rfl
    | true => simp
  | lineStart =>
    rw [table, entry_only (lineStarts_getElem? h), ways]
    cases l.isLineStart with
    | false => rfl
    | true => simp
  | seq r s ihr ihs =>
    rw [table, ihr (length_table s hnext) h, ways, findSome?_flatMap]
    refine findSome?_congr fun w hw => ?_
    exact ihs hnext ((text_of_mem_ways hw).trans h)
  | either r s ihr ihs =>
    rw [table, entry_zipWith_or (by rw [length_table r hnext, length_table s hnext]),
      ihr hnext h, ihs hnext h, ways, List.findSome?_append]

/-- In a table that starts from an entry for each place, the first way decides. -/
theorem entry_table_of_full (r : Regex) {f : Nat → α} (hnext : next.length = text.length + 1)
    (hfull : ∀ i < text.length + 1, entry next i = some (f i)) (h : l.text = text) :
    entry (r.table text next) l.before.length =
      (r.ways l).head?.map fun w => f w.before.length := by
  have hreached : ∀ w ∈ r.ways l, entry next w.before.length = some (f w.before.length) := by
    intro w hw
    refine hfull _ ?_
    rw [← h, ← text_of_mem_ways hw, Place.text, List.length_append, List.length_reverse]
    omega
  rw [entry_table r hnext h, findSome?_congr hreached]
  cases r.ways l with
  | nil => rfl
  | cons w rest => rfl

end

/-- Where the preferred match of a place stops. -/
theorem entry_stops (r : Regex) {text : List Char} {l : Place} (h : l.text = text) :
    entry (r.stops text) l.before.length = (r.ways l).head?.map (·.before.length) := by
  refine entry_table_of_full r (f := id) ?_ (fun i hi => ?_) h
  · rw [List.length_map, List.length_range]
  · rw [entry, List.getElem?_map, List.getElem?_range hi]
    rfl

/-! ## Matches -/

/-- The expression matches `text` between the text before it, given backwards, and the text behind
it. -/
def Fits (r : Regex) (before text after : List Char) : Prop :=
  ⟨text.reverse ++ before, after⟩ ∈ r.ways ⟨before, text ++ after⟩

theorem mem_ways_iff {r : Regex} {l w : Place} :
    w ∈ r.ways l ↔ ∃ t, w.before = t.reverse ++ l.before ∧ l.ahead = t ++ w.ahead ∧
      r.Fits l.before t w.ahead := by
  obtain ⟨before, ahead⟩ := l
  obtain ⟨before', after⟩ := w
  constructor
  · intro h
    obtain ⟨t, hbefore, hahead⟩ := passes_of_mem_ways h
    simp only at hbefore hahead
    subst hbefore hahead
    exact ⟨t, rfl, rfl, h⟩
  · rintro ⟨t, hbefore, hahead, h⟩
    simp only at hbefore hahead h
    subst hbefore hahead
    exact h

variable {before text after : List Char}

theorem eq_nil_of_place_eq
    (h : (⟨text.reverse ++ before, after⟩ : Place) = ⟨before, text ++ after⟩) : text = [] := by
  have hbefore : text.reverse ++ before = before := congrArg Place.before h
  simpa using hbefore

@[simp] theorem fits_empty : empty.Fits before text after ↔ text = [] := by
  rw [Fits, ways, List.mem_singleton]
  refine ⟨eq_nil_of_place_eq, ?_⟩
  rintro rfl
  rfl

@[simp] theorem fits_one {p : Char → Bool} :
    (one p).Fits before text after ↔ ∃ c, text = [c] ∧ p c = true := by
  rw [Fits]
  cases text with
  | nil =>
    cases after with
    | nil => simp [ways]
    | cons c rest => cases hc : p c <;> simp [ways, hc]
  | cons c rest =>
    cases hc : p c with
    | false => simp [ways, hc]
    | true => simp [ways, hc]

@[simp] theorem fits_many {p : Char → Bool} :
    (many p).Fits before text after ↔ ∀ c ∈ text, p c = true := by
  rw [Fits, ways]
  induction text generalizing before with
  | nil => cases after <;> simp [waysMany]
  | cons c rest ih =>
    have hlonger : (⟨(c :: rest).reverse ++ before, after⟩ : Place) ≠
        ⟨before, c :: (rest ++ after)⟩ := by
      intro h
      exact absurd (eq_nil_of_place_eq h) (List.cons_ne_nil c rest)
    rw [List.cons_append, waysMany, List.mem_append, List.mem_singleton, or_iff_left hlonger,
      List.reverse_cons, List.append_assoc, List.forall_mem_cons]
    cases hc : p c with
    | false => simp
    | true => simpa using ih

@[simp] theorem fits_wordEdge :
    wordEdge.Fits before text after ↔ text = [] ∧ (⟨before, after⟩ : Place).isWordEdge = true := by
  rw [Fits, ways]
  constructor
  · intro h
    split at h
    · next hedge =>
      obtain rfl := eq_nil_of_place_eq (List.mem_singleton.mp h)
      exact ⟨rfl, hedge⟩
    · exact absurd h List.not_mem_nil
  · rintro ⟨rfl, hedge⟩
    rw [List.nil_append, if_pos hedge]
    exact List.mem_singleton_self _

@[simp] theorem fits_lineStart :
    lineStart.Fits before text after ↔
      text = [] ∧ (⟨before, after⟩ : Place).isLineStart = true := by
  rw [Fits, ways]
  constructor
  · intro h
    split at h
    · next hstart =>
      obtain rfl := eq_nil_of_place_eq (List.mem_singleton.mp h)
      exact ⟨rfl, hstart⟩
    · exact absurd h List.not_mem_nil
  · rintro ⟨rfl, hstart⟩
    rw [List.nil_append, if_pos hstart]
    exact List.mem_singleton_self _

@[simp] theorem fits_seq {r s : Regex} :
    (seq r s).Fits before text after ↔
      ∃ t u, text = t ++ u ∧ r.Fits before t (u ++ after) ∧
        s.Fits (t.reverse ++ before) u after := by
  rw [Fits, ways, List.mem_flatMap]
  constructor
  · rintro ⟨w, hr, hs⟩
    obtain ⟨t, hbefore, hahead, hr⟩ := mem_ways_iff.mp hr
    obtain ⟨u, hbefore', hahead', hs⟩ := mem_ways_iff.mp hs
    simp only at hbefore hahead hbefore' hahead' hr hs
    have htext : text = t ++ u := by
      rw [hahead'] at hahead
      exact List.append_cancel_right (hahead.trans (List.append_assoc t u after).symm)
    rw [hahead'] at hr
    rw [hbefore] at hs
    exact ⟨t, u, htext, hr, hs⟩
  · rintro ⟨t, u, rfl, hr, hs⟩
    refine ⟨⟨t.reverse ++ before, u ++ after⟩, ?_, ?_⟩
    · rw [List.append_assoc]
      exact hr
    · rw [List.reverse_append, List.append_assoc]
      exact hs

@[simp] theorem fits_either {r s : Regex} :
    (either r s).Fits before text after ↔ r.Fits before text after ∨ s.Fits before text after := by
  rw [Fits, ways, List.mem_append]
  rfl

@[simp] theorem fits_append {r s : Regex} :
    (r ++ s).Fits before text after ↔
      ∃ t u, text = t ++ u ∧ r.Fits before t (u ++ after) ∧ s.Fits (t.reverse ++ before) u after :=
  fits_seq

theorem fits_append_assoc {r s t : Regex} :
    (r ++ s ++ t).Fits before text after ↔ (r ++ (s ++ t)).Fits before text after := by
  have hways (l : Place) : (r ++ s ++ t).ways l = (r ++ (s ++ t)).ways l := List.flatMap_assoc
  rw [Fits, Fits, hways]

@[simp] theorem fits_char {c : Char} : (char c).Fits before text after ↔ text = [c] := by
  simp [char]

@[simp] theorem fits_literal {s : String} :
    (literal s).Fits before text after ↔ text = s.toList := by
  have hfold (cs : List Char) (before text : List Char) :
      (cs.foldr (fun c r => seq (char c) r) empty).Fits before text after ↔ text = cs := by
    induction cs generalizing before text with
    | nil => exact fits_empty
    | cons c rest ih => simp [ih]
  exact hfold s.toList before text

/-- An expression occurs in a text that has a place with a way to match it. -/
theorem occursIn_iff_exists_ways {r : Regex} {s : List Char} :
    r.occursIn s = true ↔ ∃ l : Place, l.text = s ∧ r.ways l ≠ [] := by
  have hstart : (List.replicate (s.length + 1) (some ())).length = s.length + 1 :=
    List.length_replicate
  have hlength := length_table r hstart
  have hentry {l : Place} (hl : l.text = s) :
      entry (r.table s (List.replicate (s.length + 1) (some ()))) l.before.length =
        (r.ways l).head?.map fun _ => () := by
    refine entry_table_of_full r (f := fun _ => ()) hstart (fun i hi => ?_) hl
    rw [entry, List.getElem?_replicate_of_lt hi]
    rfl
  rw [occursIn, List.any_eq_true]
  constructor
  · rintro ⟨a, ha, hsome⟩
    obtain ⟨i, hi, rfl⟩ := List.mem_iff_getElem.mp ha
    have hplace : (s.take i).reverse.length = i := by
      rw [List.length_reverse, List.length_take]
      omega
    refine ⟨⟨(s.take i).reverse, s.drop i⟩, by simp [Place.text], fun hnone => ?_⟩
    have hat := hentry (l := ⟨(s.take i).reverse, s.drop i⟩) (by simp [Place.text])
    rw [hnone, hplace, entry, List.getElem?_eq_getElem hi, Option.join_some] at hat
    rw [hat] at hsome
    cases hsome
  · rintro ⟨l, rfl, hways⟩
    have hi : l.before.length <
        (r.table l.text (List.replicate (l.text.length + 1) (some ()))).length := by
      rw [hlength, Place.text, List.length_append, List.length_reverse]
      omega
    have hat := hentry (l := l) rfl
    rw [entry, List.getElem?_eq_getElem hi, Option.join_some, List.head?_eq_some_head hways] at hat
    exact ⟨_, List.getElem_mem hi, by rw [hat]; rfl⟩

theorem occursIn_iff {r : Regex} {s : List Char} :
    r.occursIn s = true ↔
      ∃ before text after, s = before.reverse ++ (text ++ after) ∧ r.Fits before text after := by
  rw [occursIn_iff_exists_ways]
  constructor
  · rintro ⟨l, rfl, hways⟩
    obtain ⟨w, hw⟩ := List.exists_mem_of_ne_nil _ hways
    obtain ⟨t, -, hahead, hfits⟩ := mem_ways_iff.mp hw
    exact ⟨l.before, t, w.ahead, by rw [← hahead]; rfl, hfits⟩
  · rintro ⟨before, text, after, rfl, hfits⟩
    exact ⟨⟨before, text ++ after⟩, rfl, List.ne_nil_of_mem hfits⟩

end Regex
end Motif
