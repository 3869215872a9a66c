/-!
Lists that keep their order: the latest items, the first of repeated names, the first of the
greatest items, a change of the first item with a property, and the value set last.  A list that is
cut to the latest whenever it grows holds what a single cut at the end would leave.
-/

namespace Motif
namespace Sequence

/-! ## The latest items -/

/-- The last `n` items of a list. -/
def latest {α : Type} (n : Nat) (l : List α) : List α := l.drop (l.length - n)

theorem length_latest {α : Type} (n : Nat) (l : List α) : (latest n l).length = min n l.length := by
  rw [latest, List.length_drop]
  omega

theorem latest_eq_self {α : Type} {n : Nat} {l : List α} (h : l.length ≤ n) : latest n l = l := by
  rw [latest, Nat.sub_eq_zero_of_le h, List.drop_zero]

theorem latest_map {α β : Type} (f : α → β) (n : Nat) (l : List α) :
    latest n (l.map f) = (latest n l).map f := by
  rw [latest, latest, List.map_drop, List.length_map]

theorem latest_latest_append {α : Type} (n : Nat) (l m : List α) :
    latest n (latest n l ++ m) = latest n (l ++ m) := by
  by_cases h : l.length ≤ n
  · rw [latest_eq_self h]
  · have hlen := length_latest n l
    have hk : (latest n l ++ m).length - n = m.length := by
      rw [List.length_append, hlen]
      omega
    have hk' : (l ++ m).length - n = (l.length - n) + m.length := by
      rw [List.length_append]
      omega
    show (latest n l ++ m).drop _ = (l ++ m).drop _
    rw [hk, hk', ← List.drop_drop, List.drop_append_of_le_length (Nat.sub_le l.length n), latest]

/-! ## The first of repeated names -/

/-- The first of each repeated name that is not among those seen before. -/
def distinctFrom (seen : List String) : List String → List String
  | [] => []
  | n :: rest =>
    if seen.contains n then distinctFrom seen rest else n :: distinctFrom (n :: seen) rest

def distinct (names : List String) : List String := distinctFrom [] names

theorem mem_distinctFrom {seen names : List String} {n : String} :
    n ∈ distinctFrom seen names ↔ n ∈ names ∧ n ∉ seen := by
  induction names generalizing seen with
  | nil => simp [distinctFrom]
  | cons m rest ih =>
    rw [distinctFrom]
    by_cases hm : m ∈ seen
    · rw [if_pos (List.contains_iff_mem.mpr hm), ih, List.mem_cons]
      constructor
      · rintro ⟨h, hn⟩
        exact ⟨Or.inr h, hn⟩
      · rintro ⟨rfl | h, hn⟩
        · exact absurd hm hn
        · exact ⟨h, hn⟩
    · rw [if_neg (fun h => hm (List.contains_iff_mem.mp h)), List.mem_cons, ih, List.mem_cons,
        List.mem_cons, not_or]
      constructor
      · rintro (rfl | ⟨h, _, hn⟩)
        · exact ⟨Or.inl rfl, hm⟩
        · exact ⟨Or.inr h, hn⟩
      · rintro ⟨h, hn⟩
        by_cases hnm : n = m
        · exact Or.inl hnm
        · exact Or.inr ⟨h.resolve_left hnm, hnm, hn⟩

theorem mem_distinct {names : List String} {n : String} : n ∈ distinct names ↔ n ∈ names := by
  simp [distinct, mem_distinctFrom]

theorem nodup_distinctFrom (seen names : List String) : (distinctFrom seen names).Nodup := by
  induction names generalizing seen with
  | nil => simp [distinctFrom]
  | cons m rest ih =>
    rw [distinctFrom]
    split
    · exact ih seen
    · refine List.nodup_cons.mpr ⟨fun h => ?_, ih (m :: seen)⟩
      exact (mem_distinctFrom.mp h).2 List.mem_cons_self

theorem nodup_distinct (names : List String) : (distinct names).Nodup := nodup_distinctFrom [] names

theorem distinctFrom_eq_self {seen names : List String} (h : names.Nodup)
    (hseen : ∀ n ∈ names, n ∉ seen) : distinctFrom seen names = names := by
  induction names generalizing seen with
  | nil => rfl
  | cons m rest ih =>
    obtain ⟨hm, hrest⟩ := List.nodup_cons.mp h
    have hnew : m ∉ seen := hseen m List.mem_cons_self
    rw [distinctFrom, if_neg (fun h => hnew (List.contains_iff_mem.mp h)), ih hrest]
    intro n hn hmem
    rcases List.mem_cons.mp hmem with rfl | hin
    · exact hm hn
    · exact hseen n (List.mem_cons_of_mem m hn) hin

theorem distinct_eq_self {names : List String} (h : names.Nodup) : distinct names = names :=
  distinctFrom_eq_self h fun _ _ => List.not_mem_nil

/-- An item is the one that is found by its key, as no two have the same. -/
theorem find?_of_nodup {α : Type} {key : α → String} {l : List α} (h : (l.map key).Nodup) {a : α}
    (ha : a ∈ l) : l.find? (key · == key a) = some a := by
  induction l with
  | nil => exact absurd ha List.not_mem_nil
  | cons b rest ih =>
    obtain ⟨hb, hrest⟩ := List.nodup_cons.mp h
    rcases List.mem_cons.mp ha with rfl | hin
    · exact List.find?_cons_of_pos (beq_self_eq_true (key a))
    · have hne : key b ≠ key a := fun heq => hb (heq ▸ List.mem_map_of_mem hin)
      rw [List.find?_cons, beq_eq_false_iff_ne.mpr hne]
      exact ih hrest hin

/-! ## The first of the greatest -/

/-- An item that no other exceeds, while all that stand before it are less. -/
def IsFirstGreatest {α β : Type} [LT β] [LE β] (key : α → β) (l : List α) (a : α) : Prop :=
  ∃ earlier later, l = earlier ++ a :: later ∧
    (∀ b ∈ earlier, key b < key a) ∧ ∀ b ∈ later, key b ≤ key a

namespace IsFirstGreatest

variable {α β : Type} [LT β] [LE β] {key : α → β} {l : List α} {a b : α}

/-- An item that exceeds all before it takes the place. -/
theorem of_lt (h : ∀ c ∈ l, key c < key b) : IsFirstGreatest key (l ++ [b]) b :=
  ⟨l, [], rfl, h, fun _ hc => absurd hc List.not_mem_nil⟩

/-- One that does not exceed the greatest so far leaves it in its place. -/
theorem concat (h : IsFirstGreatest key l a) (hb : key b ≤ key a) :
    IsFirstGreatest key (l ++ [b]) a := by
  obtain ⟨earlier, later, rfl, hearlier, hlater⟩ := h
  refine ⟨earlier, later ++ [b], by simp, hearlier, fun c hc => ?_⟩
  rcases List.mem_append.mp hc with hc | hc
  · exact hlater c hc
  · rw [List.mem_singleton.mp hc]
    exact hb

theorem mem (h : IsFirstGreatest key l a) : a ∈ l := by
  obtain ⟨earlier, later, rfl, -, -⟩ := h
  exact List.mem_append_right earlier List.mem_cons_self

theorem le (h : IsFirstGreatest key l a) (hlt : ∀ {x y : β}, x < y → x ≤ y)
    (ha : key a ≤ key a) (hb : b ∈ l) : key b ≤ key a := by
  obtain ⟨earlier, later, rfl, hearlier, hlater⟩ := h
  rcases List.mem_append.mp hb with hb | hb
  · exact hlt (hearlier b hb)
  rcases List.mem_cons.mp hb with rfl | hb
  · exact ha
  · exact hlater b hb

end IsFirstGreatest

/-! ## A change of one item -/

/-- Changes the first item with a property. -/
def changeFirst {α : Type} (p : α → Bool) (f : α → α) : List α → List α
  | [] => []
  | a :: rest => if p a then f a :: rest else a :: changeFirst p f rest

section

variable {α β : Type} {p q : α → Bool} {f g : α → α}

theorem mem_changeFirst {l : List α} {b : α} (h : b ∈ changeFirst p f l) :
    b ∈ l ∨ ∃ a ∈ l, p a = true ∧ b = f a := by
  induction l with
  | nil => exact Or.inl h
  | cons a rest ih =>
    rw [changeFirst] at h
    split at h
    · next ha =>
      rcases List.mem_cons.mp h with rfl | h
      · exact Or.inr ⟨a, List.mem_cons_self, ha, rfl⟩
      · exact Or.inl (List.mem_cons_of_mem a h)
    · rcases List.mem_cons.mp h with rfl | h
      · exact Or.inl List.mem_cons_self
      · rcases ih h with h | ⟨c, hc, heq⟩
        · exact Or.inl (List.mem_cons_of_mem a h)
        · exact Or.inr ⟨c, List.mem_cons_of_mem a hc, heq⟩

theorem changeFirst_eq_self {l : List α} (h : l.find? p = none) : changeFirst p f l = l := by
  induction l with
  | nil => rfl
  | cons a rest ih =>
    have hp : ¬p a = true := List.find?_eq_none.mp h a List.mem_cons_self
    rw [List.find?_cons_of_neg hp] at h
    rw [changeFirst, if_neg hp, ih h]

/-- A change seen through a view of the items.  Only the item that is changed has to fit. -/
theorem changeFirst_map {l : List α} {view : α → β} {r : β → Bool} {k : β → β}
    (hr : ∀ a, r (view a) = p a) (hk : ∀ a, l.find? p = some a → k (view a) = view (f a)) :
    changeFirst r k (l.map view) = (changeFirst p f l).map view := by
  induction l with
  | nil => rfl
  | cons a rest ih =>
    rw [List.map_cons, changeFirst, changeFirst, hr]
    by_cases hp : p a = true
    · rw [if_pos hp, if_pos hp, List.map_cons, hk a (List.find?_cons_of_pos hp)]
    · rw [if_neg hp, if_neg hp, List.map_cons]
      rw [ih (fun b hb => hk b ((List.find?_cons_of_neg hp).trans hb))]

theorem changeFirst_congr {l : List α} (h : ∀ a, l.find? p = some a → f a = g a) :
    changeFirst p f l = changeFirst p g l := by
  have hview : changeFirst p g (l.map id) = (changeFirst p f l).map id :=
    changeFirst_map (fun _ => rfl) fun a ha => (h a ha).symm
  rw [List.map_id, List.map_id] at hview
  exact hview.symm

/-- A change that leaves a view of each item alone leaves the view of the list alone. -/
theorem map_changeFirst {l : List α} {view : α → β} (h : ∀ a, view (f a) = view a) :
    (changeFirst p f l).map view = l.map view := by
  induction l with
  | nil => rfl
  | cons a rest ih =>
    rw [changeFirst]
    split
    · rw [List.map_cons, List.map_cons, h]
    · rw [List.map_cons, List.map_cons, ih]

/-- The item that was changed is found where it was. -/
theorem find?_changeFirst (hp : ∀ a, p (f a) = p a) (l : List α) :
    (changeFirst p f l).find? p = (l.find? p).map f := by
  induction l with
  | nil => rfl
  | cons a rest ih =>
    rw [changeFirst]
    by_cases ha : p a = true
    · rw [if_pos ha, List.find?_cons_of_pos ((hp a).trans ha), List.find?_cons_of_pos ha]
      rfl
    · rw [if_neg ha, List.find?_cons_of_neg ha, List.find?_cons_of_neg ha, ih]

/-- What is found by another property is not the item that was changed. -/
theorem find?_changeFirst_of_not (hq : ∀ a, q (f a) = q a) (hpq : ∀ a, p a = true → ¬q a = true)
    (l : List α) : (changeFirst p f l).find? q = l.find? q := by
  induction l with
  | nil => rfl
  | cons a rest ih =>
    rw [changeFirst]
    by_cases ha : p a = true
    · have hno : ¬q a = true := hpq a ha
      rw [if_pos ha, List.find?_cons_of_neg (fun h => hno ((hq a).symm.trans h)),
        List.find?_cons_of_neg hno]
    · rw [if_neg ha, List.find?_cons, List.find?_cons, ih]

/-- The same change made at two places, in either order. -/
theorem changeFirst_comm (hp : ∀ a, p (f a) = p a) (hq : ∀ a, q (f a) = q a) (l : List α) :
    changeFirst p f (changeFirst q f l) = changeFirst q f (changeFirst p f l) := by
  induction l with
  | nil => rfl
  | cons a rest ih =>
    simp only [changeFirst]
    cases ha : p a <;> cases hb : q a <;> simp [changeFirst, hp, hq, ha, hb, ih]

end

/-! ## A value that is set anew -/

/-- What some steps set and the others leave is in the end what the last of them set. -/
theorem foldl_set {σ χ α β : Type} {step : σ → χ → σ} {view : σ → β} {set? : χ → Option α}
    {g : α → β} (h : ∀ s x, view (step s x) = ((set? x).map g).getD (view s)) (s : σ)
    (xs : List χ) :
    view (xs.foldl step s) = ((xs.filterMap set?).getLast?.map g).getD (view s) := by
  induction xs generalizing s with
  | nil => rfl
  | cons x rest ih =>
    rw [List.foldl_cons, ih, h]
    cases hx : set? x with
    | none =>
      rw [List.filterMap_cons_none hx]
      rfl
    | some a =>
      rw [List.filterMap_cons_some hx, List.getLast?_cons]
      cases (rest.filterMap set?).getLast? <;> rfl

end Sequence
end Motif
