import Mathlib.Algebra.Order.Ring.Int
import Mathlib.Data.Prod.Lex
import Motif.Confidence

/-!
The order of doubles.  What is a number has a place on a line, first by its kind, then by its
exponent, then by its mantissa, and one number is at most another when its place is.  What is no
number is at most nothing, and nothing is at most it.  The lesser, the greater and the clamp then
have the bounds that they are named for.
-/

namespace Motif
namespace Double

open Float.Model Float.Model.UnpackedFloat

/-! ## Places on a line -/

/-- Where a number stands among the others.  Zero has one place, whatever its sign. -/
def place : UnpackedFloat → ℤ ×ₗ ℤ ×ₗ ℤ
  | .infinity .negative => toLex (-2, toLex (0, 0))
  | .finite .negative m e _ => toLex (-1, toLex (-e, -m))
  | .zero _ | .notANumber => toLex (0, toLex (0, 0))
  | .finite .positive m e _ => toLex (1, toLex (e, m))
  | .infinity .positive => toLex (2, toLex (0, 0))

theorem kind_le {i j : ℤ} (h : i < j) (p q : ℤ ×ₗ ℤ) : toLex (i, p) ≤ toLex (j, q) :=
  Prod.Lex.toLex_le_toLex.mpr (Or.inl h)

theorem compare_natCast (m n : ℕ) : compare (m : ℤ) (n : ℤ) = compare m n := by
  rw [← cmp_eq_compare, ← cmp_eq_compare]
  simp [cmp, cmpUsing]

theorem compare_neg (i j : ℤ) : compare (-i) (-j) = (compare i j).swap := by
  rw [← cmp_eq_compare, ← cmp_eq_compare, cmp_swap]
  simp [cmp, cmpUsing]

theorem compare_eq_compare_place {a b : UnpackedFloat} (ha : a ≠ .notANumber)
    (hb : b ≠ .notANumber) : a.compare b = some (compare (place a) (place b)) := by
  have hpair (i : ℤ) (p q : ℤ ×ₗ ℤ) : compare (toLex (i, p)) (toLex (i, q)) = compare p q := by
    show (compare i i).then (compare p q) = compare p q
    rw [Int.compare_eq_eq.mpr rfl, Ordering.eq_then]
  cases a with
  | notANumber => exact absurd rfl ha
  | infinity s =>
    cases b with
    | notANumber => exact absurd rfl hb
    | infinity t => cases s <;> cases t <;> rfl
    | zero t => cases s <;> rfl
    | finite t n f hn => cases s <;> cases t <;> rfl
  | zero s =>
    cases b with
    | notANumber => exact absurd rfl hb
    | infinity t => cases t <;> rfl
    | zero t => rfl
    | finite t n f hn => cases t <;> rfl
  | finite s m e hm =>
    cases b with
    | notANumber => exact absurd rfl hb
    | infinity t => cases s <;> cases t <;> rfl
    | zero t => cases s <;> rfl
    | finite t n f hn =>
      cases s <;> cases t
      -- both negative: the larger exponent, then the larger mantissa, is the lesser number
      · show some ((compare e f).then (compare m n)).swap = some (compare (toLex _) (toLex _))
        rw [hpair]
        show _ = some ((compare (-e) (-f)).then (compare (-(m : ℤ)) (-(n : ℤ))))
        rw [compare_neg, compare_neg, compare_natCast, Ordering.swap_then]
      · rfl
      · rfl
      · show some ((compare e f).then (compare m n)) = some (compare (toLex _) (toLex _))
        rw [hpair]
        show _ = some ((compare e f).then (compare (m : ℤ) (n : ℤ)))
        rw [compare_natCast]

/-! ## Numbers -/

def IsNumber (x : Float) : Prop := x.isNaN = false

instance (x : Float) : Decidable (IsNumber x) := inferInstanceAs (Decidable (_ = false))

def rank (x : Float) : ℤ ×ₗ ℤ ×ₗ ℤ := place x.toModel.unpack

variable {x y z : Float}

theorem isNumber_iff : IsNumber x ↔ x.toModel.unpack ≠ .notANumber := by
  show x.toModel.unpack.isNaN = false ↔ _
  cases x.toModel.unpack with
  | notANumber => exact iff_of_false Bool.noConfusion fun h => h rfl
  | infinity s | zero s | finite s m e hm => exact iff_of_true rfl nofun

theorem compare_notANumber (a : UnpackedFloat) : a.compare .notANumber = none := by
  cases a with
  | infinity s => cases s <;> rfl
  | zero s => rfl
  | finite s m e hm => cases s <;> rfl
  | notANumber => rfl

theorem compare_isNumber (hx : IsNumber x) (hy : IsNumber y) :
    x.toModel.unpack.compare y.toModel.unpack = some (compare (rank x) (rank y)) :=
  compare_eq_compare_place (isNumber_iff.mp hx) (isNumber_iff.mp hy)

theorem compare_eq_none (h : ¬(IsNumber x ∧ IsNumber y)) :
    x.toModel.unpack.compare y.toModel.unpack = none := by
  rw [isNumber_iff, isNumber_iff, not_and_or, not_not, not_not] at h
  rcases h with h | h
  · rw [h]
    rfl
  · rw [h]
    exact compare_notANumber _

theorem le_iff : x ≤ y ↔ IsNumber x ∧ IsNumber y ∧ rank x ≤ rank y := by
  have hread : x ≤ y ↔ (x.toModel.unpack.compare y.toModel.unpack).any (·.isLE) = true := by
    show decide ((x.toModel.le y.toModel) = true) = true ↔ _
    rw [decide_eq_true_iff]
    rfl
  rw [hread]
  by_cases h : IsNumber x ∧ IsNumber y
  · rw [compare_isNumber h.1 h.2, Option.any_some, Ordering.isLE_iff_ne_gt]
    refine compare_le_iff_le.trans ?_
    exact ⟨fun hle => ⟨h.1, h.2, hle⟩, fun hle => hle.2.2⟩
  · rw [compare_eq_none h]
    exact ⟨fun hfalse => absurd hfalse Bool.false_ne_true, fun hle => absurd ⟨hle.1, hle.2.1⟩ h⟩

theorem lt_iff : x < y ↔ IsNumber x ∧ IsNumber y ∧ rank x < rank y := by
  have hread : x < y ↔ x.toModel.unpack.compare y.toModel.unpack = some .lt := by
    show decide ((x.toModel.lt y.toModel) = true) = true ↔ _
    rw [decide_eq_true_iff]
    show (x.toModel.unpack.compare y.toModel.unpack == some .lt) = true ↔ _
    rw [beq_iff_eq]
  rw [hread]
  by_cases h : IsNumber x ∧ IsNumber y
  · rw [compare_isNumber h.1 h.2, Option.some_inj, compare_lt_iff_lt]
    exact ⟨fun hlt => ⟨h.1, h.2, hlt⟩, fun hlt => hlt.2.2⟩
  · rw [compare_eq_none h]
    exact ⟨fun hnone => absurd hnone (Option.some_ne_none _).symm,
      fun hlt => absurd ⟨hlt.1, hlt.2.1⟩ h⟩

theorem isNumber_right (h : x ≤ y) : IsNumber y := (le_iff.mp h).2.1

theorem le_refl (h : IsNumber x) : x ≤ x := le_iff.mpr ⟨h, h, le_rfl⟩

theorem le_trans (h : x ≤ y) (h' : y ≤ z) : x ≤ z := by
  obtain ⟨hx, -, hxy⟩ := le_iff.mp h
  obtain ⟨-, hz, hyz⟩ := le_iff.mp h'
  exact le_iff.mpr ⟨hx, hz, hxy.trans hyz⟩

theorem le_of_lt (h : x < y) : x ≤ y := by
  obtain ⟨hx, hy, hxy⟩ := lt_iff.mp h
  exact le_iff.mpr ⟨hx, hy, hxy.le⟩

theorem lt_of_lt_of_le (h : x < y) (h' : y ≤ z) : x < z := by
  obtain ⟨hx, -, hxy⟩ := lt_iff.mp h
  obtain ⟨-, hz, hyz⟩ := le_iff.mp h'
  exact lt_iff.mpr ⟨hx, hz, hxy.trans_le hyz⟩

theorem lt_of_le_of_lt (h : x ≤ y) (h' : y < z) : x < z := by
  obtain ⟨hx, -, hxy⟩ := le_iff.mp h
  obtain ⟨-, hz, hyz⟩ := lt_iff.mp h'
  exact lt_iff.mpr ⟨hx, hz, hxy.trans_lt hyz⟩

theorem le_of_not_lt (hx : IsNumber x) (hy : IsNumber y) (h : ¬y < x) : x ≤ y := by
  refine le_iff.mpr ⟨hx, hy, not_lt.mp fun hlt => h ?_⟩
  exact lt_iff.mpr ⟨hy, hx, hlt⟩

theorem lt_of_not_le (hx : IsNumber x) (hy : IsNumber y) (h : ¬y ≤ x) : x < y := by
  refine lt_iff.mpr ⟨hx, hy, not_le.mp fun hle => h ?_⟩
  exact le_iff.mpr ⟨hy, hx, hle⟩

theorem not_lt_of_le (h : x ≤ y) : ¬y < x := by
  intro hlt
  exact absurd (lt_iff.mp hlt).2.2 (not_lt.mpr (le_iff.mp h).2.2)

/-- Of equal numbers none exceeds the other.  The two zeros are equal, so these need not be the same
double. -/
theorem beq_of_le_of_le (h : x ≤ y) (h' : y ≤ x) : x == y := by
  obtain ⟨hx, hy, hxy⟩ := le_iff.mp h
  have hcompare : compare (rank x) (rank y) = .eq :=
    compare_eq_iff_eq.mpr (le_antisymm hxy (le_iff.mp h').2.2)
  show (x.toModel.unpack.compare y.toModel.unpack == some .eq) = true
  rw [compare_isNumber hx hy, hcompare]
  rfl

/-- At least `lo` and at most `hi`. -/
def Within (lo hi x : Float) : Prop := lo ≤ x ∧ x ≤ hi

theorem isNumber_zero : IsNumber 0.0 := by decide

theorem isNumber_one : IsNumber 1.0 := by decide

theorem zero_le_one : (0.0 : Float) ≤ 1.0 := by decide

end Double

/-! ## Bounds of the lesser, the greater and the clamp -/

namespace Confidence

open Double

variable {a b x z : Float}

theorem least_le_right (hb : IsNumber b) : least a b ≤ b := by
  rw [least]
  split
  · exact le_refl hb
  · next ha =>
    split
    · exact le_refl hb
    · next hlt => exact le_of_not_lt (Bool.eq_false_iff.mpr ha) hb hlt

theorem least_le_left (ha : IsNumber a) : least a b ≤ a := by
  rw [least, if_neg (Bool.eq_false_iff.mp ha)]
  split
  · next hlt => exact le_of_lt hlt
  · exact le_refl ha

/-- What is no number does not count, so only a number has to respect the bound. -/
theorem le_least (h : IsNumber a ∨ IsNumber b) (ha : IsNumber a → z ≤ a)
    (hb : IsNumber b → z ≤ b) : z ≤ least a b := by
  rw [least]
  split
  · next hnone =>
    have hnot : ¬IsNumber a := fun hnumber => Bool.eq_false_iff.mp hnumber hnone
    exact hb (h.resolve_left hnot)
  · next hnumber =>
    split
    · next hlt => exact hb (lt_iff.mp hlt).1
    · exact ha (Bool.eq_false_iff.mpr hnumber)

theorem lt_least (ha : z < a) (hb : z < b) : z < least a b := by
  rw [least]
  split
  · exact hb
  · split
    · exact hb
    · exact ha

theorem le_greatest_left (ha : IsNumber a) : a ≤ greatest a b := by
  rw [greatest, if_neg (Bool.eq_false_iff.mp ha)]
  split
  · next hlt => exact le_of_lt hlt
  · exact le_refl ha

theorem le_greatest_right (hb : IsNumber b) : b ≤ greatest a b := by
  rw [greatest]
  split
  · exact le_refl hb
  · next ha =>
    split
    · exact le_refl hb
    · next hlt => exact le_of_not_lt hb (Bool.eq_false_iff.mpr ha) hlt

theorem greatest_le (ha : a ≤ z) (hb : b ≤ z) : greatest a b ≤ z := by
  rw [greatest]
  split
  · exact hb
  · split
    · exact hb
    · exact ha

theorem clamp_eq_self (h : 0.0 ≤ x) (h' : x ≤ 1.0) : clamp 0.0 1.0 x = x := by
  rw [clamp, if_neg (not_lt_of_le h), if_neg (not_lt_of_le h')]

theorem within_clamp (h : IsNumber x) : Within 0.0 1.0 (clamp 0.0 1.0 x) := by
  rw [clamp]
  split
  · exact ⟨le_refl isNumber_zero, zero_le_one⟩
  · next hzero =>
    split
    · exact ⟨zero_le_one, le_refl isNumber_one⟩
    · next hone => exact ⟨le_of_not_lt isNumber_zero h hzero, le_of_not_lt h isNumber_one hone⟩

theorem clamp_mono (h : x ≤ z) : clamp 0.0 1.0 x ≤ clamp 0.0 1.0 z := by
  obtain ⟨hx, hz, -⟩ := le_iff.mp h
  by_cases hzero : x < 0.0
  · rw [clamp, if_pos hzero]
    exact (within_clamp hz).1
  have hlow : (0.0 : Float) ≤ x := le_of_not_lt isNumber_zero hx hzero
  by_cases hone : (1.0 : Float) < z
  · have hclamp : clamp 0.0 1.0 z = 1.0 :=
      (if_neg (not_lt_of_le (le_trans hlow h))).trans (if_pos hone)
    rw [hclamp]
    exact (within_clamp hx).2
  · have hhigh : z ≤ 1.0 := le_of_not_lt hz isNumber_one hone
    rw [clamp_eq_self hlow (le_trans h hhigh), clamp_eq_self (le_trans hlow h) hhigh]
    exact h

/-- What is no number is let through. -/
theorem isNumber_clamp_iff : IsNumber (clamp 0.0 1.0 x) ↔ IsNumber x := by
  constructor
  · intro h
    by_contra hx
    have hzero : ¬x < 0.0 := fun hlt => hx (lt_iff.mp hlt).1
    have hone : ¬1.0 < x := fun hlt => hx (lt_iff.mp hlt).2.1
    rw [clamp, if_neg hzero, if_neg hone] at h
    exact hx h
  · intro h
    exact isNumber_right (within_clamp h).1

theorem zero_le_clamp (h : IsNumber (clamp 0.0 1.0 x)) : 0.0 ≤ clamp 0.0 1.0 x :=
  (within_clamp (isNumber_clamp_iff.mp h)).1

theorem within_clampUnit (x : Float) : Within 0.0 1.0 (clampUnit x) := by
  rw [clampUnit]
  split
  · exact ⟨le_refl isNumber_zero, zero_le_one⟩
  · next hnumber => exact within_clamp (Bool.eq_false_iff.mpr hnumber)

theorem le_clampUnit (hx : z ≤ x) (hone : z ≤ 1.0) : z ≤ clampUnit x := by
  have hnumber : x.isNaN = false := isNumber_right hx
  rw [clampUnit, if_neg (Bool.eq_false_iff.mp hnumber), clamp]
  split
  · next hlt => exact le_trans hx (le_of_lt hlt)
  · split
    · exact hone
    · exact hx

end Confidence
end Motif
