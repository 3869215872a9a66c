import Motif.Decimal.Shortest
import Motif.Proofs.Double.Nearest

/-!
The shortest digits of a double round to it.  The test of a neighbour on a grid says exactly whether
it lies in the interval around the double, and on the grid of seventeen digits one of the two
neighbours always does.
-/

namespace Motif
namespace Decimal

open Double (Reaches lowerEnd target)

namespace Dyadic

variable (d : Dyadic)

/-- A decimal in units of the last place of a double. -/
def inUnits (c : ℕ) (k : ℤ) : ℚ := c * 10 ^ k / 2 ^ d.exponent

/-! ## Exact comparison -/

theorem zpow_mul_pow_toNat {b : ℚ} (hb : b ≠ 0) (k : ℤ) : b ^ k * b ^ (-k).toNat = b ^ k.toNat := by
  rw [← zpow_natCast, ← zpow_natCast, ← zpow_add₀ hb]
  congr 1
  omega

/-- The decimal, scaled as the comparison scales both its sides. -/
theorem scaled_quarters (c : ℕ) (k : ℤ) :
    ((c * (Nat.pow 2 (-(d.exponent - 2)).toNat * Nat.pow 10 k.toNat) : ℕ) : ℚ) =
      4 * d.inUnits c k *
        (Nat.pow 2 (d.exponent - 2).toNat * Nat.pow 10 (-k).toNat : ℕ) := by
  have htwo := zpow_mul_pow_toNat (b := 2) two_ne_zero (-(d.exponent - 2))
  have hten := zpow_mul_pow_toNat (b := 10) (by norm_num) k
  have hquarter : (2 : ℚ) ^ (-(d.exponent - 2)) = 4 / 2 ^ d.exponent := by
    rw [neg_sub, zpow_sub₀ two_ne_zero]
    norm_num
  rw [neg_neg, hquarter] at htwo
  simp only [Nat.pow_eq, Nat.cast_mul, Nat.cast_pow, Nat.cast_ofNat]
  rw [inUnits, ← htwo, ← hten]
  ring

theorem compareQuarters_eq (x c : ℕ) (k : ℤ) :
    d.compareQuarters x c k = compare (x : ℚ) (4 * d.inUnits c k) := by
  have hscaled := d.scaled_quarters c k
  rw [compareQuarters]
  generalize hleft : Nat.pow 2 (d.exponent - 2).toNat * Nat.pow 10 (-k).toNat = left at hscaled ⊢
  generalize c * _ = right at hscaled ⊢
  have hpos : (0 : ℚ) < left := by
    rw [← hleft]
    exact_mod_cast Nat.mul_pos (Nat.pow_pos (by decide)) (Nat.pow_pos (by decide))
  rcases lt_trichotomy (x : ℚ) (4 * d.inUnits c k) with h | h | h
  · rw [compare_lt_iff_lt.mpr h]
    refine Nat.compare_eq_lt.mpr ?_
    exact_mod_cast hscaled ▸ mul_lt_mul_of_pos_right h hpos
  · rw [compare_eq_iff_eq.mpr h]
    refine Nat.compare_eq_eq.mpr ?_
    exact_mod_cast hscaled ▸ congrArg (· * (left : ℚ)) h
  · rw [compare_gt_iff_gt.mpr h]
    refine Nat.compare_eq_gt.mpr ?_
    exact_mod_cast hscaled ▸ mul_lt_mul_of_pos_right h hpos

theorem reaches_up_iff {a b : ℚ} {p : Prop} [Decidable p] :
    (match compare a b with
      | .lt => true
      | .eq => decide p
      | .gt => false) = true ↔ a < b ∨ a = b ∧ p := by
  rcases lt_trichotomy a b with h | h | h
  · rw [compare_lt_iff_lt.mpr h]
    simp [h]
  · rw [compare_eq_iff_eq.mpr h]
    simp [h]
  · rw [compare_gt_iff_gt.mpr h]
    simp [h.ne', h.le]

theorem reaches_down_iff {a b : ℚ} {p : Prop} [Decidable p] :
    (match compare a b with
      | .gt => true
      | .eq => decide p
      | .lt => false) = true ↔ b < a ∨ b = a ∧ p := by
  have hswap : compare b a = (compare a b).swap := Std.OrientedOrd.eq_swap
  rw [← reaches_up_iff, hswap]
  cases compare a b <;> rfl

/-- The test of a decimal is exact. -/
theorem accepts_iff (c : ℕ) (k : ℤ) :
    d.accepts c k = true ↔ Reaches d.mantissa d.exponent (d.inUnits c k) := by
  rw [accepts, Bool.and_eq_true]
  simp only [compareQuarters_eq]
  exact and_congr reaches_up_iff reaches_down_iff

/-! ## The grids -/

/-- The magnitude of a double. -/
def value : ℚ := d.mantissa * 2 ^ d.exponent

theorem numerator_div_denominator : (d.numerator / d.denominator : ℚ) = d.value := by
  have htwo := zpow_mul_pow_toNat (b := 2) two_ne_zero d.exponent
  have hpow : (2 : ℚ) ^ (-d.exponent).toNat ≠ 0 := by positivity
  rw [numerator, denominator, value]
  simp only [Nat.pow_eq, Nat.cast_mul, Nat.cast_pow, Nat.cast_ofNat]
  rw [← htwo, ← mul_assoc, mul_div_cancel_right₀ _ hpow]

theorem denominator_pos : 0 < d.denominator := Nat.pow_pos (by decide)

theorem quotient_bounds (m : ℕ) {n : ℕ} (hn : 0 < n) :
    ((m / n : ℕ) : ℚ) ≤ m / n ∧ (m / n : ℚ) < (m / n + 1 : ℕ) := by
  refine ⟨Nat.cast_div_le, ?_⟩
  rw [div_lt_iff₀ (Nat.cast_pos.mpr hn)]
  exact_mod_cast (Nat.lt_mul_div_succ m hn).trans_eq (Nat.mul_comm n _)

/-- The neighbours on a grid. -/
theorem floorAt_spec (k : ℤ) :
    d.floorAt k * (10 : ℚ) ^ k ≤ d.value ∧ d.value < (d.floorAt k + 1 : ℕ) * (10 : ℚ) ^ k := by
  have hten := zpow_mul_pow_toNat (b := 10) (by norm_num) k
  have hpos : 0 < d.denominator * Nat.pow 10 k.toNat :=
    Nat.mul_pos d.denominator_pos (Nat.pow_pos (by decide))
  have hquotient : d.value / 10 ^ k =
      (d.numerator * Nat.pow 10 (-k).toNat : ℕ) / (d.denominator * Nat.pow 10 k.toNat : ℕ) := by
    rw [← numerator_div_denominator]
    simp only [Nat.pow_eq, Nat.cast_mul, Nat.cast_pow, Nat.cast_ofNat]
    rw [← hten]
    field_simp
  have hpow : (0 : ℚ) < 10 ^ k := by positivity
  rw [← le_div_iff₀ hpow, ← div_lt_iff₀ hpow, hquotient]
  exact quotient_bounds _ hpos

/-- The value has at least so many places before the point. -/
theorem pow_magnitude_le (h : 0 < d.mantissa) : (10 : ℚ) ^ (d.magnitude - 1) ≤ d.value := by
  have hnumerator : 0 < d.numerator := Nat.mul_pos h (Nat.pow_pos (by decide))
  have hdenominator := d.denominator_pos
  rw [magnitude, ← numerator_div_denominator]
  by_cases hlarge : d.denominator ≤ d.numerator
  · have hpos : 0 < countDigits (d.numerator / d.denominator) := Nat.length_toDigits_pos
    have hexponent : (countDigits (d.numerator / d.denominator) : ℤ) - 1 =
        (countDigits (d.numerator / d.denominator) - 1 : ℕ) := by omega
    rw [if_pos hlarge, hexponent, zpow_natCast]
    refine le_trans ?_ (quotient_bounds _ hdenominator).1
    exact_mod_cast (Double.le_count_lt (Nat.div_pos hlarge hdenominator)).1
  · rw [if_neg hlarge, sub_sub_cancel_left, zpow_neg, zpow_natCast, inv_le_comm₀ (by positivity)
      (by positivity), inv_div]
    refine (quotient_bounds _ hnumerator).2.le.trans ?_
    exact_mod_cast (Double.le_count_lt (Nat.div_pos (Nat.le_of_not_le hlarge) hnumerator)).2

/-! ## Seventeen digits suffice -/

/-- A finite double that is not zero. -/
structure Proper : Prop where
  mantissa_pos : 0 < d.mantissa
  canonical : target d.mantissa d.exponent = d.exponent

variable {d}

theorem Proper.mantissa_lt (h : d.Proper) : d.mantissa < 2 ^ 53 := by
  have hcanonical := h.canonical
  rw [Double.target_eq] at hcanonical
  exact (Nat.log2_lt h.mantissa_pos.ne').mp (by omega)

/-- One of two neighbours that are close enough lies in the interval around the mantissa. -/
theorem Proper.reaches_neighbour (h : d.Proper) {p q : ℚ} (hp : p ≤ d.mantissa)
    (hq : d.mantissa < q) (hstep : q - p ≤ d.mantissa / 10 ^ 16) :
    Reaches d.mantissa d.exponent p ∨ Reaches d.mantissa d.exponent q := by
  have hlt : (d.mantissa : ℚ) + 1 ≤ 2 ^ 53 := by exact_mod_cast h.mantissa_lt
  have hone : (1 : ℚ) ≤ d.mantissa := by exact_mod_cast h.mantissa_pos
  by_cases hlow : (lowerEnd d.mantissa d.exponent : ℚ) < 4 * p
  · left
    refine ⟨Or.inl hlow, Or.inl ?_⟩
    push_cast
    linarith
  · right
    rw [not_lt, lowerEnd] at hlow
    refine ⟨Or.inl ?_, Or.inl ?_⟩
    · have hend : (lowerEnd d.mantissa d.exponent : ℚ) ≤ (4 * d.mantissa : ℕ) := by
        exact_mod_cast Nat.sub_le _ _
      push_cast at hend
      linarith
    · push_cast
      by_cases hnarrow : d.mantissa = 2 ^ 52 ∧ -1074 < d.exponent
      · rw [if_pos hnarrow, Nat.cast_sub (by omega), hnarrow.1] at hlow
        rw [hnarrow.1] at hstep ⊢
        push_cast at hlow hstep ⊢
        norm_num at hlow hstep ⊢
        linarith
      · rw [if_neg hnarrow, Nat.cast_sub (by have := h.mantissa_pos; omega)] at hlow
        push_cast at hlow
        norm_num at hlow hstep ⊢
        linarith

/-- The digits round to the value. -/
def Yields (d : Dyadic) (r : Digits) : Prop :=
  Reaches d.mantissa d.exponent (d.inUnits r.digits r.exponent)

theorem Proper.digits_pos (h : d.Proper) {r : Digits} (hr : d.Yields r) : 0 < r.digits := by
  have hlow := (Double.bounds_of_reaches h.mantissa_pos h.canonical hr).1
  refine Nat.pos_of_ne_zero fun hzero => ?_
  rw [inUnits, hzero, Nat.cast_zero, zero_mul, zero_div] at hlow
  norm_num at hlow

theorem nearer_eq (c : ℕ) (k : ℤ) : d.nearer c k = c ∨ d.nearer c k = c + 1 := by
  rw [nearer]
  split
  · exact Or.inl rfl
  · exact Or.inr rfl
  · split
    · exact Or.inl rfl
    · exact Or.inr rfl

theorem yields_of_onGrid {k : ℤ} {r : Digits} (h : d.onGrid k = some r) : d.Yields r := by
  rw [onGrid] at h
  cases hfloor : d.accepts (d.floorAt k) k && d.floorAt k != 0 <;>
    cases hnext : d.accepts (d.floorAt k + 1) k <;> rw [hfloor, hnext] at h
  case false.false => cases h
  case false.true =>
    obtain rfl := Option.some.inj h
    exact (d.accepts_iff _ k).mp hnext
  case true.false =>
    obtain rfl := Option.some.inj h
    exact (d.accepts_iff _ k).mp (Bool.and_eq_true_iff.mp hfloor).1
  case true.true =>
    obtain rfl := Option.some.inj h
    rw [Yields]
    rcases nearer_eq (d := d) (d.floorAt k) k with hchoice | hchoice <;> rw [hchoice]
    · exact (d.accepts_iff _ k).mp (Bool.and_eq_true_iff.mp hfloor).1
    · exact (d.accepts_iff _ k).mp hnext

/-- With seventeen digits one neighbour of the value rounds to it. -/
theorem Proper.onGrid_ne_none (h : d.Proper) : d.onGrid (d.magnitude - 17) ≠ none := by
  have hunit : (0 : ℚ) < 2 ^ d.exponent := by positivity
  have hlarge := d.pow_magnitude_le h.mantissa_pos
  have hgrid : (10 : ℚ) ^ (d.magnitude - 17) = 10 ^ (d.magnitude - 1) / 10 ^ 16 := by
    rw [← zpow_natCast, ← zpow_sub₀ (by norm_num)]
    congr 1
    omega
  rw [onGrid]
  generalize d.magnitude - 17 = k at hgrid ⊢
  obtain ⟨hbelow, habove⟩ := d.floorAt_spec k
  have hneighbour : d.accepts (d.floorAt k) k = true ∨ d.accepts (d.floorAt k + 1) k = true := by
    rw [accepts_iff, accepts_iff]
    refine h.reaches_neighbour ?_ ?_ ?_
    · rwa [inUnits, div_le_iff₀ hunit]
    · rwa [inUnits, lt_div_iff₀ hunit]
    · rw [inUnits, inUnits, ← sub_div, div_le_iff₀ hunit, ← sub_mul, hgrid]
      push_cast
      rw [value] at hlarge
      linarith
  cases hnext : d.accepts (d.floorAt k + 1) k with
  | true => cases d.accepts (d.floorAt k) k && d.floorAt k != 0 <;> exact Option.some_ne_none _
  | false =>
    have hfloor := hneighbour.resolve_right (by rw [hnext]; exact Bool.false_ne_true)
    have hpos : 0 < d.floorAt k := h.digits_pos (r := ⟨_, k⟩) ((d.accepts_iff _ k).mp hfloor)
    rw [hfloor, bne_iff_ne.mpr hpos.ne']
    exact Option.some_ne_none _

/-- Zeros at the end of the digits belong to the exponent. -/
theorem Yields.trim {r : Digits} (h : d.Yields r) (fuel : ℕ) : d.Yields (r.trim fuel) := by
  induction fuel generalizing r with
  | zero => exact h
  | succ fuel ih =>
    rw [Digits.trim]
    split
    · next hzero =>
      apply ih
      have hten : ((r.digits / 10 : ℕ) : ℚ) * 10 = r.digits := by
        exact_mod_cast Nat.div_mul_cancel (Nat.dvd_of_mod_eq_zero hzero.2)
      rw [Yields, inUnits, ← hten] at h
      rw [Yields, inUnits, zpow_add_one₀ (by norm_num), mul_comm _ (10 : ℚ), ← mul_assoc]
      exact h
    · exact h

/-- The shortest digits of a double round to it. -/
theorem Proper.yields_shortest (h : d.Proper) : d.Yields d.shortest := by
  rw [shortest]
  split
  · next r hfound =>
    obtain ⟨k, -, hgrid⟩ := List.exists_of_findSome?_eq_some hfound
    exact (yields_of_onGrid hgrid).trim 18
  · next hnone =>
    have hlast : d.magnitude - 17 ∈ (List.range 17).map fun n => d.magnitude - (n + 1 : ℕ) :=
      List.mem_map.mpr ⟨16, by decide, rfl⟩
    exact absurd (List.findSome?_eq_none_iff.mp hnone _ hlast) h.onGrid_ne_none

end Dyadic
end Decimal
end Motif
