import Motif.Proofs.Double.Sum

/-!
Totals and means of doubles of any sign and size.  A total breaks at a value that is no number and
at the opposite of the infinity that the sum has come to, and the mean breaks with it; otherwise
both are numbers.  The mean of numbers from the unit interval lies there too, however many there
are: with each value the total grows by one at most, until it is so large that rounding keeps it
where it is.
-/

namespace Motif
namespace Confidence

open Double Float.Model Float.Model.UnpackedFloat

variable {xs : List Float} {x : Float}

theorem total_concat (xs : List Float) (x : Float) : total (xs ++ [x]) = total xs + x :=
  List.foldl_concat _ _ _ _

/-- Somewhere on the way through the values stands what is no number, or the opposite of the
infinity that the sum has come to. -/
def Breaks (xs : List Float) : Prop :=
  ∃ before x after, xs = before ++ x :: after ∧ (¬IsNumber x ∨ Cancel (total before) x)

theorem breaks_concat_iff :
    Breaks (xs ++ [x]) ↔ Breaks xs ∨ ¬IsNumber x ∨ Cancel (total xs) x := by
  constructor
  · rintro ⟨before, y, after, hsplit, hy⟩
    rcases List.eq_nil_or_concat after with rfl | ⟨after, z, rfl⟩
    · obtain ⟨rfl, hlast⟩ := List.append_inj' hsplit rfl
      obtain rfl := List.singleton_inj.mp hlast
      exact .inr hy
    · rw [List.concat_eq_append, ← List.cons_append, ← List.append_assoc] at hsplit
      exact .inl ⟨before, y, after, (List.append_inj' hsplit rfl).1, hy⟩
  · rintro (⟨before, y, after, rfl, hy⟩ | hx)
    · exact ⟨before, y, after ++ [x], by simp, hy⟩
    · exact ⟨xs, x, [], rfl, hx⟩

theorem isNumber_total_iff : IsNumber (total xs) ↔ ¬Breaks xs := by
  induction xs using List.reverseRecOn with
  | nil => exact iff_of_true (by decide) fun ⟨_, _, _, h, _⟩ => by simp at h
  | append_singleton xs x ih =>
    rw [total_concat, isNumber_add_iff, ih, breaks_concat_iff]
    tauto

/-- Finite values never break a sum, whatever their size. -/
theorem not_breaks_of_isFinite (h : ∀ x ∈ xs, x.isFinite = true) : ¬Breaks xs := by
  rintro ⟨before, x, after, rfl, hx⟩
  have hfinite : x.toModel.unpack.isFinite = true :=
    h x (List.mem_append_right _ List.mem_cons_self)
  rcases hx with hx | hx
  · rw [isNumber_iff, not_not] at hx
    rw [hx] at hfinite
    cases hfinite
  · obtain ⟨s, -, hx⟩ := cancel_iff.mp hx
    rw [hx] at hfinite
    cases hfinite

/-- Nothing is added up to a number from what is none. -/
theorem breaks_of_mem (hx : x ∈ xs) (h : ¬IsNumber x) : Breaks xs := by
  obtain ⟨before, after, rfl⟩ := List.append_of_mem hx
  exact ⟨before, x, after, rfl, .inl h⟩

/-! ## Means -/

/-- A quotient by a count is a number if the dividend is. -/
theorem isNumber_div_ofNat_iff {n : ℕ} (hn : 0 < n) (hn' : n ≤ Decimal.word64) :
    IsNumber (x / ofNat n) ↔ IsNumber x := by
  obtain ⟨m, e, hm, hcount, -, -⟩ := exists_unpack_ofNat hn hn'
  rw [isNumber_iff, isNumber_iff, unpack_div, hcount, ne_eq, capped_eq_notANumber_iff]
  cases x.toModel.unpack with
  | notANumber => exact iff_of_false (fun h => h rfl) fun h => h rfl
  | infinity s | zero s =>
    exact iff_of_true UnpackedFloat.noConfusion UnpackedFloat.noConfusion
  | finite s k f hk =>
    exact iff_of_true (roundWithAccuracy_ne_notANumber _ _ _ _) UnpackedFloat.noConfusion

theorem not_isNumber_div (h : ¬IsNumber x) (y : Float) : ¬IsNumber (x / y) := by
  rw [isNumber_iff, not_not] at h ⊢
  rw [unpack_div, h]
  rfl

theorem average_of_ne_nil (h : xs ≠ []) : average xs = total xs / ofNat xs.length := by
  rw [average, if_neg (by rwa [List.isEmpty_iff])]

theorem isNumber_average_iff (h : xs.length ≤ Decimal.word64) :
    IsNumber (average xs) ↔ ¬Breaks xs := by
  by_cases hnil : xs = []
  · subst hnil
    exact iff_of_true (by decide) fun ⟨_, _, _, h, _⟩ => by simp at h
  · rw [average_of_ne_nil hnil, isNumber_div_ofNat_iff (List.length_pos_iff.mpr hnil) h,
      isNumber_total_iff]

/-- What is no number leaves no mean, however many values there are. -/
theorem not_isNumber_average (hx : x ∈ xs) (h : ¬IsNumber x) : ¬IsNumber (average xs) := by
  rw [average_of_ne_nil (List.ne_nil_of_mem hx)]
  exact not_isNumber_div (fun htotal => isNumber_total_iff.mp htotal (breaks_of_mem hx h)) _

/-! ## Means of numbers in the unit interval -/

/-- A total that is as large as the mantissa allows is left as it is by another value. -/
theorem ofNat_full_add_one : ofNat (2 ^ 53) + 1.0 ≤ ofNat (2 ^ 53) := by
  decide +kernel

/-- The total grows by one at most with each value, until the mantissa is full. -/
theorem total_within (h : ∀ x ∈ xs, Within 0.0 1.0 x) :
    Within 0.0 (ofNat (min xs.length (2 ^ 53))) (total xs) := by
  induction xs using List.reverseRecOn with
  | nil => exact ⟨by decide, by decide⟩
  | append_singleton xs x ih =>
    obtain ⟨hxs, hx⟩ := List.forall_mem_append.mp h
    obtain ⟨hlow, hhigh⟩ := ih hxs
    obtain ⟨hx0, hx1⟩ := hx x List.mem_cons_self
    have hcount : min xs.length (2 ^ 53) ≤ Decimal.word64 :=
      (Nat.min_le_right _ _).trans (by decide)
    have hsum : total xs + x ≤ ofNat (min xs.length (2 ^ 53)) + 1.0 :=
      add_le_add hlow hx0 hhigh hx1 (isFinite_ofNat hcount) (by decide)
    rw [total_concat, List.length_append, List.length_singleton]
    refine ⟨le_trans hlow (le_add hlow hx0), le_trans hsum ?_⟩
    by_cases hfull : xs.length < 2 ^ 53
    · rw [Nat.min_eq_left hfull.le, Nat.min_eq_left hfull, ofNat_add_one hfull]
      exact le_refl (isNumber_ofNat _)
    · rw [Nat.min_eq_right (by omega), Nat.min_eq_right (by omega)]
      exact ofNat_full_add_one

end Confidence

namespace Double

open Float.Model Float.Model.UnpackedFloat Float.Model.UnpackedFloat.ExtendedMantissa
  Float.Model.Format

theorem weight_ofMantissaAndAccuracy_le (m : ℕ) (a : Accuracy) :
    weight (ofMantissaAndAccuracy m a) ≤ 4 * m + 3 := by
  have hround := Bool.toNat_le (ofMantissaAndAccuracy m a).roundBit
  have hsticky := Bool.toNat_le (ofMantissaAndAccuracy m a).stickyBit
  rw [weight, mantissa_ofMantissaAndAccuracy]
  omega

/-- A quotient of at most `q` weighs no more than `q`. -/
theorem weight_quotient_le {m n q : ℕ} (h : m ≤ q * n) :
    weight (ofMantissaAndAccuracy (m / n) (accuracyOfFraction (m % n) n)) ≤ weight (whole q) := by
  have hwhole : weight (whole q) = 4 * q := rfl
  have hquotient : m / n ≤ q := Nat.div_le_of_le_mul (Nat.mul_comm q n ▸ h)
  rw [hwhole]
  by_cases hrest : m % n = 0
  · rw [hrest, accuracyOfFraction, if_pos rfl]
    show 4 * (m / n) + 0 + 0 ≤ 4 * q
    omega
  · have hne : m / n ≠ q := by
      rintro rfl
      have hparts := Nat.div_add_mod m n
      rw [Nat.mul_comm] at hparts
      omega
    have hweight := weight_ofMantissaAndAccuracy_le (m / n) (accuracyOfFraction (m % n) n)
    omega

/-- One, rounded from more bits than the mantissa holds. -/
theorem roundWithAccuracy_one {e : ℤ} (he : e ≤ -53) :
    roundWithAccuracy binary64 .positive (2 ^ (-e).toNat) e .exact =
      (1.0 : Float).toModel.unpack := by
  have hround : round binary64 .positive 1 0 = (1.0 : Float).toModel.unpack := rfl
  have htarget : target 1 0 = -52 := rfl
  have hexponent : (0 : ℤ) - (-e).toNat = e := by omega
  rw [← hround, @round_eq .positive 1 one_ne_zero 0 (-e).toNat (by omega), Nat.one_mul, hexponent]

section

variable {m n : ℕ} {e f : ℤ} {hm : 0 < m} {hn : 0 < n}

/-- A quotient of at most one has room for all bits of one. -/
theorem quotientExponent_le (he : target m e = e) (hf : target n f = f)
    (h : place (.finite .positive m e hm) ≤ place (.finite .positive n f hn)) :
    quotientExponent m e n f ≤ -53 := by
  have hsize : m.log2 + e ≤ n.log2 + f := by
    rw [target_eq] at he hf
    rcases place_finite_le_iff.mp h with hlt | ⟨rfl, hle⟩
    · omega
    · have hlog := log2_mono hle
      omega
  rw [quotientExponent]
  omega

/-- A dividend that is not above its divisor, brought to the exponent of the quotient. -/
theorem shifted_le (he : target m e = e) (hf : target n f = f)
    (h : place (.finite .positive m e hm) ≤ place (.finite .positive n f hn)) :
    m * 2 ^ quotientShift m e n f ≤ 2 ^ (-quotientExponent m e n f).toNat * n := by
  have hleast : -1074 ≤ e := he ▸ le_target m e
  have hleast' : -1074 ≤ f := hf ▸ le_target n f
  have hexponent := quotientExponent_le he hf h
  have hshift : (f + 1074).toNat + quotientShift m e n f =
      (-quotientExponent m e n f).toNat + (e + 1074).toNat := by
    rw [quotientShift]
    have hle : quotientExponent m e n f ≤ e - f := min_le_left _ _
    omega
  refine Nat.le_of_mul_le_mul_right ?_ (Nat.two_pow_pos (e + 1074).toNat)
  calc m * 2 ^ quotientShift m e n f * 2 ^ (e + 1074).toNat
      = m * 2 ^ (e + 1074).toNat * 2 ^ quotientShift m e n f := Nat.mul_right_comm _ _ _
    _ ≤ n * 2 ^ (f + 1074).toNat * 2 ^ quotientShift m e n f :=
      Nat.mul_le_mul_right _ (units_le he hf h)
    _ = 2 ^ (-quotientExponent m e n f).toNat * n * 2 ^ (e + 1074).toNat := by
      rw [Nat.mul_assoc, ← pow_add, hshift, pow_add, ← Nat.mul_assoc, Nat.mul_comm n]

/-- A quotient of at most one is rounded to at most one. -/
theorem place_div_le (he : target m e = e) (hf : target n f = f)
    (h : place (.finite .positive m e hm) ≤ place (.finite .positive n f hn)) :
    place (UnpackedFloat.div binary64 (.finite .positive m e hm) (.finite .positive n f hn)) ≤
      place (1.0 : Float).toModel.unpack := by
  rw [div_finite .positive .positive hm hn, ← roundWithAccuracy_one (quotientExponent_le he hf h)]
  exact roundWithAccuracy_le (weight_quotient_le (shifted_le he hf h))
    (quotientExponent_le_target hm hn e f)

end

variable {x y : Float}

theorem div_spec {u v : UnpackedFloat} (hu : Nonnegative u) (hv : Nonnegative v)
    (hfinite : u.isFinite = true) (h : place u ≤ place v)
    (hpos : place (.zero .positive) < place v) :
    UnpackedFloat.div binary64 u v ≠ .notANumber ∧
      place (.zero .positive) ≤ place (UnpackedFloat.div binary64 u v) ∧
      place (UnpackedFloat.div binary64 u v) ≤ place (1.0 : Float).toModel.unpack := by
  have hone : place (.zero .positive) ≤ place (1.0 : Float).toModel.unpack :=
    kind_le (by decide) _ _
  cases hv with
  | zero t => exact absurd hpos (lt_irrefl _)
  | infinity =>
    -- anything finite over infinity is zero
    cases hu with
    | infinity => cases hfinite
    | zero s | finite hm he hroom => exact ⟨UnpackedFloat.noConfusion, le_rfl, hone⟩
  | finite hn hf hroom =>
    cases hu with
    | infinity => cases hfinite
    | zero s => exact ⟨UnpackedFloat.noConfusion, le_rfl, hone⟩
    | finite hm he hroom =>
      have hnumber := roundWithAccuracy_ne_notANumber
      refine ⟨hnumber _ _ _ _, ?_, place_div_le he hf h⟩
      rw [div_finite .positive .positive hm hn, ← height_eq_place (hnumber _ _ _ _)]
      exact zero_le_height (positive_roundWithAccuracy _ _ _)

/-- The quotient of a number by one that is no less. -/
theorem within_div (hx : 0.0 ≤ x) (hfinite : x.isFinite = true) (h : x ≤ y) (hy : 0.0 < y) :
    Within 0.0 1.0 (x / y) := by
  obtain ⟨hnumber, hlow, hhigh⟩ := div_spec (nonnegative_unpack hx)
    (nonnegative_unpack (le_of_lt hy)) hfinite (le_iff.mp h).2.2 (lt_iff.mp hy).2.2
  have hquotient : IsNumber (x / y) := by
    rw [isNumber_iff, unpack_div]
    exact capped_ne_notANumber hnumber
  rw [← height_eq_place hnumber] at hlow hhigh
  have hcapped : height (capped (UnpackedFloat.div binary64 x.toModel.unpack y.toModel.unpack)) ≤
      height (capped (1.0 : Float).toModel.unpack) := height_capped_mono hlow hhigh
  rw [height_eq_place (capped_ne_notANumber hnumber), ← unpack_div] at hcapped
  refine ⟨le_iff.mpr ⟨isNumber_zero, hquotient, ?_⟩, le_iff.mpr ⟨hquotient, isNumber_one, hcapped⟩⟩
  rw [height_eq_place hnumber] at hlow
  rw [rank, rank, unpack_div]
  exact hlow.trans (le_capped hlow)

end Double

namespace Confidence

open Double

variable {xs : List Float}

/-- The mean of numbers in the unit interval lies there, whatever their number. -/
theorem within_average (h : ∀ x ∈ xs, Within 0.0 1.0 x) : Within 0.0 1.0 (average xs) := by
  by_cases hnil : xs = []
  · subst hnil
    exact ⟨le_refl isNumber_zero, zero_le_one⟩
  · obtain ⟨hlow, hhigh⟩ := total_within h
    have hcount : min xs.length (2 ^ 53) ≤ Decimal.word64 :=
      (Nat.min_le_right _ _).trans (by decide)
    have hone : (0.0 : Float) < ofNat 1 := by decide
    have hpos : 0.0 < ofNat xs.length :=
      lt_of_lt_of_le hone (ofNat_mono (List.length_pos_iff.mpr hnil))
    rw [average_of_ne_nil hnil]
    exact within_div hlow (isFinite_of_le hlow hhigh (isFinite_ofNat hcount))
      (le_trans hhigh (ofNat_mono (Nat.min_le_left _ _))) hpos

end Confidence
end Motif
