import Motif.Decimal.Numeral
import Motif.Proofs.Double.Scaling

/-!
Quotients.  A quotient is brought to a mantissa that is long enough to be rounded, so it is in
canonical form.  The quotient of two counts of machine size is a number, and so is its product with
a confidence.
-/

namespace Motif
namespace Double

open Float.Model Float.Model.UnpackedFloat Float.Model.UnpackedFloat.ExtendedMantissa
  Float.Model.Format

/-! ## Quotients in canonical form -/

/-- The exponent at which a quotient is taken. -/
def quotientExponent (m : ℕ) (e : ℤ) (n : ℕ) (f : ℤ) : ℤ :=
  min (e - f) (max ((m.log2 + e) - (n.log2 + f) - 53) (-1074))

/-- How far the dividend is shifted. -/
def quotientShift (m : ℕ) (e : ℤ) (n : ℕ) (f : ℤ) : ℕ := (e - f - quotientExponent m e n f).toNat

theorem div_finite (s t : Sign) {m n : ℕ} {e f : ℤ} (hm : 0 < m) (hn : 0 < n) :
    UnpackedFloat.div binary64 (.finite s m e hm) (.finite t n f hn) =
      roundWithAccuracy binary64 (s / t) (m * 2 ^ quotientShift m e n f / n)
        (quotientExponent m e n f)
        (accuracyOfFraction (m * 2 ^ quotientShift m e n f % n) n) := by
  have hbits : (binary64.mantissaBits : ℤ) = 53 := by decide
  have hmin : binary64.minExponent = -1074 := by decide
  have htarget : min (e - f) (binary64.targetExponent (totalExponent m e - totalExponent n f)) =
      quotientExponent m e n f := by
    rw [targetExponent, totalExponent, totalExponent, hbits, hmin, quotientExponent]
    omega
  rw [UnpackedFloat.div, divCore]
  simp only [htarget, Nat.shiftLeft_eq]
  rfl

/-- The quotient has a bit more than a mantissa has, unless its exponent is the least. -/
theorem quotientExponent_le_target {m n : ℕ} (hm : 0 < m) (hn : 0 < n) (e f : ℤ) :
    quotientExponent m e n f ≤
      target (m * 2 ^ quotientShift m e n f / n) (quotientExponent m e n f) := by
  by_cases hleast : quotientExponent m e n f ≤ -1074
  · exact hleast.trans (le_target _ _)
  have hlow : n.log2 + 53 ≤ m.log2 + quotientShift m e n f := by
    rw [quotientShift]
    rw [quotientExponent] at hleast ⊢
    omega
  have hquotient : 2 ^ 52 ≤ m * 2 ^ quotientShift m e n f / n := by
    rw [Nat.le_div_iff_mul_le hn]
    calc 2 ^ 52 * n ≤ 2 ^ 52 * 2 ^ (n.log2 + 1) := Nat.mul_le_mul_left _ Nat.lt_log2_self.le
      _ = 2 ^ (n.log2 + 53) := by rw [← pow_add]; congr 1; omega
      _ ≤ 2 ^ (m.log2 + quotientShift m e n f) := Nat.pow_le_pow_right Nat.two_pos hlow
      _ ≤ m * 2 ^ quotientShift m e n f := by
        rw [pow_add]
        exact Nat.mul_le_mul_right _ (Nat.log2_self_le hm.ne')
  have hlog : 52 ≤ (m * 2 ^ quotientShift m e n f / n).log2 :=
    (Nat.le_log2 (by omega)).mpr hquotient
  rw [target_eq]
  omega

theorem canonical_div (u v : UnpackedFloat) : Canonical (UnpackedFloat.div binary64 u v) := by
  cases u with
  | finite s m e hm =>
    cases v with
    | finite t n f hn =>
      rw [div_finite s t hm hn]
      exact canonical_roundWithAccuracy _ (quotientExponent_le_target hm hn e f) _
    | _ => trivial
  | _ => cases v <;> trivial

theorem unpack_div (x y : Float) : (x / y).toModel.unpack =
    capped (UnpackedFloat.div binary64 x.toModel.unpack y.toModel.unpack) :=
  unpack_pack (canonical_div _ _)

/-! ## Counts -/

/-- A natural number of at most 53 bits is kept without rounding. -/
theorem round_ofNat {n : ℕ} (hn : 0 < n) (h : n < 2 ^ 53) :
    round binary64 .positive n 0 = .finite .positive (n * 2 ^ (52 - n.log2)) (-(52 - n.log2 : ℕ))
      (Nat.mul_pos hn (Nat.two_pow_pos _)) := by
  have hlog : n.log2 < 53 := (Nat.log2_lt hn.ne').mpr h
  have htarget : target (n * 2 ^ (52 - n.log2)) (-(52 - n.log2 : ℕ)) = -(52 - n.log2 : ℕ) := by
    rw [target_eq, log2_mul_two_pow hn.ne']
    omega
  rw [← round_mul .positive hn.ne' 0 (52 - n.log2), Int.zero_sub]
  exact round_canonical .positive _ htarget

theorem unpack_toFloat {n : ℕ} (hn : 0 < n) (h : n < 2 ^ 53) :
    n.toUInt64.toFloat.toModel.unpack =
      .finite .positive (n * 2 ^ (52 - n.log2)) (-(52 - n.log2 : ℕ))
        (Nat.mul_pos hn (Nat.two_pow_pos _)) := by
  have hword : n.toUInt64.toNat = n := Nat.mod_eq_of_lt (h.trans (by decide))
  have hgt : compare (n : ℤ) 0 = .gt := by
    rw [compare_gt_iff_gt]
    omega
  have hread : n.toUInt64.toFloat.toModel.unpack = UnpackedFloat.unpack binary64
      (UnpackedFloat.pack binary64
        (UnpackedFloat.normalize binary64 n.toUInt64.toNat 0 .positive)) := rfl
  rw [hread, hword, UnpackedFloat.normalize, hgt]
  show UnpackedFloat.unpack binary64
    (UnpackedFloat.pack binary64 (round binary64 .positive n 0)) = _
  have hroom : ¬(972 : ℤ) ≤ -(52 - n.log2 : ℕ) := by omega
  rw [unpack_pack (canonical_round .positive hn.ne' 0), round_ofNat hn h, capped, if_neg hroom]

/-- Every natural number is rounded once. -/
theorem unpack_ofNat {n : ℕ} (hn : 0 < n) :
    (Confidence.ofNat n).toModel.unpack = capped (round binary64 .positive n 0) := by
  have hlow : (-52 : ℤ) ≤ target n 0 := by
    rw [target_eq]
    omega
  have hread : Confidence.ofNat n = Float.ofScientific n false 0 := rfl
  rw [hread, Float.ofScientific]
  split
  · next hsmall =>
    -- a product with one
    have hone : Float.exactlyRepresentablePowersOfTen[0].toModel.unpack =
        .finite .positive (2 ^ 52) (-52) (by decide) := rfl
    show (n.toUInt64.toFloat * Float.exactlyRepresentablePowersOfTen[0]).toModel.unpack = _
    rw [unpack_mul, unpack_toFloat hn hsmall.1, hone]
    show capped (roundWithAccuracy binary64 .positive (n * 2 ^ (52 - n.log2) * 2 ^ 52) _ .exact) = _
    rw [@round_eq .positive n hn.ne' 0 (52 - n.log2 + 52) (by omega), Nat.mul_assoc, ← pow_add]
    congr 2
    omega
  · have hmodel : Float.Model.UnpackedFloat.ofScientific binary64 n 0 =
        roundWithAccuracy binary64 .positive (n <<< 53 * 10 ^ 0) (-53 + 0) .exact := by
      have hfar : ¬(0 : ℤ) < -((2 : ℤ) ^ binary64.exponentBits + n.log2) := by
        have hpow : (2 : ℤ) ^ binary64.exponentBits = 2048 := by decide
        rw [hpow]
        omega
      rw [UnpackedFloat.ofScientific, dif_neg hn.ne', if_neg (by decide), if_neg hfar,
        if_pos (by decide)]
      rfl
    show UnpackedFloat.unpack binary64
      (UnpackedFloat.pack binary64 (UnpackedFloat.ofScientific binary64 n 0)) = _
    have hround := @round_eq .positive n hn.ne' 0 53 (by omega)
    rw [hmodel, Nat.shiftLeft_eq, pow_zero, Nat.mul_one, Int.add_zero]
    exact hround ▸ unpack_pack (canonical_round .positive hn.ne' 0)

theorem exists_carried_eq {r : ℕ} (hr : 2 ^ 52 ≤ r) (t : ℤ) :
    ∃ (m : ℕ) (e : ℤ) (hm : 0 < m), carried .positive r t = .finite .positive m e hm ∧
      t ≤ e ∧ e ≤ t + 1 := by
  rw [carried]
  split
  · exact ⟨2 ^ 52, t + 1, by decide, by rw [kept, dif_neg (by decide)], by omega, le_rfl⟩
  · exact ⟨r, t, by omega, by rw [kept, dif_neg (by omega)], le_rfl, by omega⟩

/-- A count of machine size is not rounded to zero or to infinity. -/
theorem exists_unpack_ofNat {n : ℕ} (hn : 0 < n) (h : n ≤ Decimal.word64) :
    ∃ (m : ℕ) (e : ℤ) (hm : 0 < m), (Confidence.ofNat n).toModel.unpack = .finite .positive m e hm ∧
      -52 ≤ e ∧ e ≤ 12 := by
  have hlog : n.log2 < 64 := (Nat.log2_lt hn.ne').mpr (Nat.lt_of_le_of_lt h (by decide))
  have htarget : target (n * 2 ^ 52) (0 - 52) = n.log2 - 52 := by
    have hsame : target (n * 2 ^ 52) (0 - 52) = target n 0 := target_mul hn.ne' 0 52
    rw [hsame, target_eq]
    omega
  have hlow : (0 - 52 : ℤ) ≤ target (n * 2 ^ 52) (0 - 52) := by omega
  have hlarge := @le_roundedMantissa_shift (whole (n * 2 ^ 52)) (0 - 52)
    (by show -1074 < target (n * 2 ^ 52) _; omega) hlow
  obtain ⟨m, e, hm, hcarried, hmin, hmax⟩ := exists_carried_eq hlarge (n.log2 - 52)
  have hround : round binary64 .positive n 0 = .finite .positive m e hm := by
    rw [@round_eq .positive n hn.ne' 0 52 (by rw [target_eq]; omega), ← hcarried, ← htarget]
    exact roundWithAccuracy_eq _ hlow _
  refine ⟨m, e, hm, ?_, by omega, by omega⟩
  rw [unpack_ofNat hn, hround, capped, if_neg (by omega)]

/-! ## Shares of a whole -/

/-- The share of one count in another is not rounded to zero or to infinity. -/
theorem exists_unpack_ratio {k n : ℕ} (hk : 0 < k) (hk' : k ≤ Decimal.word64) (hn : 0 < n)
    (hn' : n ≤ Decimal.word64) :
    ∃ (m : ℕ) (e : ℤ) (hm : 0 < m),
      (Confidence.ratio k n).toModel.unpack = .finite .positive m e hm := by
  obtain ⟨m, e, hm, hx, hemin, hemax⟩ := exists_unpack_ofNat hk hk'
  obtain ⟨m', f, hm', hy, hfmin, hfmax⟩ := exists_unpack_ofNat hn hn'
  have hcanonical : target m e = e := (unpack_eq_finite hx).1
  have hcanonical' : target m' f = f := (unpack_eq_finite hy).1
  rw [target_eq] at hcanonical hcanonical'
  -- both mantissas are full, so the quotient is taken with one bit to spare
  have hexponent : quotientExponent m e m' f = e - f - 53 := by
    rw [quotientExponent]
    omega
  have hshift : quotientShift m e m' f = 53 := by
    rw [quotientShift, hexponent]
    omega
  have hle := quotientExponent_le_target hm hm' e f
  have htarget := target_eq (m * 2 ^ quotientShift m e m' f / m') (quotientExponent m e m' f)
  have hlarge := @le_roundedMantissa_shift (ofMantissaAndAccuracy
    (m * 2 ^ quotientShift m e m' f / m')
    (accuracyOfFraction (m * 2 ^ quotientShift m e m' f % m') m')) (quotientExponent m e m' f)
    (by rw [mantissa_ofMantissaAndAccuracy]; omega)
    (by rw [mantissa_ofMantissaAndAccuracy]; exact hle)
  rw [mantissa_ofMantissaAndAccuracy] at hlarge
  obtain ⟨r, t, hr, hcarried, -, ht⟩ := exists_carried_eq hlarge
    (target (m * 2 ^ quotientShift m e m' f / m') (quotientExponent m e m' f))
  have hlog : (m * 2 ^ quotientShift m e m' f / m').log2 ≤ 106 := by
    by_cases hzero : m * 2 ^ quotientShift m e m' f / m' = 0
    · rw [hzero, Nat.log2_zero]
      omega
    · refine ((Nat.log2_lt hzero).mpr ?_).le
      have hbits : m < 2 ^ 53 := (Nat.log2_lt hm.ne').mp (by omega)
      rw [hshift]
      calc m * 2 ^ 53 / m' ≤ m * 2 ^ 53 := Nat.div_le_self _ _
        _ < 2 ^ 53 * 2 ^ 53 := Nat.mul_lt_mul_of_pos_right hbits (Nat.two_pow_pos 53)
        _ = 2 ^ 106 := by rw [← pow_add]
  refine ⟨r, t, hr, ?_⟩
  rw [Confidence.ratio, unpack_div, hx, hy, div_finite .positive .positive hm hm']
  show capped (roundWithAccuracy binary64 .positive _ _ _) = _
  rw [roundWithAccuracy_eq _ hle, hcarried, capped, if_neg (by omega)]

theorem zero_lt_ratio {k n : ℕ} (hk : 0 < k) (hkn : k ≤ n) (hn : n ≤ Decimal.word64) :
    0.0 < Confidence.ratio k n := by
  obtain ⟨m, e, hm, hratio⟩ := exists_unpack_ratio hk (hkn.trans hn) (hk.trans_le hkn) hn
  have hnumber : IsNumber (Confidence.ratio k n) := by
    rw [isNumber_iff, hratio]
    exact UnpackedFloat.noConfusion
  refine lt_iff.mpr ⟨isNumber_zero, hnumber, ?_⟩
  rw [rank, rank, hratio]
  exact Prod.Lex.toLex_lt_toLex.mpr (Or.inl Int.zero_lt_one)

theorem mul_ne_notANumber {u : UnpackedFloat} (hu : Nonnegative u) {m : ℕ} (e : ℤ) (hm : 0 < m) :
    UnpackedFloat.mul binary64 u (.finite .positive m e hm) ≠ .notANumber := by
  cases hu with
  | zero s | infinity => exact UnpackedFloat.noConfusion
  | finite hn hf hroom => exact roundWithAccuracy_ne_notANumber _ _ _ _

/-- What is not negative times a share is a number, even when it is infinite. -/
theorem isNumber_mul_ratio {x : Float} (hx : 0.0 ≤ x) {k n : ℕ} (hk : 0 < k) (hkn : k ≤ n)
    (hn : n ≤ Decimal.word64) : IsNumber (x * Confidence.ratio k n) := by
  obtain ⟨m, e, hm, hratio⟩ := exists_unpack_ratio hk (hkn.trans hn) (hk.trans_le hkn) hn
  rw [isNumber_iff, unpack_mul, hratio]
  exact capped_ne_notANumber (mul_ne_notANumber (nonnegative_unpack hx) e hm)

end Double
end Motif
