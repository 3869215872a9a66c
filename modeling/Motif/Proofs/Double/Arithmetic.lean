import Mathlib
import Motif.Proofs.Double.Rounding

/-!
Sums and products of doubles that are not negative.  A sum is at least each of its terms, and a
product is not negative unless it is no number.  Packing a number that is in canonical form leaves
it as it is, or makes it infinite when its exponent is too large.
-/

namespace Motif
namespace Double

open Float.Model Float.Model.UnpackedFloat Float.Model.Format

/-! ## Packing -/

/-- A number whose exponent has no room becomes infinite. -/
def capped : UnpackedFloat → UnpackedFloat
  | .finite s m e h => if 972 ≤ e then .infinity s else .finite s m e h
  | u => u

theorem unpack_infinite (s : Sign) :
    UnpackedFloat.unpack binary64 (packedInfinity binary64 s) = .infinity s := by
  rw [UnpackedFloat.unpack, packedInfinity]
  simp only [unpackExponent_packComponents, unpackMantissa_packComponents,
    unpackSign_packComponents, Sign.ofBitVec_toBitVec]
  rfl

theorem toNat_ofNat_mantissa {m : ℕ} (hm : 2 ^ 52 ≤ m) (hm' : m < 2 ^ 53) :
    (1#1 ++ BitVec.ofNat 52 m).toNat = m := by
  have hlow : m % 2 ^ 52 < 2 ^ 52 := Nat.mod_lt m (Nat.two_pow_pos 52)
  rw [BitVec.toNat_append, BitVec.toNat_ofNat, BitVec.toNat_ofNat,
    ← Nat.shiftLeft_add_eq_or_of_lt hlow]
  show 1 <<< 52 + m % 2 ^ 52 = m
  omega

theorem unpack_normal (s : Sign) {m b : ℕ} (hm : 2 ^ 52 ≤ m) (hm' : m < 2 ^ 53) (hb : 0 < b)
    (hb' : b < 2047) :
    UnpackedFloat.unpack binary64
        (packComponents binary64 s (BitVec.ofNat _ b) (BitVec.ofNat _ m)) =
      .finite s m (b - 1075) (by omega) := by
  have hexponent : (BitVec.ofNat 11 b).toNat = b := by
    rw [BitVec.toNat_ofNat, Nat.mod_eq_of_lt (by omega)]
  have hones : BitVec.ofNat 11 b ≠ -1#_ := by
    intro h
    have hb : b = 2047 := hexponent.symm.trans (congrArg BitVec.toNat h)
    omega
  have hzero : BitVec.ofNat 11 b ≠ 0#_ := by
    intro h
    have hb : b = 0 := hexponent.symm.trans (congrArg BitVec.toNat h)
    omega
  rw [UnpackedFloat.unpack]
  simp only [unpackExponent_packComponents, unpackMantissa_packComponents,
    unpackSign_packComponents, Sign.ofBitVec_toBitVec]
  rw [if_neg hones, if_neg hzero]
  simp only [toNat_ofNat_mantissa hm hm', hexponent]
  rfl

theorem unpack_subnormal (s : Sign) {m : ℕ} (hm : 0 < m) (hm' : m < 2 ^ 52) :
    UnpackedFloat.unpack binary64 (packComponents binary64 s 0#_ (BitVec.ofNat _ m)) =
      .finite s m (-1074) hm := by
  have hmantissa : (BitVec.ofNat 52 m).toNat = m := by
    rw [BitVec.toNat_ofNat, Nat.mod_eq_of_lt hm']
  have hzero : BitVec.ofNat 52 m ≠ 0#_ := by
    intro h
    have hm : m = 0 := hmantissa.symm.trans (congrArg BitVec.toNat h)
    omega
  rw [UnpackedFloat.unpack]
  simp only [unpackExponent_packComponents, unpackMantissa_packComponents,
    unpackSign_packComponents, Sign.ofBitVec_toBitVec]
  rw [if_neg (by decide), if_pos trivial, dif_neg hzero]
  simp only [hmantissa]
  rfl

theorem unpack_pack {u : UnpackedFloat} (h : Canonical u) :
    UnpackedFloat.unpack binary64 (UnpackedFloat.pack binary64 u) = capped u := by
  cases u with
  | notANumber => exact unpack_packedNaN
  | zero s => exact unpack_packedZero
  | infinity s => exact unpack_infinite s
  | finite s m e hm =>
    have htarget : target m e = e := h
    have hlow := Nat.log2_self_le hm.ne'
    have hhigh : m < 2 ^ (m.log2 + 1) := Nat.lt_log2_self
    rw [target_eq] at htarget
    have hread : UnpackedFloat.pack binary64 (.finite s m e hm) =
        if 2 ^ 11 ≤ (e + 1023 + 52).toNat + 1 then packedInfinity binary64 s
        else if m.log2 + 1 = 53 then
          packComponents binary64 s (BitVec.ofNat _ (e + 1023 + 52).toNat) (BitVec.ofNat _ m)
        else packComponents binary64 s 0#_ (BitVec.ofNat _ m) := rfl
    rw [hread, capped]
    by_cases hlarge : 972 ≤ e
    · rw [if_pos hlarge, if_pos (by omega)]
      exact unpack_infinite s
    · rw [if_neg hlarge, if_neg (by omega)]
      by_cases hnormal : m.log2 + 1 = 53
      · have hlog : m.log2 = 52 := by omega
        rw [hlog] at hlow hhigh
        rw [if_pos hnormal, unpack_normal s hlow hhigh (by omega) (by omega)]
        congr 1
        omega
      · have hsmall : m < 2 ^ 52 := (Nat.log2_lt hm.ne').mp (by omega)
        rw [if_neg hnormal, unpack_subnormal s hm hsmall]
        congr 1
        omega

/-- What is unpacked is in canonical form, and its exponent has room. -/
theorem unpack_eq_finite {b : BitVec binary64.numBits} {s : Sign} {m : ℕ} {e : ℤ} {hm : 0 < m}
    (h : UnpackedFloat.unpack binary64 b = .finite s m e hm) : target m e = e ∧ e < 972 := by
  have hexponent : (unpackExponent b : BitVec 11).toNat < 2 ^ 11 := BitVec.isLt _
  have hmantissa : (unpackMantissa b : BitVec 52).toNat < 2 ^ 52 := BitVec.isLt _
  rw [UnpackedFloat.unpack] at h
  simp only at h
  split at h
  · split at h <;> cases h
  · next hones =>
    split at h
    · next hzero =>
      split at h
      · cases h
      · next hpos =>
        injection h with _ hmeq heeq
        rw [hzero] at heeq
        have he : e = -1074 := heeq.symm
        have hlog : m.log2 < 52 := (Nat.log2_lt hm.ne').mpr (hmeq ▸ hmantissa)
        rw [target_eq]
        omega
    · next hzero =>
      injection h with _ hmeq heeq
      have hlarge : (unpackExponent b : BitVec 11).toNat ≠ 2047 := fun heq =>
        hones (BitVec.eq_of_toNat_eq heq)
      have hsmall : (unpackExponent b : BitVec 11).toNat ≠ 0 := fun heq =>
        hzero (BitVec.eq_of_toNat_eq heq)
      have he : ((unpackExponent b : BitVec 11).toNat : ℤ) - 1075 = e := heeq
      have hone : m = 1 <<< 52 + (unpackMantissa b : BitVec 52).toNat := by
        rw [← hmeq, BitVec.toNat_append, Nat.shiftLeft_add_eq_or_of_lt hmantissa]
        rfl
      have hlog : m.log2 = 52 := (Nat.log2_eq_iff hm.ne').mpr ⟨by omega, by omega⟩
      rw [target_eq]
      omega

/-! ## Numbers that are not negative -/

variable {x y z : Float}

theorem negative_lt_zero (m : ℕ) (e : ℤ) :
    toLex ((-1 : ℤ), toLex (-e, -(m : ℤ))) < toLex (0, toLex (0, 0)) :=
  Prod.Lex.toLex_lt_toLex.mpr (Or.inl (by decide : (-1 : ℤ) < 0))

/-- What a number that is not negative can be. -/
inductive Nonnegative : UnpackedFloat → Prop
  | zero (s : Sign) : Nonnegative (.zero s)
  | infinity : Nonnegative (.infinity .positive)
  | finite {m : ℕ} {e : ℤ} (hm : 0 < m) (he : target m e = e) (hroom : e < 972) :
    Nonnegative (.finite .positive m e hm)

theorem nonnegative_unpack (h : 0.0 ≤ x) : Nonnegative x.toModel.unpack := by
  obtain ⟨-, hnumber, hle⟩ := le_iff.mp h
  have hzero : rank 0.0 = toLex (0, toLex (0, 0)) := rfl
  rw [hzero, rank] at hle
  rw [isNumber_iff] at hnumber
  cases hx : x.toModel.unpack with
  | notANumber => exact absurd hx hnumber
  | zero s => exact .zero s
  | infinity s =>
    cases s with
    | positive => exact .infinity
    | negative =>
      rw [hx] at hle
      exact absurd hle (by decide)
  | finite s m e hm =>
    cases s with
    | positive =>
      obtain ⟨he, hroom⟩ := unpack_eq_finite hx
      exact .finite hm he hroom
    | negative =>
      rw [hx] at hle
      exact absurd hle (not_le.mpr (negative_lt_zero m e))

theorem Nonnegative.place_nonneg {u : UnpackedFloat} (h : Nonnegative u) :
    place (.zero .positive) ≤ place u := by
  cases h with
  | zero s => exact le_rfl
  | infinity => exact kind_le (by decide) _ _
  | finite hm he hroom => exact kind_le (by decide) _ _

theorem le_capped {u : UnpackedFloat} (h : place (.zero .positive) ≤ place u) :
    place u ≤ place (capped u) := by
  cases u with
  | finite s m e hm =>
    rw [capped]
    split
    · cases s with
      | positive => exact kind_le (by decide) _ _
      | negative =>
        exact absurd h (not_le.mpr (negative_lt_zero m e))
    · exact le_rfl
  | _ => exact le_rfl

theorem capped_ne_notANumber {u : UnpackedFloat} (h : u ≠ .notANumber) :
    capped u ≠ .notANumber := by
  cases u with
  | finite s m e hm =>
    rw [capped]
    split <;> exact UnpackedFloat.noConfusion
  | _ => exact h

/-! ## Sums -/

theorem roundWithAccuracy_ne_notANumber (s : Sign) (m : ℕ) (e : ℤ) (a : Accuracy) :
    roundWithAccuracy binary64 s m e a ≠ .notANumber := by
  have hread : ∃ r t, roundWithAccuracy binary64 s m e a = kept s r t := ⟨_, _, rfl⟩
  obtain ⟨r, t, h⟩ := hread
  rw [h, kept]
  split <;> exact UnpackedFloat.noConfusion

theorem round_ne_notANumber (s : Sign) (m : ℕ) (e : ℤ) :
    round binary64 s m e ≠ .notANumber :=
  roundWithAccuracy_ne_notANumber s _ _ _

theorem add_finite {m n : ℕ} {e f : ℤ} (hm : 0 < m) (hn : 0 < n) :
    UnpackedFloat.add binary64 (.finite .positive m e hm) (.finite .positive n f hn) =
      round binary64 .positive
        (m * 2 ^ (e - min e f).toNat + n * 2 ^ (f - min e f).toNat) (min e f) := by
  have hpos : 0 < m * 2 ^ (e - min e f).toNat := Nat.mul_pos hm (Nat.two_pow_pos _)
  have hread : UnpackedFloat.add binary64 (.finite .positive m e hm) (.finite .positive n f hn) =
      UnpackedFloat.normalize binary64
        ((m <<< (e - min e f).toNat : ℕ) + (n <<< (f - min e f).toNat : ℕ) : ℤ) (min e f)
        .positive := rfl
  have hgt : compare ((m * 2 ^ (e - min e f).toNat : ℕ) + (n * 2 ^ (f - min e f).toNat : ℕ) : ℤ) 0 =
      .gt := by
    rw [compare_gt_iff_gt]
    omega
  rw [hread, Nat.shiftLeft_eq, Nat.shiftLeft_eq, UnpackedFloat.normalize, hgt]
  simp only
  congr 1

theorem add_spec {u v : UnpackedFloat} (hu : Nonnegative u) (hv : Nonnegative v) :
    Canonical (UnpackedFloat.add binary64 u v) ∧
      UnpackedFloat.add binary64 u v ≠ .notANumber ∧
      place u ≤ place (UnpackedFloat.add binary64 u v) := by
  cases hu with
  | zero s =>
    cases hv with
    | zero t => cases s <;> cases t <;> exact ⟨trivial, UnpackedFloat.noConfusion, le_rfl⟩
    | infinity => exact ⟨trivial, UnpackedFloat.noConfusion, Nonnegative.infinity.place_nonneg⟩
    | finite hn hf hroom =>
      exact ⟨hf, UnpackedFloat.noConfusion, (Nonnegative.finite hn hf hroom).place_nonneg⟩
  | infinity =>
    cases hv with
    | zero t => exact ⟨trivial, UnpackedFloat.noConfusion, le_rfl⟩
    | infinity => exact ⟨trivial, UnpackedFloat.noConfusion, le_rfl⟩
    | finite hn hf hroom => exact ⟨trivial, UnpackedFloat.noConfusion, le_rfl⟩
  | @finite m e hm he hroom =>
    cases hv with
    | zero t => exact ⟨he, UnpackedFloat.noConfusion, le_rfl⟩
    | infinity =>
      exact ⟨trivial, UnpackedFloat.noConfusion, kind_le (by decide) _ _⟩
    | @finite n f hn hf hroom' =>
      have hpos : m * 2 ^ (e - min e f).toNat ≠ 0 := Nat.mul_ne_zero hm.ne' (Nat.two_pow_pos _).ne'
      rw [add_finite hm hn]
      refine ⟨canonical_round _ (by omega) _, round_ne_notANumber _ _ _, ?_⟩
      -- the first term, written with the exponent of the sum
      have hsame : round binary64 .positive (m * 2 ^ (e - min e f).toNat) (min e f) =
          .finite .positive m e hm := by
        rw [← round_canonical .positive hm he, ← round_mul .positive hm.ne' e (e - min e f).toNat]
        congr 1
        omega
      rw [← hsame]
      exact round_mono hpos (Nat.le_add_right _ _) _

/-- Adding what is not negative never makes less. -/
theorem le_add (hx : 0.0 ≤ x) (hy : 0.0 ≤ y) : x ≤ x + y := by
  have hu := nonnegative_unpack hx
  obtain ⟨hcanonical, hnumber, hle⟩ := add_spec hu (nonnegative_unpack hy)
  have hsum : (x + y).toModel.unpack =
      capped (UnpackedFloat.add binary64 x.toModel.unpack y.toModel.unpack) :=
    unpack_pack hcanonical
  refine le_iff.mpr ⟨isNumber_right hx, ?_, ?_⟩
  · rw [isNumber_iff, hsum]
    exact capped_ne_notANumber hnumber
  · rw [rank, rank, hsum]
    exact hle.trans (le_capped (hu.place_nonneg.trans hle))

/-! ## Signs -/

/-- Of positive sign, or no number. -/
def Positive : UnpackedFloat → Prop
  | .infinity s | .zero s | .finite s _ _ _ => s = .positive
  | .notANumber => True

theorem positive_roundWithAccuracy (m : ℕ) (e : ℤ) (a : Accuracy) :
    Positive (roundWithAccuracy binary64 .positive m e a) := by
  have hread : ∃ r t, roundWithAccuracy binary64 .positive m e a = kept .positive r t :=
    ⟨_, _, rfl⟩
  obtain ⟨r, t, h⟩ := hread
  rw [h, kept]
  split <;> rfl

theorem positive_normalize (n : ℕ) (e : ℤ) :
    Positive (UnpackedFloat.normalize binary64 n e .positive) := by
  have hnot : compare (n : ℤ) 0 ≠ .lt := by
    rw [Ne, compare_lt_iff_lt]
    omega
  rw [UnpackedFloat.normalize]
  split
  · contradiction
  · rfl
  · exact positive_roundWithAccuracy _ _ _

theorem positive_mul {u v : UnpackedFloat} (hu : Positive u) (hv : Positive v) :
    Positive (UnpackedFloat.mul binary64 u v) := by
  cases u <;> cases v <;> cases hu <;> cases hv <;>
    first | trivial | exact positive_roundWithAccuracy _ _ _

theorem positive_div {u v : UnpackedFloat} (hu : Positive u) (hv : Positive v) :
    Positive (UnpackedFloat.div binary64 u v) := by
  cases u <;> cases v <;> cases hu <;> cases hv <;>
    first | trivial | exact positive_roundWithAccuracy _ _ _

theorem positive_unpack_packComponents (e : BitVec 11) (m : BitVec 52) :
    Positive (UnpackedFloat.unpack binary64 (packComponents binary64 .positive e m)) := by
  rw [UnpackedFloat.unpack]
  simp only [unpackSign_packComponents, Sign.ofBitVec_toBitVec]
  split
  · split <;> trivial
  · split
    · split <;> rfl
    · rfl

theorem positive_unpack_pack {u : UnpackedFloat} (h : Positive u) :
    Positive (UnpackedFloat.unpack binary64 (UnpackedFloat.pack binary64 u)) := by
  cases u with
  | notANumber => exact positive_unpack_packComponents _ _
  | infinity s =>
    cases h
    exact positive_unpack_packComponents _ _
  | zero s =>
    cases h
    exact positive_unpack_packComponents _ _
  | finite s m e hm =>
    cases h
    rw [UnpackedFloat.pack]
    simp only
    split
    · exact positive_unpack_packComponents _ _
    · split <;> exact positive_unpack_packComponents _ _

theorem positive_finite {m : ℕ} {e : ℤ} (hm : 0 < m) : Positive (.finite .positive m e hm) := rfl

theorem positive_ofScientific (m : ℕ) (e : ℤ) :
    Positive (UnpackedFloat.ofScientific binary64 m e) := by
  rw [UnpackedFloat.ofScientific]
  split
  · rfl
  · split
    · rfl
    · split
      · rfl
      · split
        · exact positive_mul (positive_finite _) (positive_finite _)
        · exact positive_div (positive_finite _) (positive_finite _)

theorem positive_ofNat (n : ℕ) : Positive (Confidence.ofNat n).toModel.unpack := by
  have hread : Confidence.ofNat n = Float.ofScientific n false 0 := rfl
  rw [hread, Float.ofScientific]
  split
  · refine positive_unpack_pack (positive_mul ?_ ?_)
    · exact positive_unpack_pack (positive_normalize _ _)
    · exact positive_unpack_pack (positive_unpack_packComponents 1023 0)
  · exact positive_unpack_pack (positive_ofScientific n _)

theorem positive_ratio (k n : ℕ) : Positive (Confidence.ratio k n).toModel.unpack :=
  positive_unpack_pack (positive_div (positive_ofNat k) (positive_ofNat n))

/-! ## Products -/

theorem zero_le_of_positive (hx : IsNumber x) (h : Positive x.toModel.unpack) : 0.0 ≤ x := by
  refine le_iff.mpr ⟨isNumber_zero, hx, ?_⟩
  show place (.zero .positive) ≤ place x.toModel.unpack
  cases hu : x.toModel.unpack with
  | notANumber => exact le_rfl
  | zero s => exact le_rfl
  | infinity s =>
    rw [hu] at h
    cases h
    exact kind_le (by decide) _ _
  | finite s m e hm =>
    rw [hu] at h
    cases h
    exact kind_le (by decide) _ _

theorem zero_le_mul (hx : 0.0 ≤ x) (hy : Positive y.toModel.unpack) (h : IsNumber (x * y)) :
    0.0 ≤ x * y := by
  have hproduct : Positive x.toModel.unpack → 0.0 ≤ x * y := fun hpositive =>
    zero_le_of_positive h (positive_unpack_pack (positive_mul hpositive hy))
  have hu := nonnegative_unpack hx
  generalize hread : x.toModel.unpack = u at hu hproduct
  cases hu with
  | infinity => exact hproduct rfl
  | finite hm he hroom => exact hproduct rfl
  | zero s =>
    cases s with
    | positive => exact hproduct rfl
    | negative =>
      -- a product with zero is zero or no number, whatever the signs
      have hzero : UnpackedFloat.mul binary64 (.zero .negative) y.toModel.unpack = .notANumber ∨
          ∃ s, UnpackedFloat.mul binary64 (.zero .negative) y.toModel.unpack = .zero s := by
        cases y.toModel.unpack with
        | notANumber => exact Or.inl rfl
        | infinity t => exact Or.inl rfl
        | zero t => exact Or.inr ⟨_, rfl⟩
        | finite t m e hm => exact Or.inr ⟨_, rfl⟩
      have hmul : (x * y).toModel.unpack = UnpackedFloat.unpack binary64
          (UnpackedFloat.pack binary64
            (UnpackedFloat.mul binary64 (.zero .negative) y.toModel.unpack)) := by
        rw [← hread]
        rfl
      refine le_iff.mpr ⟨isNumber_zero, h, ?_⟩
      rcases hzero with hzero | ⟨s, hzero⟩
      · rw [isNumber_iff, hmul, hzero, unpack_pack (u := .notANumber) trivial] at h
        exact absurd rfl h
      · rw [rank, rank, hmul, hzero, unpack_pack (u := .zero s) trivial]
        exact le_rfl

end Double

theorem Confidence.le_raised {x : Float} (hx : 0.0 ≤ x) (delta : Float) : x ≤ raised x delta :=
  Double.le_add hx (le_greatest_right Double.isNumber_zero)

end Motif
