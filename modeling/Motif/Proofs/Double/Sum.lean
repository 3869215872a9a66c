import Motif.Proofs.Double.Parts
import Motif.Proofs.Double.Quotient

/-!
Sums of doubles.  A sum is a number unless one of its terms is none or two opposite infinities meet.
Finite numbers that are not negative are counted in least units, and the sum of two of them is
rounded from the sum of their counts.  So sums keep the order, and counting in steps of one is exact
as far as the mantissa goes.
-/

namespace Motif
namespace Double

open Float.Model Float.Model.UnpackedFloat Float.Model.UnpackedFloat.ExtendedMantissa
  Float.Model.Format

variable {x y : Float}

/-! ## Sums of any sign -/

theorem canonical_normalize (n e : ℤ) (s : Sign) :
    Canonical (UnpackedFloat.normalize binary64 n e s) := by
  rw [UnpackedFloat.normalize]
  cases h : compare n 0 with
  | lt =>
    have hn := compare_lt_iff_lt.mp h
    exact canonical_round _ (by omega) _
  | eq => trivial
  | gt =>
    have hn := compare_gt_iff_gt.mp h
    exact canonical_round _ (by omega) _

theorem normalize_ne_notANumber (n e : ℤ) (s : Sign) :
    UnpackedFloat.normalize binary64 n e s ≠ .notANumber := by
  rw [UnpackedFloat.normalize]
  cases compare n 0 with
  | lt | gt => exact round_ne_notANumber _ _ _
  | eq => exact UnpackedFloat.noConfusion

theorem canonical_add {u v : UnpackedFloat} (hu : Canonical u) (hv : Canonical v) :
    Canonical (UnpackedFloat.add binary64 u v) := by
  cases u with
  | notANumber => trivial
  | infinity s =>
    cases v with
    | infinity t => cases s <;> cases t <;> trivial
    | _ => trivial
  | zero s =>
    cases v with
    | zero t => cases s <;> cases t <;> trivial
    | finite t n f hn => exact hv
    | _ => trivial
  | finite s m e hm =>
    cases v with
    | finite t n f hn => exact canonical_normalize _ _ _
    | zero t => exact hu
    | _ => trivial

theorem unpack_add (x y : Float) : (x + y).toModel.unpack =
    capped (UnpackedFloat.add binary64 x.toModel.unpack y.toModel.unpack) :=
  unpack_pack (canonical_add (canonical_unpack x) (canonical_unpack y))

theorem capped_eq_notANumber_iff {u : UnpackedFloat} : capped u = .notANumber ↔ u = .notANumber :=
  ⟨fun h => by_contra fun hu => capped_ne_notANumber hu h, fun h => by rw [h]; rfl⟩

/-- Infinities of opposite signs. -/
def Cancel (x y : Float) : Prop := x.isInf = true ∧ y = -x

theorem cancel_iff : Cancel x y ↔
    ∃ s, x.toModel.unpack = .infinity s ∧ y.toModel.unpack = .infinity (-s) := by
  have hinfinite : x.isInf = true ↔ ∃ s, x.toModel.unpack = .infinity s := by
    show x.toModel.unpack.isInf = true ↔ _
    cases x.toModel.unpack with
    | infinity s => exact iff_of_true rfl ⟨s, rfl⟩
    | notANumber | zero s | finite s m e hm =>
      exact iff_of_false Bool.false_ne_true fun ⟨_, h⟩ => UnpackedFloat.noConfusion h
  rw [Cancel, hinfinite]
  constructor
  · rintro ⟨⟨s, hs⟩, rfl⟩
    exact ⟨s, hs, by rw [unpack_neg, hs]; rfl⟩
  · rintro ⟨s, hs, hy⟩
    refine ⟨⟨s, hs⟩, eq_of_unpack_eq ?_⟩
    rw [unpack_neg, hs, hy]
    rfl

theorem add_eq_notANumber_iff {u v : UnpackedFloat} :
    UnpackedFloat.add binary64 u v = .notANumber ↔
      u = .notANumber ∨ v = .notANumber ∨ ∃ s, u = .infinity s ∧ v = .infinity (-s) := by
  cases u with
  | notANumber => exact iff_of_true rfl (.inl rfl)
  | infinity s =>
    cases v with
    | notANumber => exact iff_of_true rfl (.inr (.inl rfl))
    | infinity t => cases s <;> cases t <;> simp [UnpackedFloat.add] <;> rfl
    | zero t | finite t n f hn => simp [UnpackedFloat.add]
  | zero s =>
    cases v with
    | notANumber => exact iff_of_true rfl (.inr (.inl rfl))
    | zero t => cases s <;> cases t <;> simp [UnpackedFloat.add]
    | infinity t | finite t n f hn => simp [UnpackedFloat.add]
  | finite s m e hm =>
    cases v with
    | notANumber => exact iff_of_true rfl (.inr (.inl rfl))
    | finite t n f hn => exact iff_of_false (normalize_ne_notANumber _ _ _) (by simp)
    | infinity t | zero t => simp [UnpackedFloat.add]

theorem isNumber_add_iff : IsNumber (x + y) ↔ IsNumber x ∧ IsNumber y ∧ ¬Cancel x y := by
  rw [isNumber_iff, isNumber_iff, isNumber_iff, cancel_iff, unpack_add, ne_eq,
    capped_eq_notANumber_iff, add_eq_notANumber_iff, not_or, not_or]

/-! ## Least units -/

/-- How many of the least units, which are `2 ^ -1074`, make up a finite number. -/
def units : UnpackedFloat → ℕ
  | .finite _ m e _ => m * 2 ^ (e + 1074).toNat
  | _ => 0

theorem round_units {m : ℕ} {e : ℤ} (hm : 0 < m) (he : target m e = e) :
    round binary64 .positive (units (.finite .positive m e hm)) (-1074) =
      .finite .positive m e hm := by
  have hleast : -1074 ≤ e := he ▸ le_target m e
  have hexponent : e - (e + 1074).toNat = -1074 := by omega
  show round binary64 .positive (m * 2 ^ (e + 1074).toNat) (-1074) = _
  rw [← round_canonical .positive hm he, ← round_mul .positive hm.ne' e (e + 1074).toNat, hexponent]

theorem add_finite_units {m n : ℕ} {e f : ℤ} (hm : 0 < m) (hn : 0 < n) (he : -1074 ≤ e)
    (hf : -1074 ≤ f) :
    UnpackedFloat.add binary64 (.finite .positive m e hm) (.finite .positive n f hn) =
      round binary64 .positive
        (units (.finite .positive m e hm) + units (.finite .positive n f hn)) (-1074) := by
  have hpos : m * 2 ^ (e - min e f).toNat + n * 2 ^ (f - min e f).toNat ≠ 0 := by
    have hterm := Nat.mul_pos hm (Nat.two_pow_pos (e - min e f).toNat)
    omega
  have hleft : (e - min e f).toNat + (min e f + 1074).toNat = (e + 1074).toNat := by omega
  have hright : (f - min e f).toNat + (min e f + 1074).toNat = (f + 1074).toNat := by omega
  have hexponent : min e f - (min e f + 1074).toNat = -1074 := by omega
  rw [add_finite hm hn, ← round_mul .positive hpos (min e f) (min e f + 1074).toNat, Nat.add_mul,
    Nat.mul_assoc, Nat.mul_assoc, ← pow_add, ← pow_add, hleft, hright, hexponent, units, units]

theorem units_le {m n : ℕ} {e f : ℤ} {hm : 0 < m} {hn : 0 < n} (he : target m e = e)
    (hf : target n f = f)
    (h : place (.finite .positive m e hm) ≤ place (.finite .positive n f hn)) :
    units (.finite .positive m e hm) ≤ units (.finite .positive n f hn) := by
  by_contra hlt
  have hpos : units (.finite .positive n f hn) ≠ 0 := (Nat.mul_pos hn (Nat.two_pow_pos _)).ne'
  have hreverse := round_mono hpos (Nat.le_of_not_le hlt) (-1074)
  rw [round_units hm he, round_units hn hf, place_finite_le_iff] at hreverse
  rw [place_finite_le_iff] at h
  obtain ⟨rfl, rfl⟩ : e = f ∧ m = n := by omega
  exact hlt le_rfl

theorem units_mono {u v : UnpackedFloat} (hu : Nonnegative u) (hv : Nonnegative v)
    (hfinite : v.isFinite = true) (h : place u ≤ place v) : units u ≤ units v := by
  cases hu with
  | zero s => exact Nat.zero_le _
  | infinity =>
    cases hv with
    | infinity => cases hfinite
    | zero t | finite hn hf hroom => exact absurd h (not_kind_le (by decide) _ _)
  | finite hm he hroom =>
    cases hv with
    | infinity => cases hfinite
    | zero t => exact absurd h (not_kind_le (by decide) _ _)
    | finite hn hf hroom' => exact units_le he hf h

/-! ## Sums keep the order -/

theorem place_round_mono {a b : ℕ} (h : a ≤ b) :
    place (round binary64 .positive a (-1074)) ≤ place (round binary64 .positive b (-1074)) := by
  rcases Nat.eq_zero_or_pos a with rfl | ha
  · have hzero : round binary64 .positive 0 (-1074) = .zero .positive := rfl
    rw [hzero, ← height_eq_place (round_ne_notANumber .positive b (-1074))]
    exact zero_le_height (positive_roundWithAccuracy _ _ _)
  · exact round_mono ha.ne' h _

theorem place_add {u v : UnpackedFloat} (hu : Nonnegative u) (hv : Nonnegative v)
    (hu' : u.isFinite = true) (hv' : v.isFinite = true) :
    place (UnpackedFloat.add binary64 u v) =
      place (round binary64 .positive (units u + units v) (-1074)) := by
  cases hu with
  | infinity => cases hu'
  | zero s =>
    cases hv with
    | infinity => cases hv'
    | zero t => cases s <;> cases t <;> rfl
    | finite hn hf hroom =>
      show _ = place (round binary64 .positive (0 + _) (-1074))
      rw [Nat.zero_add, round_units hn hf]
      rfl
  | @finite m e hm he hroom =>
    cases hv with
    | infinity => cases hv'
    | zero t =>
      show _ = place (round binary64 .positive (_ + 0) (-1074))
      rw [Nat.add_zero, round_units hm he]
      rfl
    | @finite n f hn hf hroom' =>
      rw [add_finite_units hm hn (he ▸ le_target m e) (hf ▸ le_target n f)]

theorem isFinite_of_le (hx : 0.0 ≤ x) (h : x ≤ y) (hy : y.isFinite = true) :
    x.isFinite = true := by
  show x.toModel.unpack.isFinite = true
  have hfinite : y.toModel.unpack.isFinite = true := hy
  have hu := nonnegative_unpack hx
  have hle : place x.toModel.unpack ≤ place y.toModel.unpack := (le_iff.mp h).2.2
  generalize x.toModel.unpack = u at hu hle ⊢
  cases hu with
  | zero s | finite hm he hroom => rfl
  | infinity =>
    have hv := nonnegative_unpack (le_trans hx h)
    generalize y.toModel.unpack = v at hv hle hfinite
    cases hv with
    | infinity => exact hfinite
    | zero t | finite hn hf hroom => exact absurd hle (not_kind_le (by decide) _ _)

variable {z w : Float}

theorem add_le_add (hx : 0.0 ≤ x) (hz : 0.0 ≤ z) (hxy : x ≤ y) (hzw : z ≤ w)
    (hy : y.isFinite = true) (hw : w.isFinite = true) : x + z ≤ y + w := by
  have hu := nonnegative_unpack hx
  have hu' := nonnegative_unpack hz
  have hv := nonnegative_unpack (le_trans hx hxy)
  have hv' := nonnegative_unpack (le_trans hz hzw)
  obtain ⟨-, hnumber, hlow⟩ := add_spec hu hu'
  obtain ⟨-, hnumber', -⟩ := add_spec hv hv'
  have hsums : place (UnpackedFloat.add binary64 x.toModel.unpack z.toModel.unpack) ≤
      place (UnpackedFloat.add binary64 y.toModel.unpack w.toModel.unpack) := by
    rw [place_add hu hu' (isFinite_of_le hx hxy hy) (isFinite_of_le hz hzw hw),
      place_add hv hv' hy hw]
    exact place_round_mono (Nat.add_le_add (units_mono hu hv hy (le_iff.mp hxy).2.2)
      (units_mono hu' hv' hw (le_iff.mp hzw).2.2))
  rw [← height_eq_place hnumber, ← height_eq_place hnumber'] at hsums
  have hzero : place (.zero .positive) ≤
      height (UnpackedFloat.add binary64 x.toModel.unpack z.toModel.unpack) := by
    rw [height_eq_place hnumber]
    exact hu.place_nonneg.trans hlow
  have hcapped := height_capped_mono hzero hsums
  rw [height_eq_place (capped_ne_notANumber hnumber),
    height_eq_place (capped_ne_notANumber hnumber'), ← unpack_add, ← unpack_add] at hcapped
  refine le_iff.mpr ⟨?_, ?_, hcapped⟩
  · rw [isNumber_iff, unpack_add]
    exact capped_ne_notANumber hnumber
  · rw [isNumber_iff, unpack_add]
    exact capped_ne_notANumber hnumber'

/-! ## Counts -/

theorem unpack_ofNat_of_lt {k : ℕ} (hk : 0 < k) (h : k < 2 ^ 53) :
    (Confidence.ofNat k).toModel.unpack =
      .finite .positive (k * 2 ^ (52 - k.log2)) (-(52 - k.log2 : ℕ))
        (Nat.mul_pos hk (Nat.two_pow_pos _)) := by
  have hroom : ¬(972 : ℤ) ≤ -(52 - k.log2 : ℕ) := by omega
  rw [unpack_ofNat hk, round_ofNat hk h, capped, if_neg hroom]

theorem units_ofNat {k : ℕ} (hk : 0 < k) (h : k < 2 ^ 53) :
    units (Confidence.ofNat k).toModel.unpack = k * 2 ^ 1074 := by
  have hlog : k.log2 < 53 := (Nat.log2_lt hk.ne').mpr h
  have hexponent : 52 - k.log2 + (-(52 - k.log2 : ℕ) + 1074 : ℤ).toNat = 1074 := by omega
  rw [unpack_ofNat_of_lt hk h, units, Nat.mul_assoc, ← pow_add, hexponent]

/-- Counting is exact until the mantissa is full. -/
theorem ofNat_add_one {k : ℕ} (hk : k < 2 ^ 53) :
    Confidence.ofNat k + 1.0 = Confidence.ofNat (k + 1) := by
  rcases Nat.eq_zero_or_pos k with rfl | hpos
  · rfl
  show Confidence.ofNat k + Confidence.ofNat 1 = _
  have hone : 1 < 2 ^ 53 := by decide
  have hleast (n : ℕ) : (-1074 : ℤ) ≤ -(52 - n.log2 : ℕ) := by omega
  have hsum : UnpackedFloat.add binary64 (Confidence.ofNat k).toModel.unpack
      (Confidence.ofNat 1).toModel.unpack = round binary64 .positive (k + 1) 0 := by
    have hunits : units (Confidence.ofNat k).toModel.unpack +
        units (Confidence.ofNat 1).toModel.unpack = (k + 1) * 2 ^ 1074 := by
      rw [units_ofNat hpos hk, units_ofNat Nat.one_pos hone, Nat.add_mul]
    rw [unpack_ofNat_of_lt hpos hk, unpack_ofNat_of_lt Nat.one_pos hone] at hunits ⊢
    rw [add_finite_units _ _ (hleast k) (hleast 1), hunits]
    exact round_mul .positive k.succ_ne_zero 0 1074
  refine eq_of_unpack_eq ?_
  rw [unpack_add, hsum, unpack_ofNat k.succ_pos]

theorem isNumber_ofNat (n : ℕ) : IsNumber (Confidence.ofNat n) := by
  rcases Nat.eq_zero_or_pos n with rfl | hn
  · decide
  · rw [isNumber_iff, unpack_ofNat hn]
    exact capped_ne_notANumber (round_ne_notANumber _ _ _)

theorem isFinite_ofNat {n : ℕ} (h : n ≤ Decimal.word64) : (Confidence.ofNat n).isFinite = true := by
  rcases Nat.eq_zero_or_pos n with rfl | hn
  · decide
  · obtain ⟨m, e, hm, hcount, -, -⟩ := exists_unpack_ofNat hn h
    show (Confidence.ofNat n).toModel.unpack.isFinite = true
    rw [hcount]
    rfl

theorem ofNat_mono {k n : ℕ} (h : k ≤ n) : Confidence.ofNat k ≤ Confidence.ofNat n := by
  refine le_iff.mpr ⟨isNumber_ofNat k, isNumber_ofNat n, ?_⟩
  rcases Nat.eq_zero_or_pos k with rfl | hk
  · exact (le_iff.mp (zero_le_of_positive (isNumber_ofNat n) (positive_ofNat n))).2.2
  rw [rank, rank, unpack_ofNat hk, unpack_ofNat (hk.trans_le h),
    ← height_eq_place (capped_ne_notANumber (round_ne_notANumber _ _ _)),
    ← height_eq_place (capped_ne_notANumber (round_ne_notANumber _ _ _))]
  have hround := round_mono hk.ne' h 0
  rw [← height_eq_place (round_ne_notANumber _ _ _),
    ← height_eq_place (round_ne_notANumber _ _ _)] at hround
  exact height_capped_mono (zero_le_height (positive_roundWithAccuracy _ _ _)) hround

theorem zero_lt_ofNat {n : ℕ} (hn : 0 < n) : 0.0 < Confidence.ofNat n := by
  have hone : (0.0 : Float) < Confidence.ofNat 1 := by decide
  exact lt_of_lt_of_le hone (ofNat_mono hn)

end Double
end Motif
