import Motif.Proofs.Double.Arithmetic

/-!
Scaling keeps the order.  Of two numbers that are not negative the greater one stays ahead when both
are multiplied by the same number of positive sign and bounded by the same cap.  A product that is
no number counts as the cap, so it stands with infinity.
-/

namespace Motif
namespace Double

open Float.Model Float.Model.UnpackedFloat Float.Model.Format

/-! ## Products in canonical form -/

/-- The exponent of a product is low enough for its mantissa. -/
theorem add_le_target {m n : ℕ} {e f : ℤ} (hm : 0 < m) (hn : 0 < n) (he : target m e = e)
    (hf : target n f = f) : e + f ≤ target (m * n) (e + f) := by
  have hlog : m.log2 + n.log2 ≤ (m * n).log2 := by
    refine (Nat.le_log2 (Nat.mul_pos hm hn).ne').mpr ?_
    rw [pow_add]
    exact Nat.mul_le_mul (Nat.log2_self_le hm.ne') (Nat.log2_self_le hn.ne')
  rw [target_eq] at he hf ⊢
  omega

theorem canonical_unpack (x : Float) : Canonical x.toModel.unpack := by
  cases hx : x.toModel.unpack with
  | finite s m e hm => exact (unpack_eq_finite hx).1
  | _ => trivial

theorem canonical_mul {u v : UnpackedFloat} (hu : Canonical u) (hv : Canonical v) :
    Canonical (UnpackedFloat.mul binary64 u v) := by
  cases u with
  | finite s m e hm =>
    cases v with
    | finite t n f hn =>
      exact canonical_roundWithAccuracy _ (add_le_target hm hn hu hv) _
    | _ => trivial
  | _ => cases v <;> trivial

theorem unpack_mul (x y : Float) : (x * y).toModel.unpack =
    capped (UnpackedFloat.mul binary64 x.toModel.unpack y.toModel.unpack) :=
  unpack_pack (canonical_mul (canonical_unpack x) (canonical_unpack y))

/-! ## Heights -/

theorem not_kind_le {i j : ℤ} (h : i < j) (p q : ℤ ×ₗ ℤ) : ¬toLex (j, q) ≤ toLex (i, p) :=
  not_le.mpr (Prod.Lex.toLex_lt_toLex.mpr (Or.inl h))

/-- The place of a number, or that of infinity for what is no number. -/
def height : UnpackedFloat → ℤ ×ₗ ℤ ×ₗ ℤ
  | .notANumber => place (.infinity .positive)
  | u => place u

theorem height_eq_place {u : UnpackedFloat} (h : u ≠ .notANumber) : height u = place u := by
  cases u with
  | notANumber => exact absurd rfl h
  | _ => rfl

theorem height_roundWithAccuracy (m : ℕ) (e : ℤ) :
    height (roundWithAccuracy binary64 .positive m e .exact) =
      place (roundWithAccuracy binary64 .positive m e .exact) := by
  have hread : ∃ r t, roundWithAccuracy binary64 .positive m e .exact = kept .positive r t :=
    ⟨_, _, rfl⟩
  obtain ⟨r, t, h⟩ := hread
  rw [h, kept]
  split <;> rfl

theorem height_le (u : UnpackedFloat) : height u ≤ place (.infinity .positive) := by
  cases u with
  | notANumber => exact le_rfl
  | zero s => exact kind_le (by decide) _ _
  | infinity s =>
    cases s with
    | negative => exact kind_le (by decide) _ _
    | positive => exact le_rfl
  | finite s m e hm => cases s <;> exact kind_le (by decide) _ _

theorem place_finite_le_iff {m n : ℕ} {e f : ℤ} {hm : 0 < m} {hn : 0 < n} :
    place (.finite .positive m e hm) ≤ place (.finite .positive n f hn) ↔
      e < f ∨ e = f ∧ m ≤ n := by
  show toLex ((1 : ℤ), toLex (e, (m : ℤ))) ≤ toLex ((1 : ℤ), toLex (f, (n : ℤ))) ↔ _
  rw [Prod.Lex.toLex_le_toLex, Prod.Lex.toLex_le_toLex, Int.ofNat_le]
  omega

theorem zero_le_height {u : UnpackedFloat} (h : Positive u) :
    place (.zero .positive) ≤ height u := by
  cases u with
  | zero s => exact le_rfl
  | notANumber => exact kind_le (by decide) _ _
  | infinity s | finite s m e hm =>
    cases h
    exact kind_le (by decide) _ _

/-- Everything from a certain height on becomes infinite. -/
theorem height_capped {u : UnpackedFloat} (h : place (.zero .positive) ≤ height u) :
    height (capped u) =
      if toLex (1, toLex (972, 0)) ≤ height u then place (.infinity .positive) else height u := by
  cases u with
  | notANumber => exact (if_pos (kind_le (by decide) _ _)).symm
  | zero s => exact (if_neg (not_kind_le (by decide) _ _)).symm
  | infinity s =>
    cases s with
    | negative => exact absurd h (not_kind_le (by decide) _ _)
    | positive => exact (if_pos (kind_le (by decide) _ _)).symm
  | finite s m e hm =>
    cases s with
    | negative => exact absurd h (not_kind_le (by decide) _ _)
    | positive =>
      have hroom : toLex ((1 : ℤ), toLex ((972 : ℤ), (0 : ℤ))) ≤
          height (.finite .positive m e hm) ↔ 972 ≤ e := by
        show _ ≤ toLex ((1 : ℤ), toLex (e, (m : ℤ))) ↔ _
        rw [Prod.Lex.toLex_le_toLex, Prod.Lex.toLex_le_toLex]
        omega
      rw [capped]
      by_cases hlarge : 972 ≤ e
      · rw [if_pos hlarge, if_pos (hroom.mpr hlarge)]
        rfl
      · rw [if_neg hlarge, if_neg (hlarge ∘ hroom.mp)]

theorem height_capped_mono {u v : UnpackedFloat} (hu : place (.zero .positive) ≤ height u)
    (h : height u ≤ height v) : height (capped u) ≤ height (capped v) := by
  rw [height_capped hu, height_capped (hu.trans h)]
  split
  · next hlarge => rw [if_pos (hlarge.trans h)]
  · split
    · exact height_le u
    · exact h

/-! ## Products keep the order -/

theorem place_mul_le {m m' n : ℕ} {e e' f : ℤ} {hm : 0 < m} {hm' : 0 < m'} {hn : 0 < n}
    (he : target m e = e) (he' : target m' e' = e') (hf : target n f = f)
    (h : place (.finite .positive m e hm) ≤ place (.finite .positive m' e' hm')) :
    place (UnpackedFloat.mul binary64 (.finite .positive m e hm) (.finite .positive n f hn)) ≤
      place (UnpackedFloat.mul binary64 (.finite .positive m' e' hm')
        (.finite .positive n f hn)) := by
  show place (roundWithAccuracy binary64 .positive (m * n) (e + f) .exact) ≤
    place (roundWithAccuracy binary64 .positive (m' * n) (e' + f) .exact)
  have hlow := add_le_target hm hn he hf
  have hlow' := add_le_target hm' hn he' hf
  rcases place_finite_le_iff.mp h with hlt | ⟨rfl, hle⟩
  · -- the greater number, written with the exponent of the lesser one
    obtain ⟨k, hk⟩ : ∃ k : ℕ, e' = e + k := ⟨(e' - e).toNat, by omega⟩
    have hmantissa : m ≤ m' * 2 ^ k := by
      rw [target_eq] at he he'
      have hsmall : m < 2 ^ 53 := (Nat.log2_lt hm.ne').mp (by omega)
      have hlarge : 2 ^ 52 ≤ m' := (Nat.le_log2 hm'.ne').mp (by omega)
      have hshift : 2 ≤ 2 ^ k := Nat.le_self_pow (by omega) 2
      exact hsmall.le.trans (Nat.mul_le_mul hlarge hshift)
    rw [← roundWithAccuracy_mul .positive (Nat.mul_pos hm' hn).ne' hlow' k]
    have hexponent : e' + f - k = e + f := by omega
    rw [hexponent, Nat.mul_right_comm]
    exact roundWithAccuracy_mono (Nat.mul_le_mul_right n hmantissa) hlow
  · exact roundWithAccuracy_mono (Nat.mul_le_mul_right n hle) hlow

theorem zero_le_height_mul {u w : UnpackedFloat} (hu : Nonnegative u) (hw : Positive w) :
    place (.zero .positive) ≤ height (UnpackedFloat.mul binary64 u w) := by
  cases hu with
  | zero s =>
    cases w with
    | notANumber | infinity t => exact kind_le (by decide) _ _
    | zero t | finite t n f hn => exact le_rfl
  | infinity => exact zero_le_height (positive_mul rfl hw)
  | finite hm he hroom => exact zero_le_height (positive_mul rfl hw)

theorem height_mul_le {u v w : UnpackedFloat} (hu : Nonnegative u) (hv : Nonnegative v)
    (h : place u ≤ place v) (hw : Positive w) (hcanonical : Canonical w) :
    height (UnpackedFloat.mul binary64 u w) ≤ height (UnpackedFloat.mul binary64 v w) := by
  cases hv with
  | infinity =>
    -- infinity times anything is infinite, unless it is no number
    have htop : height (UnpackedFloat.mul binary64 (.infinity .positive) w) =
        place (.infinity .positive) := by
      cases w <;> first | rfl | (cases hw; rfl)
    rw [htop]
    exact height_le _
  | zero t =>
    cases hu with
    | zero s => cases w <;> exact le_rfl
    | infinity => exact absurd h (not_kind_le (by decide) _ _)
    | finite hm he hroom => exact absurd h (not_kind_le (by decide) _ _)
  | finite hn hf hroom =>
    cases hu with
    | zero s =>
      cases w with
      | finite s k g hk =>
        cases hw
        exact zero_le_height (positive_roundWithAccuracy _ _ _)
      | _ =>
        cases hw
        exact le_rfl
    | infinity => exact absurd h (not_kind_le (by decide) _ _)
    | finite hm he hroom =>
      cases w with
      | finite s k g hk =>
        cases hw
        have hproduct : place (UnpackedFloat.mul binary64 (.finite .positive _ _ hm)
            (.finite .positive k g hk)) ≤ place (UnpackedFloat.mul binary64
              (.finite .positive _ _ hn) (.finite .positive k g hk)) :=
          place_mul_le he hf hcanonical h
        show height (roundWithAccuracy binary64 .positive _ _ .exact) ≤
          height (roundWithAccuracy binary64 .positive _ _ .exact)
        rw [height_roundWithAccuracy, height_roundWithAccuracy]
        exact hproduct
      | _ =>
        cases hw
        exact le_rfl

variable {a b x y r cap : Float}

theorem height_eq_rank (h : IsNumber x) : height x.toModel.unpack = rank x :=
  height_eq_place (isNumber_iff.mp h)

theorem least_mono (hcap : IsNumber cap)
    (h : height a.toModel.unpack ≤ height b.toModel.unpack) :
    Confidence.least a cap ≤ Confidence.least b cap := by
  refine Confidence.le_least (Or.inr hcap) (fun hb => ?_) fun _ => Confidence.least_le_right hcap
  by_cases ha : IsNumber a
  · have hab : a ≤ b := by
      rw [height_eq_rank ha, height_eq_rank hb] at h
      exact le_iff.mpr ⟨ha, hb, h⟩
    exact le_trans (Confidence.least_le_left ha) hab
  · have hnone : a.toModel.unpack = .notANumber := by
      rwa [isNumber_iff, not_not] at ha
    have hcapb : rank cap ≤ rank b := by
      rw [hnone, height_eq_rank hb] at h
      rw [← height_eq_rank hcap]
      exact (height_le _).trans h
    exact le_trans (Confidence.least_le_right hcap) (le_iff.mpr ⟨hcap, hb, hcapb⟩)

theorem least_mul_mono (hx : 0.0 ≤ x) (hxy : x ≤ y) (hr : Positive r.toModel.unpack)
    (hcap : IsNumber cap) : Confidence.least (x * r) cap ≤ Confidence.least (y * r) cap := by
  have hu := nonnegative_unpack hx
  refine least_mono hcap ?_
  rw [unpack_mul, unpack_mul]
  refine height_capped_mono (zero_le_height_mul hu hr) ?_
  exact height_mul_le hu (nonnegative_unpack (le_trans hx hxy)) (le_iff.mp hxy).2.2 hr
    (canonical_unpack r)

end Double
end Motif
