import Motif.Proofs.Double.Order

/-!
Rounding keeps the order.  A positive mantissa is shifted right to the exponent that its size asks
for, rounded by the bits that were shifted out, and shifted once more when that carried into a new
bit.  Each of these keeps the order of mantissas of one exponent, and a number may be written with
more bits and a lower exponent without changing what it is rounded to.
-/

namespace Motif
namespace Double

open Float.Model Float.Model.UnpackedFloat Float.Model.UnpackedFloat.ExtendedMantissa
  Float.Model.Format

/-! ## Mantissas with the bits that were shifted out -/

/-- A mantissa before any shift. -/
def whole (m : ℕ) : ExtendedMantissa := ⟨m, false, false⟩

theorem mantissa_ofMantissaAndAccuracy (m : ℕ) (a : Accuracy) :
    (ofMantissaAndAccuracy m a).mantissa = m := by
  cases a with
  | exact => rfl
  | inexact o => cases o <;> rfl

/-- The mantissa and the two residual bits as one number. -/
def weight (em : ExtendedMantissa) : ℕ :=
  4 * em.mantissa + 2 * em.roundBit.toNat + em.stickyBit.toNat

theorem shiftRight_zero (em : ExtendedMantissa) : em >>> 0 = em := rfl

theorem shiftRight_succ (em : ExtendedMantissa) (k : ℕ) :
    em >>> (k + 1) = (em >>> k).shiftRightOne := rfl

theorem shiftRight_add (em : ExtendedMantissa) (j k : ℕ) : em >>> (j + k) = (em >>> j) >>> k := by
  induction k with
  | zero => rfl
  | succ k ih => rw [shiftRight_succ, ← ih, ← shiftRight_succ, Nat.add_assoc]

theorem mantissa_shiftRight (em : ExtendedMantissa) (k : ℕ) :
    (em >>> k).mantissa = em.mantissa / 2 ^ k := by
  induction k with
  | zero => rw [shiftRight_zero, pow_zero, Nat.div_one]
  | succ k ih =>
    rw [shiftRight_succ, pow_succ, ← Nat.div_div_eq_div_mul, ← ih]
    rfl

theorem whole_shiftRight (m k : ℕ) : whole (m * 2 ^ k) >>> k = whole m := by
  induction k generalizing m with
  | zero => rw [shiftRight_zero, pow_zero, Nat.mul_one]
  | succ k ih =>
    rw [shiftRight_succ, pow_succ, Nat.mul_comm (2 ^ k), ← Nat.mul_assoc, ih (m * 2)]
    simp [ExtendedMantissa.shiftRightOne, whole]

theorem weight_shiftRightOne (em : ExtendedMantissa) :
    weight em.shiftRightOne = 2 * (weight em / 4) + min (weight em % 4) 1 := by
  obtain ⟨m, r, s⟩ := em
  have hbit : (m % 2 != 0).toNat = m % 2 := by
    rcases Nat.mod_two_eq_zero_or_one m with h | h <;> rw [h] <;> rfl
  simp only [weight, ExtendedMantissa.shiftRightOne, hbit]
  cases r <;> cases s <;>
    simp only [Bool.toNat_true, Bool.toNat_false, Bool.or_true, Bool.or_false] <;> omega

theorem weight_shiftRight_mono {em em' : ExtendedMantissa} (h : weight em ≤ weight em') (k : ℕ) :
    weight (em >>> k) ≤ weight (em' >>> k) := by
  induction k with
  | zero => exact h
  | succ k ih =>
    rw [shiftRight_succ, shiftRight_succ, weight_shiftRightOne, weight_shiftRightOne]
    omega

/-- Half of the last bit is added, and a little more when the mantissa is odd. -/
theorem roundedMantissa_eq (em : ExtendedMantissa) :
    em.roundedMantissa = (weight em + 1 + em.mantissa % 2) / 4 := by
  obtain ⟨m, r, s⟩ := em
  have hodd : m % 2 < 2 := Nat.mod_lt m Nat.two_pos
  cases r <;> cases s
  · show m = (4 * m + 0 + 0 + 1 + m % 2) / 4
    omega
  · show m = (4 * m + 0 + 1 + 1 + m % 2) / 4
    omega
  · show m + m % 2 = (4 * m + 2 + 0 + 1 + m % 2) / 4
    omega
  · show m + 1 = (4 * m + 2 + 1 + 1 + m % 2) / 4
    omega

theorem mantissa_eq (em : ExtendedMantissa) : em.mantissa = weight em / 4 := by
  obtain ⟨m, r, s⟩ := em
  cases r <;> cases s <;> simp only [weight, Bool.toNat_true, Bool.toNat_false] <;> omega

theorem le_roundedMantissa (em : ExtendedMantissa) : em.mantissa ≤ em.roundedMantissa := by
  rw [roundedMantissa_eq, mantissa_eq]
  exact Nat.div_le_div_right (by omega)

theorem roundedMantissa_le (em : ExtendedMantissa) : em.roundedMantissa ≤ em.mantissa + 1 := by
  have hodd : em.mantissa % 2 < 2 := Nat.mod_lt _ Nat.two_pos
  rw [roundedMantissa_eq, mantissa_eq em, ← Nat.add_div_right _ (by decide : 0 < 4), ← mantissa_eq]
  exact Nat.div_le_div_right (by omega)

theorem roundedMantissa_mono {em em' : ExtendedMantissa} (h : weight em ≤ weight em') :
    em.roundedMantissa ≤ em'.roundedMantissa := by
  have hle : em.mantissa ≤ em'.mantissa := by
    rw [mantissa_eq, mantissa_eq em']
    exact Nat.div_le_div_right h
  rcases hle.eq_or_lt with heq | hlt
  · rw [roundedMantissa_eq, roundedMantissa_eq, heq]
    exact Nat.div_le_div_right (by omega)
  · exact (roundedMantissa_le em).trans (Nat.le_trans hlt (le_roundedMantissa em'))

/-! ## The mantissa after a shift -/

/-- A mantissa shifted right by `k` and rounded, ties to even. -/
def nearest (m k : ℕ) : ℕ := (whole m >>> k).roundedMantissa

theorem nearest_zero (m : ℕ) : nearest m 0 = m := rfl

theorem nearest_mul (m j k : ℕ) : nearest (m * 2 ^ j) (j + k) = nearest m k := by
  rw [nearest, shiftRight_add, whole_shiftRight, nearest]

/-! ## The exponent that a mantissa asks for -/

theorem log2_mul_two_pow {m : ℕ} (hm : m ≠ 0) (j : ℕ) : (m * 2 ^ j).log2 = m.log2 + j := by
  have hpos : 0 < 2 ^ j := Nat.two_pow_pos j
  rw [Nat.log2_eq_iff (Nat.mul_ne_zero hm hpos.ne')]
  constructor
  · rw [pow_add]
    exact Nat.mul_le_mul_right _ (Nat.log2_self_le hm)
  · rw [Nat.add_right_comm, pow_add]
    exact Nat.mul_lt_mul_of_pos_right Nat.lt_log2_self hpos

/-- The exponent at which a positive number is kept that is given by a mantissa and an exponent. -/
def target (m : ℕ) (e : ℤ) : ℤ := binary64.targetExponent (totalExponent m e)

theorem target_eq (m : ℕ) (e : ℤ) : target m e = max (m.log2 + e - 52) (-1074) := by
  have hmin : binary64.minExponent = -1074 := by decide
  have hbits : (binary64.mantissaBits : ℤ) = 53 := by decide
  rw [target, targetExponent, totalExponent, hmin, hbits]
  omega

theorem target_mul {m : ℕ} (hm : m ≠ 0) (e : ℤ) (j : ℕ) :
    target (m * 2 ^ j) (e - j) = target m e := by
  rw [target_eq, target_eq, log2_mul_two_pow hm]
  push_cast
  congr 1
  omega

theorem log2_mono {m m' : ℕ} (h : m ≤ m') : m.log2 ≤ m'.log2 := by
  rcases Nat.eq_zero_or_pos m with rfl | hm
  · exact Nat.log2_zero.trans_le (Nat.zero_le _)
  · exact (Nat.le_log2 (by omega)).mpr ((Nat.log2_self_le hm.ne').trans h)

theorem target_mono {m m' : ℕ} (h : m ≤ m') (e : ℤ) : target m e ≤ target m' e := by
  have hlog := log2_mono h
  rw [target_eq, target_eq]
  omega

/-- How far a mantissa is shifted. -/
def shift (m : ℕ) (e : ℤ) : ℕ := (target m e - e).toNat

theorem roundedMantissa_shift_le (em : ExtendedMantissa) (e : ℤ) :
    (em >>> shift em.mantissa e).roundedMantissa ≤ 2 ^ 53 := by
  have hshift : em.mantissa.log2 + 1 ≤ 53 + shift em.mantissa e := by
    rw [shift, target_eq]
    omega
  have hlt : (em >>> shift em.mantissa e).mantissa < 2 ^ 53 := by
    rw [mantissa_shiftRight, Nat.div_lt_iff_lt_mul (Nat.two_pow_pos _), ← pow_add]
    exact Nat.lt_log2_self.trans_le (Nat.pow_le_pow_right Nat.two_pos hshift)
  exact (roundedMantissa_le _).trans hlt

theorem le_roundedMantissa_shift {em : ExtendedMantissa} {e : ℤ}
    (h : -1074 < target em.mantissa e) (he : e ≤ target em.mantissa e) :
    2 ^ 52 ≤ (em >>> shift em.mantissa e).roundedMantissa := by
  have hshift : 52 + shift em.mantissa e = em.mantissa.log2 := by
    rw [target_eq] at h he
    rw [shift, target_eq]
    omega
  have hm : em.mantissa ≠ 0 := by
    intro hzero
    rw [hzero, Nat.log2_zero] at hshift
    omega
  refine Nat.le_trans ?_ (le_roundedMantissa _)
  rw [mantissa_shiftRight, Nat.le_div_iff_mul_le (Nat.two_pow_pos _), ← pow_add, hshift]
  exact Nat.log2_self_le hm

/-! ## Rounding -/

/-- A mantissa that stays as it is, unless it is zero. -/
def kept (s : Sign) (m : ℕ) (e : ℤ) : UnpackedFloat :=
  if h : m = 0 then .zero s else .finite s m e (Nat.pos_of_ne_zero h)

/-- A rounded mantissa, which may have carried into a new bit. -/
def carried (s : Sign) (r : ℕ) (t : ℤ) : UnpackedFloat :=
  if r = 2 ^ 53 then kept s (2 ^ 52) (t + 1) else kept s r t

/-- A mantissa with any accuracy is rounded once, at the exponent that its size asks for. -/
theorem roundWithAccuracy_eq (s : Sign) {m : ℕ} {e : ℤ} (he : e ≤ target m e) (a : Accuracy) :
    roundWithAccuracy binary64 s m e a =
      carried s (ofMantissaAndAccuracy m a >>> shift m e).roundedMantissa (target m e) := by
  have hexp : e + (shift m e : ℤ) = target m e := by
    rw [shift]
    omega
  -- the second shift moves by one bit after a carry, and not at all otherwise
  have hsecond (r : ℕ) : shift r (target m e) = (target r (target m e) - target m e).toNat := rfl
  let r := (ofMantissaAndAccuracy m a >>> shift m e).roundedMantissa
  have hread : roundWithAccuracy binary64 s m e a =
      kept s (whole r >>> shift r (e + (shift m e : ℤ))).mantissa
        (e + shift m e + shift r (e + (shift m e : ℤ))) := rfl
  rw [hread, hexp, mantissa_shiftRight]
  show kept s (r / _) _ = carried s r _
  have hfloor : -1074 ≤ target m e := by
    rw [target_eq]
    exact le_max_right _ _
  have hbound : r ≤ 2 ^ 53 := by
    have h := roundedMantissa_shift_le (ofMantissaAndAccuracy m a) e
    rwa [mantissa_ofMantissaAndAccuracy] at h
  rw [carried]
  by_cases hcarry : r = 2 ^ 53
  · have hone : shift (2 ^ 53) (target m e) = 1 := by
      rw [hsecond, target_eq (2 ^ 53), Nat.log2_two_pow]
      omega
    rw [if_pos hcarry, hcarry, hone]
    rfl
  · have hnone : shift r (target m e) = 0 := by
      have hlog : r.log2 < 53 := by
        by_cases hzero : r = 0
        · rw [hzero]
          decide
        · exact (Nat.log2_lt hzero).mpr (lt_of_le_of_ne hbound hcarry)
      rw [hsecond, target_eq r]
      omega
    rw [if_neg hcarry, hnone, pow_zero, Nat.div_one, Nat.cast_zero, Int.add_zero]

theorem roundWithAccuracy_mul (s : Sign) {m : ℕ} (hm : m ≠ 0) {e : ℤ} (he : e ≤ target m e)
    (j : ℕ) : roundWithAccuracy binary64 s (m * 2 ^ j) (e - j) .exact =
      roundWithAccuracy binary64 s m e .exact := by
  have htarget := target_mul hm e j
  have hshift : shift (m * 2 ^ j) (e - j) = j + shift m e := by
    rw [shift, shift, htarget]
    omega
  rw [roundWithAccuracy_eq s he, roundWithAccuracy_eq s (by omega), htarget, hshift]
  exact congrArg (carried s · (target m e)) (nearest_mul m j (shift m e))

/-- A number may be given with any exponent that is low enough. -/
theorem round_eq (s : Sign) {m : ℕ} (hm : m ≠ 0) {e : ℤ} {j : ℕ} (hj : e - j ≤ target m e) :
    round binary64 s m e = roundWithAccuracy binary64 s (m * 2 ^ j) (e - j) .exact := by
  have hread : round binary64 s m e =
      roundWithAccuracy binary64 s (m <<< (e - target m e).toNat)
        (e - (e - target m e).toNat) .exact := rfl
  have hle : (e - target m e).toNat ≤ j := by omega
  obtain ⟨i, rfl⟩ := Nat.exists_eq_add_of_le hle
  have hlow := target_mul hm e (e - target m e).toNat
  have hpos : m * 2 ^ (e - target m e).toNat ≠ 0 := Nat.mul_ne_zero hm (Nat.two_pow_pos _).ne'
  rw [hread, Nat.shiftLeft_eq, ← roundWithAccuracy_mul s hpos (by omega) i, pow_add, Nat.mul_assoc]
  congr 1
  omega

theorem round_mul (s : Sign) {m : ℕ} (hm : m ≠ 0) (e : ℤ) (j : ℕ) :
    round binary64 s (m * 2 ^ j) (e - j) = round binary64 s m e := by
  have hpos : m * 2 ^ j ≠ 0 := Nat.mul_ne_zero hm (Nat.two_pow_pos _).ne'
  have htarget := target_mul hm e j
  have hlow : e - ((e - target m e).toNat + j : ℕ) ≤ target m e := by omega
  have hlow' : e - j - ((e - target m e).toNat : ℕ) ≤ target (m * 2 ^ j) (e - j) := by omega
  rw [round_eq s hm hlow, round_eq s hpos hlow', Nat.add_comm, pow_add, Nat.mul_assoc]
  congr 1
  omega

/-! ## Rounding keeps the order -/

theorem place_kept (r : ℕ) (t : ℤ) :
    place (kept .positive r t) =
      if r = 0 then toLex (0, toLex (0, 0)) else toLex (1, toLex (t, (r : ℤ))) := by
  rw [kept]
  by_cases hr : r = 0
  · rw [dif_pos hr, if_pos hr]
    rfl
  · rw [dif_neg hr, if_neg hr]
    rfl

theorem place_kept_le {r r' : ℕ} {t t' : ℤ} (hr : r ≠ 0 → r' ≠ 0)
    (h : t < t' ∨ t = t' ∧ r ≤ r') :
    place (kept .positive r t) ≤ place (kept .positive r' t') := by
  rw [place_kept, place_kept]
  by_cases hzero : r = 0
  · rw [if_pos hzero]
    split
    · exact le_rfl
    · exact kind_le Int.one_pos _ _
  · rw [if_neg hzero, if_neg (hr hzero), Prod.Lex.toLex_le_toLex]
    refine Or.inr ⟨rfl, Prod.Lex.toLex_le_toLex.mpr ?_⟩
    exact h.imp id fun ⟨heq, hle⟩ => ⟨heq, Int.ofNat_le.mpr hle⟩

theorem place_carried_le {r r' : ℕ} (h : r ≤ r') (hr' : r' ≤ 2 ^ 53) (t : ℤ) :
    place (carried .positive r t) ≤ place (carried .positive r' t) := by
  rw [carried, carried]
  by_cases hcarry : r = 2 ^ 53
  · have hsame : r' = 2 ^ 53 := by omega
    rw [hcarry, hsame]
  · rw [if_neg hcarry]
    split
    · exact place_kept_le (fun _ => by decide) (Or.inl (Int.lt_succ t))
    · exact place_kept_le (fun hne => by omega) (Or.inr ⟨rfl, h⟩)

theorem place_carried_le_of_lt (r : ℕ) {r' : ℕ} (hr' : 2 ^ 52 ≤ r') {t t' : ℤ} (h : t < t') :
    place (carried .positive r t) ≤ place (carried .positive r' t') := by
  have hmiddle : place (carried .positive r t) ≤ place (kept .positive (2 ^ 52) (t + 1)) := by
    rw [carried]
    split
    · exact le_rfl
    · exact place_kept_le (fun _ => by decide) (Or.inl (Int.lt_succ t))
  refine hmiddle.trans ?_
  rw [carried]
  split
  · exact place_kept_le (fun _ => by decide) (Or.inl (by omega))
  · refine place_kept_le (fun _ => by omega) ?_
    rcases (Int.add_one_le_of_lt h).lt_or_eq with hlt | heq
    · exact Or.inl hlt
    · exact Or.inr ⟨heq, hr'⟩

theorem le_target (m : ℕ) (e : ℤ) : -1074 ≤ target m e := by
  rw [target_eq]
  exact le_max_right _ _

/-- Where a number is rounded to is a matter of its mantissa and its residual bits. -/
theorem roundWithAccuracy_le {m m' : ℕ} {a a' : Accuracy} {e : ℤ}
    (h : weight (ofMantissaAndAccuracy m a) ≤ weight (ofMantissaAndAccuracy m' a'))
    (he : e ≤ target m e) :
    place (roundWithAccuracy binary64 .positive m e a) ≤
      place (roundWithAccuracy binary64 .positive m' e a') := by
  have hmantissa : m ≤ m' := by
    rw [← mantissa_ofMantissaAndAccuracy m a, ← mantissa_ofMantissaAndAccuracy m' a', mantissa_eq,
      mantissa_eq]
    exact Nat.div_le_div_right h
  have hle := target_mono hmantissa e
  have hbound := roundedMantissa_shift_le (ofMantissaAndAccuracy m' a') e
  have hlarge := @le_roundedMantissa_shift (ofMantissaAndAccuracy m' a') e
  rw [mantissa_ofMantissaAndAccuracy] at hbound hlarge
  rw [roundWithAccuracy_eq _ he, roundWithAccuracy_eq _ (he.trans hle)]
  rcases hle.eq_or_lt with heq | hlt
  · have hshift : shift m e = shift m' e := by rw [shift, shift, heq]
    rw [heq, hshift]
    exact place_carried_le (roundedMantissa_mono (weight_shiftRight_mono h _)) hbound _
  · have hnormal : -1074 < target m' e := (le_target m e).trans_lt hlt
    exact place_carried_le_of_lt _ (hlarge hnormal (he.trans hle)) hlt

theorem roundWithAccuracy_mono {m m' : ℕ} (h : m ≤ m') {e : ℤ} (he : e ≤ target m e) :
    place (roundWithAccuracy binary64 .positive m e .exact) ≤
      place (roundWithAccuracy binary64 .positive m' e .exact) := by
  refine roundWithAccuracy_le ?_ he
  show 4 * m + 0 + 0 ≤ 4 * m' + 0 + 0
  omega

theorem round_mono {m m' : ℕ} (hm : m ≠ 0) (h : m ≤ m') (e : ℤ) :
    place (round binary64 .positive m e) ≤ place (round binary64 .positive m' e) := by
  have hfloor : e - (e + 1074).toNat ≤ -1074 := by omega
  rw [round_eq _ hm (hfloor.trans (le_target m e)),
    round_eq _ (by omega) (hfloor.trans (le_target m' e))]
  exact roundWithAccuracy_mono (Nat.mul_le_mul_right _ h) (hfloor.trans (le_target _ _))

/-! ## Canonical form -/

/-- Kept at the exponent that the mantissa asks for. -/
def Canonical : UnpackedFloat → Prop
  | .finite _ m e _ => target m e = e
  | _ => True

theorem canonical_kept {s : Sign} {r : ℕ} {t : ℤ} (h : r ≠ 0 → target r t = t) :
    Canonical (kept s r t) := by
  rw [kept]
  by_cases hr : r = 0
  · rw [dif_pos hr]
    trivial
  · rw [dif_neg hr]
    exact h hr

theorem canonical_roundWithAccuracy (s : Sign) {m : ℕ} {e : ℤ} (he : e ≤ target m e)
    (a : Accuracy) : Canonical (roundWithAccuracy binary64 s m e a) := by
  have hmantissa := mantissa_ofMantissaAndAccuracy m a
  have hfloor := le_target m e
  have hbound := roundedMantissa_shift_le (ofMantissaAndAccuracy m a) e
  have hlarge := fun hlt => @le_roundedMantissa_shift (ofMantissaAndAccuracy m a) e hlt
    (hmantissa.symm ▸ he)
  rw [hmantissa] at hbound hlarge
  rw [roundWithAccuracy_eq s he, carried]
  split
  · refine canonical_kept fun _ => ?_
    rw [target_eq (2 ^ 52), Nat.log2_two_pow]
    omega
  · next hcarry =>
    refine canonical_kept fun hr => ?_
    have hlog := (Nat.log2_lt hr).mpr (lt_of_le_of_ne hbound hcarry)
    rw [target_eq (ofMantissaAndAccuracy m a >>> shift m e).roundedMantissa]
    rcases hfloor.eq_or_lt with heq | hlt
    · omega
    · have hlow := (Nat.le_log2 hr).mpr (hlarge hlt)
      omega

theorem canonical_round (s : Sign) {m : ℕ} (hm : m ≠ 0) (e : ℤ) :
    Canonical (round binary64 s m e) := by
  have hfloor : e - (e + 1074).toNat ≤ -1074 := by omega
  rw [round_eq s hm (hfloor.trans (le_target m e))]
  exact canonical_roundWithAccuracy s (hfloor.trans (le_target _ _)) _

theorem round_canonical (s : Sign) {m : ℕ} (hm : 0 < m) {e : ℤ} (h : target m e = e) :
    round binary64 s m e = .finite s m e hm := by
  have hbound : m ≠ 2 ^ 53 := by
    rintro rfl
    rw [target_eq, Nat.log2_two_pow] at h
    omega
  have hshift : shift m e = 0 := by
    rw [shift, h]
    omega
  have hround := round_eq s hm.ne' (e := e) (j := 0) (by omega)
  rw [pow_zero, Nat.mul_one, Nat.cast_zero, Int.sub_zero] at hround
  rw [hround, roundWithAccuracy_eq s h.ge, hshift]
  show carried s (nearest m 0) (target m e) = _
  rw [nearest_zero, h, carried, if_neg hbound, kept, dif_neg hm.ne']

end Double
end Motif
