import Motif.Proofs.Double.Quotient

/-!
Rounding to a given double.  A mantissa and its residual bits stand for a rational number up to the
sticky bit, which tells that there is more.  Whatever stands for a number in the interval around a
double is rounded to that double.
-/

namespace Motif
namespace Double

open Float.Model Float.Model.UnpackedFloat Float.Model.UnpackedFloat.ExtendedMantissa
  Float.Model.Format

/-! ## What a mantissa with residual bits stands for -/

/-- A number of half units, or a little more than that when the sticky bit is set. -/
inductive Weighs : ℕ → ℚ → Prop
  | exact {k : ℕ} {q : ℚ} (h : 2 * q = k) : Weighs (2 * k) q
  | beyond {k : ℕ} {q : ℚ} (h : k < 2 * q) (h' : 2 * q < k + 1) : Weighs (2 * k + 1) q

theorem weighs_whole (m : ℕ) : Weighs (weight (whole m)) m := by
  have hweight : weight (whole m) = 2 * (2 * m) := by
    simp only [weight, whole, Bool.toNat_false]
    omega
  rw [hweight]
  exact .exact (by push_cast; ring)

theorem weighs_shiftRightOne {em : ExtendedMantissa} {q : ℚ} (h : Weighs (weight em) q) :
    Weighs (weight em.shiftRightOne) (q / 2) := by
  rw [weight_shiftRightOne]
  generalize weight em = w at h
  cases h with
  | @exact k _ h =>
    obtain ⟨i, rfl | rfl⟩ := Nat.even_or_odd' k
    · have hhalf : 2 * (2 * (2 * i) / 4) + min (2 * (2 * i) % 4) 1 = 2 * i := by omega
      rw [hhalf]
      push_cast at h
      exact .exact (by linarith)
    · have hhalf : 2 * (2 * (2 * i + 1) / 4) + min (2 * (2 * i + 1) % 4) 1 = 2 * i + 1 := by omega
      rw [hhalf]
      push_cast at h
      exact .beyond (by linarith) (by linarith)
  | @beyond k _ h h' =>
    obtain ⟨i, rfl | rfl⟩ := Nat.even_or_odd' k
    · have hhalf : 2 * ((2 * (2 * i) + 1) / 4) + min ((2 * (2 * i) + 1) % 4) 1 = 2 * i + 1 := by
        omega
      rw [hhalf]
      push_cast at h h'
      exact .beyond (by linarith) (by linarith)
    · have hhalf : 2 * ((2 * (2 * i + 1) + 1) / 4) + min ((2 * (2 * i + 1) + 1) % 4) 1 =
          2 * i + 1 := by omega
      rw [hhalf]
      push_cast at h h'
      exact .beyond (by linarith) (by linarith)

theorem weighs_shiftRight {em : ExtendedMantissa} {q : ℚ} (h : Weighs (weight em) q) (k : ℕ) :
    Weighs (weight (em >>> k)) (q / 2 ^ k) := by
  induction k with
  | zero => rwa [shiftRight_zero, pow_zero, div_one]
  | succ k ih =>
    rw [shiftRight_succ, pow_succ, ← div_div]
    exact weighs_shiftRightOne ih

section

variable {m n k : ℕ} (hn : 0 < n)

include hn

/-! Twice a quotient against a number of half units. -/

theorem lt_twice_div (h : n * k < 2 * m) : (k : ℚ) < 2 * (m / n) := by
  rw [← mul_div_assoc, lt_div_iff₀ (Nat.cast_pos.mpr hn)]
  exact_mod_cast (Nat.mul_comm k n).trans_lt h

theorem twice_div_lt (h : 2 * m < n * (k + 1)) : 2 * (m / n : ℚ) < k + 1 := by
  rw [← mul_div_assoc, div_lt_iff₀ (Nat.cast_pos.mpr hn)]
  exact_mod_cast h.trans_eq (Nat.mul_comm n (k + 1))

theorem twice_div_eq (h : 2 * m = n * k) : 2 * (m / n : ℚ) = k := by
  rw [← mul_div_assoc, div_eq_iff (Nat.cast_pos.mpr hn).ne']
  exact_mod_cast h.trans (Nat.mul_comm n k)

end

/-- A quotient with its remainder. -/
theorem weighs_quotient (m : ℕ) {n : ℕ} (hn : 0 < n) :
    Weighs (weight (ofMantissaAndAccuracy (m / n) (accuracyOfFraction (m % n) n))) (m / n : ℚ) := by
  have hparts : n * (m / n) + m % n = m := Nat.div_add_mod m n
  have hlt := Nat.mod_lt m hn
  generalize m / n = a at *
  generalize m % n = b at *
  rw [accuracyOfFraction]
  by_cases hzero : b = 0
  · rw [if_pos hzero]
    have hweight : weight (ofMantissaAndAccuracy a .exact) = 2 * (2 * a) := by
      show 4 * a + 0 + 0 = _
      omega
    rw [hweight]
    exact .exact (twice_div_eq hn (by rw [← hparts, hzero]; ring))
  rw [if_neg hzero]
  cases hcompare : compare (2 * b) n with
  | lt =>
    have hb := Nat.compare_eq_lt.mp hcompare
    have hweight : weight (ofMantissaAndAccuracy a (.inexact .lt)) = 2 * (2 * a) + 1 := by
      show 4 * a + 0 + 1 = _
      omega
    rw [hweight]
    exact .beyond (lt_twice_div hn (by rw [← hparts]; linarith [Nat.pos_of_ne_zero hzero]))
      (twice_div_lt hn (by rw [← hparts]; linarith))
  | eq =>
    have hb := Nat.compare_eq_eq.mp hcompare
    have hweight : weight (ofMantissaAndAccuracy a (.inexact .eq)) = 2 * (2 * a + 1) := by
      show 4 * a + 2 + 0 = _
      omega
    rw [hweight]
    exact .exact (twice_div_eq hn (by rw [← hparts]; linarith))
  | gt =>
    have hb := Nat.compare_eq_gt.mp hcompare
    have hweight : weight (ofMantissaAndAccuracy a (.inexact .gt)) = 2 * (2 * a + 1) + 1 := by
      show 4 * a + 2 + 1 = _
      omega
    rw [hweight]
    exact .beyond (lt_twice_div hn (by rw [← hparts]; linarith))
      (twice_div_lt hn (by rw [← hparts]; linarith))

/-! ## The interval around a number -/

/-- The number is nearer to `r` than to any other natural number, or half way with `r` even. -/
def Near (q : ℚ) (r : ℕ) : Prop :=
  (2 * r - 1 < 2 * q ∨ 2 * q = 2 * r - 1 ∧ r % 2 = 0) ∧
    (2 * q < 2 * r + 1 ∨ 2 * q = 2 * r + 1 ∧ r % 2 = 0)

theorem mantissa_le_of_weighs {em : ExtendedMantissa} {q : ℚ} (h : Weighs (weight em) q) :
    (em.mantissa : ℚ) ≤ q ∧ q < em.mantissa + 1 := by
  rw [mantissa_eq]
  generalize weight em = w at h
  -- half of a number of half units
  have hhalf (k : ℕ) : 2 * ((k / 2 : ℕ) : ℚ) ≤ k ∧ (k : ℚ) + 1 ≤ 2 * ((k / 2 : ℕ) + 1) := by
    constructor
    · exact_mod_cast (by omega : 2 * (k / 2) ≤ k)
    · exact_mod_cast (by omega : k + 1 ≤ 2 * (k / 2 + 1))
  cases h with
  | @exact k _ h =>
    have hquarter : 2 * k / 4 = k / 2 := by omega
    obtain ⟨hle, hlt⟩ := hhalf k
    rw [hquarter]
    constructor <;> linarith
  | @beyond k _ h h' =>
    have hquarter : (2 * k + 1) / 4 = k / 2 := by omega
    obtain ⟨hle, hlt⟩ := hhalf k
    rw [hquarter]
    constructor <;> linarith

theorem roundedMantissa_of_near {em : ExtendedMantissa} {q : ℚ} {r : ℕ} (h : Weighs (weight em) q)
    (hr : Near q r) : em.roundedMantissa = r := by
  rw [roundedMantissa_eq, mantissa_eq]
  generalize weight em = w at h
  obtain ⟨hlow, hhigh⟩ := hr
  cases h with
  | @exact k _ h =>
    rw [h] at hlow hhigh
    have hlow' : 2 * r < k + 1 ∨ k + 1 = 2 * r ∧ r % 2 = 0 := by
      refine hlow.imp (fun h => ?_) fun h => ⟨?_, h.2⟩
      · exact_mod_cast (by linarith : (2 * r : ℚ) < k + 1)
      · exact_mod_cast (by linarith : (k + 1 : ℚ) = 2 * r)
    have hhigh' : k < 2 * r + 1 ∨ k = 2 * r + 1 ∧ r % 2 = 0 := by
      exact_mod_cast hhigh
    omega
  | @beyond k _ h h' =>
    have hlow' : 2 * r < k + 2 := by
      exact_mod_cast (by rcases hlow with hlow | hlow <;> linarith : (2 * r : ℚ) < k + 2)
    have hhigh' : k < 2 * r + 1 := by
      exact_mod_cast (by rcases hhigh with hhigh | hhigh <;> linarith : (k : ℚ) < 2 * r + 1)
    omega

/-! ## The exponent that a number asks for -/

theorem target_le {M : ℕ} {E t : ℤ} {p : ℚ} (hM : (M : ℚ) ≤ p) (hE : E ≤ target M E)
    (ht : -1074 ≤ t) (h : p * 2 ^ E < 2 ^ (53 + t)) : target M E ≤ t := by
  rw [target_eq] at hE ⊢
  by_cases hzero : M = 0
  · rw [hzero, Nat.log2_zero] at hE ⊢
    omega
  have hlow : (2 : ℚ) ^ ((M.log2 : ℤ) + E) ≤ p * 2 ^ E := by
    have hpow : (2 : ℚ) ^ M.log2 ≤ M := by exact_mod_cast Nat.log2_self_le hzero
    rw [zpow_add₀ two_ne_zero, zpow_natCast]
    exact mul_le_mul_of_nonneg_right (hpow.trans hM) (by positivity)
  have hlt := (zpow_lt_zpow_iff_right₀ (one_lt_two : (1 : ℚ) < 2)).mp (hlow.trans_lt h)
  omega

theorem le_target_of_le {M : ℕ} {E t : ℤ} {p : ℚ} (hM : p < M + 1)
    (h : 2 ^ (52 + t) ≤ p * 2 ^ E) : t ≤ target M E := by
  have hhigh : p * 2 ^ E < (2 : ℚ) ^ ((M.log2 + 1 : ℕ) + E) := by
    have hpow : (M : ℚ) + 1 ≤ 2 ^ (M.log2 + 1) := by
      exact_mod_cast (Nat.lt_log2_self : M < 2 ^ (M.log2 + 1))
    rw [zpow_add₀ two_ne_zero, zpow_natCast]
    exact mul_lt_mul_of_pos_right (hM.trans_le hpow) (by positivity)
  have hlt := (zpow_lt_zpow_iff_right₀ (one_lt_two : (1 : ℚ) < 2)).mp (h.trans_lt hhigh)
  rw [target_eq]
  push_cast at hlt
  omega

/-! ## Rounding to a given double -/

/-- Four times the lower end of the interval around a mantissa, in units of its last place.  The gap
below a power of two is half as wide. -/
def lowerEnd (m : ℕ) (e : ℤ) : ℕ := 4 * m - (if m = 2 ^ 52 ∧ -1074 < e then 1 else 2)

/-- The number `q`, in units of the last place, rounds to `m * 2 ^ e`. -/
def Reaches (m : ℕ) (e : ℤ) (q : ℚ) : Prop :=
  (lowerEnd m e < 4 * q ∨ lowerEnd m e = 4 * q ∧ m % 2 = 0) ∧
    (4 * q < (4 * m + 2 : ℕ) ∨ 4 * q = (4 * m + 2 : ℕ) ∧ m % 2 = 0)

theorem near_of_reaches {m : ℕ} {e : ℤ} {q : ℚ} (hm : 0 < m) (h : Reaches m e q) : Near q m := by
  obtain ⟨hlower, hupper⟩ := h
  constructor
  · rw [lowerEnd] at hlower
    by_cases hnarrow : m = 2 ^ 52 ∧ -1074 < e
    · rw [if_pos hnarrow, Nat.cast_sub (by omega)] at hlower
      push_cast at hlower
      exact Or.inl (by rcases hlower with hlower | ⟨hlower, -⟩ <;> linarith)
    · rw [if_neg hnarrow, Nat.cast_sub (by omega)] at hlower
      push_cast at hlower
      exact hlower.imp (fun h => by linarith) fun h => ⟨by linarith, h.2⟩
  · push_cast at hupper
    exact hupper.imp (fun h => by linarith) fun h => ⟨by linarith, h.2⟩

/-- Where the number is smaller than the double's mantissa can be, that is the least one. -/
theorem eq_of_reaches_of_lt {m : ℕ} {e : ℤ} {q : ℚ} (hm : 2 ^ 52 ≤ m) (he : -1074 < e)
    (h : Reaches m e q) (hq : q < 2 ^ 52) : m = 2 ^ 52 ∧ 4 * 2 ^ 52 - 1 ≤ 4 * q := by
  have hlower : (lowerEnd m e : ℚ) ≤ 4 * q := h.1.elim (fun h => h.le) fun h => h.1.le
  rw [lowerEnd] at hlower
  by_cases heq : m = 2 ^ 52
  · rw [if_pos ⟨heq, he⟩, heq, Nat.cast_sub (by decide)] at hlower
    push_cast at hlower
    exact ⟨heq, by linarith⟩
  · have hlarge : (2 : ℚ) ^ 52 + 1 ≤ m := by
      exact_mod_cast (lt_of_le_of_ne hm (Ne.symm heq) : 2 ^ 52 < m)
    rw [if_neg fun h => heq h.1, Nat.cast_sub (by omega)] at hlower
    push_cast at hlower
    linarith

theorem roundWithAccuracy_of_near (s : Sign) {M : ℕ} {E t : ℤ} {a : Accuracy}
    (ht : target M E = t) (hE : E ≤ t) {p q : ℚ} {r : ℕ}
    (hp : Weighs (weight (ofMantissaAndAccuracy M a)) p) (hpq : p * 2 ^ E = q * 2 ^ t)
    (hr : Near q r) : roundWithAccuracy binary64 s M E a = carried s r t := by
  have hshift : t = E + shift M E := by
    rw [shift, ht]
    omega
  have hshifted : p / 2 ^ shift M E = q := by
    have hpow : (2 : ℚ) ^ E ≠ 0 := by positivity
    rw [hshift, zpow_add₀ two_ne_zero, zpow_natCast, ← mul_assoc, mul_right_comm] at hpq
    rw [div_eq_iff (by positivity)]
    exact mul_right_cancel₀ hpow hpq
  have hrounded := roundedMantissa_of_near (hshifted ▸ weighs_shiftRight hp (shift M E)) hr
  rw [roundWithAccuracy_eq s (hE.trans_eq ht.symm), hrounded, ht]

section

variable {M m : ℕ} {E e : ℤ} {p q : ℚ}

/-- A number that is not below the double's binade is kept at its exponent. -/
theorem target_of_binade (hlow : (M : ℚ) ≤ p) (hhigh : p < M + 1) (hE : E ≤ target M E)
    (hpq : p * 2 ^ E = q * 2 ^ e) (he : -1074 ≤ e) (hsize : q < 2 ^ 53)
    (hcase : e = -1074 ∨ 2 ^ 52 ≤ q) : target M E = e := by
  have hpow : (0 : ℚ) < 2 ^ e := by positivity
  refine le_antisymm (target_le hlow hE he ?_) ?_
  · rw [hpq, zpow_add₀ two_ne_zero]
    exact mul_lt_mul_of_pos_right (by exact_mod_cast hsize) hpow
  · rcases hcase with hleast | hlarge
    · exact hleast.trans_le (le_target M E)
    · refine le_target_of_le hhigh ?_
      rw [hpq, zpow_add₀ two_ne_zero]
      exact mul_le_mul_of_nonneg_right (by exact_mod_cast hlarge) hpow.le

/-- Just below a power of two the gaps are half as wide, and the number rounds up to it. -/
theorem near_below_power (hlarge : 4 * 2 ^ 52 - 1 ≤ 4 * q) (hsmall : q < 2 ^ 52) :
    Near (2 * q) (2 ^ 53) := by
  refine ⟨?_, Or.inl ?_⟩
  · refine (le_iff_lt_or_eq.mp ?_).imp id fun h => ⟨h.symm, by decide⟩
    norm_num at hlarge ⊢
    linarith
  · norm_num at hsmall ⊢
    linarith

end

theorem roundWithAccuracy_of_reaches (s : Sign) {m : ℕ} {e : ℤ} (hm : 0 < m)
    (hcanonical : target m e = e) {M : ℕ} {E : ℤ} {a : Accuracy} (hE : E ≤ target M E) {p q : ℚ}
    (hp : Weighs (weight (ofMantissaAndAccuracy M a)) p) (hpq : p * 2 ^ E = q * 2 ^ e)
    (hq : Reaches m e q) : roundWithAccuracy binary64 s M E a = .finite s m e hm := by
  obtain ⟨hlow, hhigh⟩ := mantissa_le_of_weighs hp
  rw [mantissa_ofMantissaAndAccuracy] at hlow hhigh
  rw [target_eq] at hcanonical
  have hbits : m < 2 ^ 53 := (Nat.log2_lt hm.ne').mp (by omega)
  have hupper := hq.2
  have hm' : (m : ℚ) + 1 ≤ 2 ^ 53 := by exact_mod_cast hbits
  have hsize : q < 2 ^ 53 := by
    push_cast at hupper
    rcases hupper with hupper | hupper <;> linarith
  by_cases hcase : e = -1074 ∨ 2 ^ 52 ≤ q
  · have htarget := target_of_binade hlow hhigh hE hpq (by omega) hsize hcase
    have hnear := near_of_reaches hm hq
    rw [roundWithAccuracy_of_near s htarget (hE.trans_eq htarget) hp hpq hnear, carried,
      if_neg hbits.ne, kept, dif_neg hm.ne']
  · -- the double is a power of two and the number below it, at the exponent below
    rw [not_or, not_le] at hcase
    obtain ⟨hleast, hsmall⟩ := hcase
    have hfull : 2 ^ 52 ≤ m := (Nat.le_log2 hm.ne').mp (by omega)
    obtain ⟨rfl, hlarge⟩ := eq_of_reaches_of_lt hfull (by omega) hq hsmall
    have hbelow : p * 2 ^ E = 2 * q * 2 ^ (e - 1) := by
      rw [hpq, zpow_sub_one₀ two_ne_zero]
      ring
    have htarget := target_of_binade hlow hhigh hE hbelow (by omega)
      (by norm_num at hsmall ⊢; linarith) (Or.inr (by norm_num at hlarge ⊢; linarith))
    rw [roundWithAccuracy_of_near s htarget (hE.trans_eq htarget) hp hbelow
      (near_below_power hlarge hsmall), carried, if_pos rfl, kept, dif_neg (by decide),
      Int.sub_add_cancel]

/-! ## Products and quotients that round to a given double -/

theorem mul_of_reaches {m n r : ℕ} {e f t : ℤ} (hm : 0 < m) (hn : 0 < n) (hr : 0 < r)
    (hcanonical : target r t = t) (hlow : e + f ≤ target (m * n) (e + f))
    (h : Reaches r t (m * 2 ^ e * (n * 2 ^ f) / 2 ^ t)) :
    UnpackedFloat.mul binary64 (.finite .positive m e hm) (.finite .positive n f hn) =
      .finite .positive r t hr := by
  refine roundWithAccuracy_of_reaches _ hr hcanonical hlow (weighs_whole (m * n)) ?_ h
  rw [div_mul_cancel₀ _ (by positivity), zpow_add₀ two_ne_zero]
  push_cast
  ring

theorem div_of_reaches {m n r : ℕ} {e f t : ℤ} (hm : 0 < m) (hn : 0 < n) (hr : 0 < r)
    (hcanonical : target r t = t) (h : Reaches r t (m * 2 ^ e / (n * 2 ^ f) / 2 ^ t)) :
    UnpackedFloat.div binary64 (.finite .positive m e hm) (.finite .positive n f hn) =
      .finite .positive r t hr := by
  rw [div_finite .positive .positive hm hn]
  refine roundWithAccuracy_of_reaches _ hr hcanonical (quotientExponent_le_target hm hn e f)
    (weighs_quotient _ hn) ?_ h
  have hshift : (quotientShift m e n f : ℤ) + quotientExponent m e n f = e - f := by
    rw [quotientShift, quotientExponent]
    omega
  have hpow : (2 : ℚ) ^ quotientShift m e n f * 2 ^ quotientExponent m e n f = 2 ^ e / 2 ^ f := by
    rw [← zpow_natCast, ← zpow_add₀ two_ne_zero, hshift, zpow_sub₀ two_ne_zero]
  rw [div_mul_cancel₀ _ (by positivity)]
  calc ((m * 2 ^ quotientShift m e n f : ℕ) : ℚ) / n * 2 ^ quotientExponent m e n f
      = m / n * (2 ^ quotientShift m e n f * 2 ^ quotientExponent m e n f) := by
        push_cast
        ring
    _ = m * 2 ^ e / (n * 2 ^ f) := by
        rw [hpow]
        ring

/-! ## Decimals -/

/-- Whether a number is ten to the power `i`, with a last place of at least `2 ^ -52`. -/
def isPowerOfTen (i : ℕ) : UnpackedFloat → Bool
  | .finite .positive n f _ => -52 ≤ f && n * 2 ^ (f + 52).toNat == 10 ^ i * 2 ^ 52
  | _ => false

theorem exists_unpack_power {i : ℕ} (h : i < Float.exactlyRepresentablePowersOfTen.size) :
    ∃ (n : ℕ) (f : ℤ) (hn : 0 < n), Float.exactlyRepresentablePowersOfTen[i].toModel.unpack =
      .finite .positive n f hn ∧ (n : ℚ) * 2 ^ f = 10 ^ i := by
  have hall : ∀ i : Fin 23,
      isPowerOfTen i Float.exactlyRepresentablePowersOfTen[i].toModel.unpack = true := by
    decide +kernel
  have hpower := hall ⟨i, h⟩
  rw [Fin.getElem_fin] at hpower
  cases hu : Float.exactlyRepresentablePowersOfTen[i].toModel.unpack with
  | finite s n f hn =>
    cases s with
    | positive =>
      simp only [hu, isPowerOfTen, Bool.and_eq_true, decide_eq_true_eq, beq_iff_eq] at hpower
      refine ⟨n, f, hn, rfl, ?_⟩
      have hvalue : (n : ℚ) * 2 ^ (f + 52).toNat = 10 ^ i * 2 ^ 52 := by exact_mod_cast hpower.2
      rw [← zpow_natCast, Int.toNat_of_nonneg (by omega), zpow_add₀ two_ne_zero, ← mul_assoc]
        at hvalue
      exact mul_right_cancel₀ (b := (2 : ℚ) ^ 52) (by positivity) (by exact_mod_cast hvalue)
    | negative =>
      rw [hu] at hpower
      cases hpower
  | _ =>
    rw [hu] at hpower
    cases hpower

theorem unpack_pack_finite {m : ℕ} {e : ℤ} (hm : 0 < m) (hcanonical : target m e = e)
    (hroom : e < 972) (s : Sign) :
    UnpackedFloat.unpack binary64 (UnpackedFloat.pack binary64 (.finite s m e hm)) =
      .finite s m e hm := by
  rw [unpack_pack (u := .finite s m e hm) hcanonical, capped, if_neg (by omega)]

/-- Digits far from the limits of doubles are not cut off. -/
theorem ofScientific_of_reaches {c m : ℕ} {k e : ℤ} (hc : 0 < c) (hk : k ≤ 2048)
    (hk' : -(2048 + c.log2) ≤ k) (hm : 0 < m) (hcanonical : target m e = e)
    (h : Reaches m e (c * 10 ^ k / 2 ^ e)) :
    UnpackedFloat.ofScientific binary64 c k = .finite .positive m e hm := by
  have hexponents : (2 : ℤ) ^ binary64.exponentBits = 2048 := by decide
  have hbits : binary64.mantissaBits = 53 := by decide
  rw [UnpackedFloat.ofScientific, dif_neg hc.ne', hexponents, if_neg (by omega), if_neg (by omega)]
  by_cases hsign : 0 ≤ k
  · obtain ⟨j, rfl⟩ := Int.eq_ofNat_of_zero_le hsign
    rw [if_pos hsign]
    have hcount : 0 < c * 2 ^ 53 := Nat.mul_pos hc (Nat.two_pow_pos 53)
    have hpower : 0 < 10 ^ j := Nat.pow_pos (by decide)
    have hlow : (-53 : ℤ) + 0 ≤ target (c * 2 ^ 53 * 10 ^ j) (-53 + 0) := by
      have hlarge : 2 ^ 53 ≤ c * 2 ^ 53 * 10 ^ j :=
        (Nat.le_mul_of_pos_left _ hc).trans (Nat.le_mul_of_pos_right _ hpower)
      have hlog := (Nat.le_log2 (Nat.mul_pos hcount hpower).ne').mpr hlarge
      rw [target_eq]
      generalize (c * 2 ^ 53 * 10 ^ j).log2 = l at hlog
      omega
    have hvalue : ((c * 2 ^ 53 : ℕ) : ℚ) * 2 ^ (-53 : ℤ) * ((10 ^ j : ℕ) * 2 ^ (0 : ℤ)) =
        c * 10 ^ (j : ℤ) := by
      rw [zpow_natCast]
      push_cast
      norm_num
      ring
    show UnpackedFloat.mul binary64 (.finite .positive (c <<< 53) (-53) _)
      (.finite .positive (10 ^ j) 0 _) = _
    simp only [Nat.shiftLeft_eq]
    refine mul_of_reaches hcount hpower hm hcanonical hlow ?_
    rwa [hvalue]
  · obtain ⟨j, rfl⟩ : ∃ j : ℕ, k = -j := ⟨(-k).toNat, by omega⟩
    rw [if_neg hsign]
    refine div_of_reaches _ _ hm hcanonical ?_
    have hvalue : (c : ℚ) * 2 ^ (0 : ℤ) / (((10 ^ (- -(j : ℤ)).toNat : ℕ) : ℚ) * 2 ^ (0 : ℤ)) =
        c * 10 ^ (-(j : ℤ)) := by
      rw [neg_neg, Int.toNat_natCast, zpow_neg, zpow_natCast, zpow_zero]
      push_cast
      ring
    rwa [hvalue]

theorem value_toFloat (c : ℕ) :
    ((c * 2 ^ (52 - c.log2) : ℕ) : ℚ) * 2 ^ (-((52 - c.log2 : ℕ) : ℤ)) = c := by
  rw [zpow_neg, zpow_natCast]
  push_cast
  exact mul_inv_cancel_right₀ (by positivity) _

/-- A natural number with zeros behind it. -/
theorem unpack_ofScientific_up {c m k : ℕ} {e : ℤ} (hc : 0 < c) (hk : k ≤ 2048) (hm : 0 < m)
    (hcanonical : target m e = e) (hroom : e < 972) (h : Reaches m e (c * 10 ^ k / 2 ^ e)) :
    (Float.ofScientific c false k).toModel.unpack = .finite .positive m e hm := by
  rw [Float.ofScientific]
  split
  · next hfast =>
    have hsize : k < Float.exactlyRepresentablePowersOfTen.size := Nat.lt_succ_of_le hfast.2
    obtain ⟨n, f, hn, hpower, hvalue⟩ := exists_unpack_power hsize
    have hcount := unpack_toFloat hc hfast.1
    have hpos : 0 < c * 2 ^ (52 - c.log2) := Nat.mul_pos hc (Nat.two_pow_pos _)
    have hlow := add_le_target hpos hn (unpack_eq_finite hcount).1 (unpack_eq_finite hpower).1
    have hread := mul_of_reaches hpos hn hm hcanonical hlow (by rwa [value_toFloat c, hvalue])
    show (c.toUInt64.toFloat * Float.exactlyRepresentablePowersOfTen[k]).toModel.unpack = _
    rw [unpack_mul, hcount, hpower, hread, capped, if_neg (by omega)]
  · have hread : UnpackedFloat.ofScientific binary64 c k = .finite .positive m e hm :=
      ofScientific_of_reaches hc (by omega) (by omega) hm hcanonical (by exact_mod_cast h)
    show UnpackedFloat.unpack binary64
      (UnpackedFloat.pack binary64 (UnpackedFloat.ofScientific binary64 c k)) = _
    rw [hread, unpack_pack_finite hm hcanonical hroom]

theorem unpack_ofScientific_down {c m k : ℕ} {e : ℤ} (hc : 0 < c) (hk : k ≤ 2048 + c.log2)
    (hm : 0 < m) (hcanonical : target m e = e) (hroom : e < 972)
    (h : Reaches m e (c / 10 ^ k / 2 ^ e)) :
    (Float.ofScientific c true k).toModel.unpack = .finite .positive m e hm := by
  rw [Float.ofScientific]
  split
  · next hfast =>
    have hsize : k < Float.exactlyRepresentablePowersOfTen.size := Nat.lt_succ_of_le hfast.2
    obtain ⟨n, f, hn, hpower, hvalue⟩ := exists_unpack_power hsize
    have hcount := unpack_toFloat hc hfast.1
    have hpos : 0 < c * 2 ^ (52 - c.log2) := Nat.mul_pos hc (Nat.two_pow_pos _)
    have hread := div_of_reaches hpos hn hm hcanonical (by rwa [value_toFloat c, hvalue])
    show UnpackedFloat.unpack binary64 (UnpackedFloat.pack binary64
      (UnpackedFloat.div binary64 c.toUInt64.toFloat.toModel.unpack
        Float.exactlyRepresentablePowersOfTen[k].toModel.unpack)) = _
    rw [hcount, hpower, hread, unpack_pack_finite hm hcanonical hroom]
  · have hread : UnpackedFloat.ofScientific binary64 c (Int.negOfNat k) =
        .finite .positive m e hm := by
      rw [Int.negOfNat_eq, Int.ofNat_eq_natCast]
      refine ofScientific_of_reaches hc (by omega) (by omega) hm hcanonical ?_
      rwa [zpow_neg, zpow_natCast, ← div_eq_mul_inv]
    show UnpackedFloat.unpack binary64
      (UnpackedFloat.pack binary64 (UnpackedFloat.ofScientific binary64 c (Int.negOfNat k))) = _
    rw [hread, unpack_pack_finite hm hcanonical hroom]

theorem bounds_of_reaches {m : ℕ} {e : ℤ} {q : ℚ} (hm : 0 < m) (hcanonical : target m e = e)
    (h : Reaches m e q) : 1 / 2 ≤ q ∧ q < 2 ^ 53 := by
  have hbits : m < 2 ^ 53 := by
    rw [target_eq] at hcanonical
    exact (Nat.log2_lt hm.ne').mp (by omega)
  have hm' : (m : ℚ) + 1 ≤ 2 ^ 53 := by exact_mod_cast hbits
  have hone : (1 : ℚ) ≤ m := by exact_mod_cast hm
  obtain ⟨hlower, hupper⟩ := near_of_reaches hm h
  constructor
  · rcases hlower with hlower | hlower <;> linarith
  · rcases hupper with hupper | hupper <;> linarith

/-- The number of digits places a number between two powers of ten. -/
theorem le_count_lt {c : ℕ} (hc : 0 < c) :
    10 ^ ((Nat.toDigits 10 c).length - 1) ≤ c ∧ c < 10 ^ (Nat.toDigits 10 c).length := by
  have hlength : 0 < (Nat.toDigits 10 c).length := Nat.length_toDigits_pos
  refine ⟨?_, (Nat.length_toDigits_le_iff (by decide) hlength).mp le_rfl⟩
  by_cases hone : (Nat.toDigits 10 c).length = 1
  · rw [hone]
    exact hc
  · have hiff := Nat.length_toDigits_le_iff (n := c) (k := (Nat.toDigits 10 c).length - 1)
      (b := 10) (by decide) (by omega)
    omega

theorem le_decimal_lt {c : ℕ} (hc : 0 < c) (k : ℤ) :
    (10 : ℚ) ^ ((Nat.toDigits 10 c).length + k - 1) ≤ c * 10 ^ k ∧
      (c : ℚ) * 10 ^ k < 10 ^ ((Nat.toDigits 10 c).length + k) := by
  have hlength : 0 < (Nat.toDigits 10 c).length := Nat.length_toDigits_pos
  obtain ⟨hlow, hhigh⟩ := le_count_lt hc
  generalize (Nat.toDigits 10 c).length = n at *
  have hpow : (0 : ℚ) < 10 ^ k := by positivity
  have hexponent : (n : ℤ) + k - 1 = (n - 1 : ℕ) + k := by omega
  constructor
  · rw [hexponent, zpow_add₀ (by norm_num), zpow_natCast]
    exact mul_le_mul_of_nonneg_right (by exact_mod_cast hlow) hpow.le
  · rw [zpow_add₀ (by norm_num), zpow_natCast]
    exact mul_lt_mul_of_pos_right (by exact_mod_cast hhigh) hpow

/-! Doubles lie well within the powers of ten at which digits are cut off. -/

theorem double_le_power_of_ten {e : ℤ} (hroom : e < 972) :
    (2 : ℚ) ^ 53 * 2 ^ e ≤ 10 ^ (309 : ℤ) := by
  have hnat : 2 ^ 1024 ≤ 10 ^ 309 := by decide +kernel
  calc (2 : ℚ) ^ 53 * 2 ^ e = 2 ^ (53 + e) := by
        rw [zpow_add₀ two_ne_zero, zpow_ofNat]
    _ ≤ 2 ^ (1024 : ℤ) := zpow_le_zpow_right₀ one_le_two (by omega)
    _ ≤ 10 ^ (309 : ℤ) := by exact_mod_cast hnat

theorem power_of_ten_le_half {e : ℤ} (hleast : -1074 ≤ e) :
    (10 : ℚ) ^ (-324 : ℤ) ≤ 1 / 2 * 2 ^ e := by
  have hnat : 2 ^ 1075 ≤ 10 ^ 324 := by decide +kernel
  calc (10 : ℚ) ^ (-324 : ℤ) ≤ 2 ^ (-1075 : ℤ) := by
        rw [zpow_neg, zpow_neg]
        exact inv_anti₀ (by positivity) (by exact_mod_cast hnat)
    _ ≤ 2 ^ (e - 1) := zpow_le_zpow_right₀ one_le_two (by omega)
    _ = 1 / 2 * 2 ^ e := by
        rw [zpow_sub_one₀ two_ne_zero]
        ring

/-- A decimal in the interval around a double is read as that double. -/
theorem unpack_nearest {c m : ℕ} {k e : ℤ} (hc : 0 < c) (hm : 0 < m) (hcanonical : target m e = e)
    (hroom : e < 972) (h : Reaches m e (c * 10 ^ k / 2 ^ e)) :
    (Decimal.nearest c k).toModel.unpack = .finite .positive m e hm := by
  obtain ⟨hlow, hhigh⟩ := le_decimal_lt hc k
  obtain ⟨hqlow, hqhigh⟩ := bounds_of_reaches hm hcanonical h
  have hpow : (0 : ℚ) < 2 ^ e := by positivity
  rw [le_div_iff₀ hpow] at hqlow
  rw [div_lt_iff₀ hpow] at hqhigh
  have hleast : -1074 ≤ e := hcanonical ▸ le_target m e
  have hupper : ((Nat.toDigits 10 c).length : ℤ) + k - 1 < 309 :=
    (zpow_lt_zpow_iff_right₀ (by norm_num)).mp
      (hlow.trans_lt (hqhigh.trans_le (double_le_power_of_ten hroom)))
  have hlower : -324 < ((Nat.toDigits 10 c).length : ℤ) + k :=
    (zpow_lt_zpow_iff_right₀ (by norm_num)).mp
      ((power_of_ten_le_half hleast).trans_lt (hqlow.trans_lt hhigh))
  have hdigits : (Nat.toDigits 10 c).length ≤ c.log2 + 1 := by
    refine (Nat.length_toDigits_le_iff (by decide) (Nat.succ_pos _)).mpr ?_
    exact Nat.lt_log2_self.trans_le (Nat.pow_le_pow_left (by decide) _)
  have hlength : 0 < (Nat.toDigits 10 c).length := Nat.length_toDigits_pos
  rw [Decimal.nearest, if_neg hc.ne', if_neg (by omega), if_neg (by omega)]
  by_cases hsign : 0 ≤ k
  · obtain ⟨j, rfl⟩ := Int.eq_ofNat_of_zero_le hsign
    rw [if_pos hsign]
    rw [zpow_natCast] at h
    exact unpack_ofScientific_up hc (by omega) hm hcanonical hroom h
  · obtain ⟨j, rfl⟩ : ∃ j : ℕ, k = -j := ⟨(-k).toNat, by omega⟩
    rw [if_neg hsign, neg_neg, Int.toNat_natCast]
    rw [zpow_neg, zpow_natCast, ← div_eq_mul_inv] at h
    exact unpack_ofScientific_down hc (by omega) hm hcanonical hroom h

end Double
end Motif
