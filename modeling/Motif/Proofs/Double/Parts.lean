import Motif.Decimal.Shortest
import Motif.Proofs.Double.Arithmetic

/-!
The sign, the mantissa and the exponent of a double, as its bits hold them and as its text needs
them.
-/

namespace Motif
namespace Double

open Float.Model Float.Model.UnpackedFloat Float.Model.Format

variable {x y : Float}

/-- Doubles with the same parts are the same. -/
theorem eq_of_unpack_eq (h : x.toModel.unpack = y.toModel.unpack) : x = y := by
  obtain ⟨⟨⟨b⟩, hb⟩⟩ := x
  obtain ⟨⟨⟨c⟩, hc⟩⟩ := y
  have hbits : b = c := (unpack_inj_of_valid hb hc).mp h
  subst hbits
  rfl

/-! ## What the bits hold -/

def storedBits (x : Float) : BitVec binary64.numBits := x.toModel.toBits.toBitVec

def storedMantissa (x : Float) : BitVec 52 := unpackMantissa (storedBits x)

def storedExponent (x : Float) : BitVec 11 := unpackExponent (storedBits x)

def storedSign (x : Float) : BitVec 1 := unpackSign (storedBits x)

theorem toNat_storedMantissa (x : Float) :
    (storedMantissa x).toNat = x.toBits.toNat % Nat.pow 2 52 := by
  rw [storedMantissa, unpackMantissa_def]
  exact BitVec.extractLsb'_toNat 0 52 _

theorem toNat_storedExponent (x : Float) :
    (storedExponent x).toNat = x.toBits.toNat / Nat.pow 2 52 % Nat.pow 2 11 := by
  rw [storedExponent, unpackExponent_def, BitVec.extractLsb'_toNat, Nat.shiftRight_eq_div_pow]
  rfl

theorem storedSign_eq_zero_iff (x : Float) : storedSign x = 0#1 ↔ x.toBits >>> 63 ≠ 1 := by
  have hbits : x.toBits.toNat < 2 ^ 64 := x.toBits.toNat_lt
  have hsign : (storedSign x).toNat = x.toBits.toNat / 2 ^ 63 % 2 := by
    rw [storedSign, unpackSign_def, BitVec.extractLsb'_toNat, Nat.shiftRight_eq_div_pow]
    rfl
  have htop : (x.toBits >>> 63).toNat = x.toBits.toNat / 2 ^ 63 := by
    rw [UInt64.toNat_shiftRight, Nat.shiftRight_eq_div_pow]
    rfl
  rw [← BitVec.toNat_inj, ne_eq, ← UInt64.toNat_inj, hsign, htop]
  show _ = 0 ↔ ¬_ = 1
  omega

theorem isNegative_eq (x : Float) :
    Decimal.isNegative x = (Sign.ofBitVec (storedSign x) == .negative) := by
  rw [Decimal.isNegative, Sign.ofBitVec]
  by_cases hzero : storedSign x = 0#1
  · rw [if_pos hzero, beq_eq_false_iff_ne.mpr ((storedSign_eq_zero_iff x).mp hzero)]
    rfl
  · rw [if_neg hzero, beq_iff_eq.mpr (not_not.mp (mt (storedSign_eq_zero_iff x).mpr hzero))]
    rfl

/-! ## The shape of a double -/

def shapeOf : UnpackedFloat → Decimal.Shape
  | .notANumber => .nan
  | .infinity s => .infinite (s == .negative)
  | .zero s => .finite (s == .negative) ⟨0, -1074⟩
  | .finite s m e _ => .finite (s == .negative) ⟨m, e⟩

/-- The text is made from the parts that the arithmetic works with. -/
theorem shape_ofFloat (x : Float) : Decimal.Shape.ofFloat x = shapeOf x.toModel.unpack := by
  have hmantissa : (storedMantissa x).toNat < 2 ^ 52 := BitVec.isLt _
  have hones : storedExponent x = -1#11 ↔ (storedExponent x).toNat = 2047 :=
    BitVec.toNat_inj.symm
  have hzero {n : ℕ} (b : BitVec n) : b = 0#n ↔ b.toNat = 0 := by
    rw [← BitVec.toNat_inj, BitVec.toNat_ofNat, Nat.zero_mod]
  rw [Decimal.Shape.ofFloat, isNegative_eq]
  simp only [← toNat_storedMantissa, ← toNat_storedExponent]
  show _ = shapeOf (UnpackedFloat.unpack binary64 x.toModel.toBits.toBitVec)
  rw [UnpackedFloat.unpack]
  show _ = shapeOf (if storedExponent x = -1#11 then
      if storedMantissa x = 0#52 then _ else _
    else if storedExponent x = 0#11 then if h : storedMantissa x = 0#52 then _ else _ else _)
  by_cases hlarge : storedExponent x = -1#11
  · rw [if_pos hlarge, if_pos (hones.mp hlarge)]
    by_cases hwhole : storedMantissa x = 0#52
    · rw [if_pos hwhole, if_pos ((hzero _).mp hwhole)]
      rfl
    · rw [if_neg hwhole, if_neg (mt (hzero _).mpr hwhole)]
      rfl
  rw [if_neg hlarge, if_neg (mt hones.mpr hlarge)]
  by_cases hsmall : storedExponent x = 0#11
  · have hleast : (storedExponent x).toNat = 0 := (hzero _).mp hsmall
    rw [if_pos hsmall, if_pos hleast]
    by_cases hnone : storedMantissa x = 0#52
    · rw [dif_pos hnone, (hzero _).mp hnone]
      rfl
    · rw [dif_neg hnone]
      show _ = Decimal.Shape.finite _ ⟨_, ((storedExponent x).toNat : ℤ) - 1075 + 1⟩
      rw [hleast]
      rfl
  · have hfull : (1#1 ++ storedMantissa x).toNat = 2 ^ 52 + (storedMantissa x).toNat := by
      rw [BitVec.toNat_append, ← Nat.shiftLeft_add_eq_or_of_lt hmantissa]
      rfl
    rw [if_neg hsmall, if_neg (mt (hzero _).mpr hsmall)]
    show _ = Decimal.Shape.finite _ ⟨(1#1 ++ storedMantissa x).toNat, _⟩
    rw [hfull]
    rfl

/-! ## The opposite -/

theorem unpack_neg (x : Float) : (-x).toModel.unpack = x.toModel.unpack.neg := by
  show UnpackedFloat.unpack binary64 (UnpackedFloat.pack binary64 x.toModel.unpack.neg) = _
  cases hx : x.toModel.unpack with
  | finite s m e hm =>
    obtain ⟨hcanonical, hroom⟩ := unpack_eq_finite hx
    rw [unpack_pack (u := UnpackedFloat.neg (.finite s m e hm)) hcanonical]
    exact if_neg (not_le.mpr hroom)
  | notANumber => exact unpack_pack (u := .notANumber) trivial
  | infinity s => exact unpack_pack (u := .infinity (-s)) trivial
  | zero s => exact unpack_pack (u := .zero (-s)) trivial

end Double
end Motif
