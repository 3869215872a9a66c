import Mathlib
import Motif.Decimal.Numeral
import Motif.Proofs.Stops
import Motif.Timestamp

/-!
Digits read back.  What is read from decimal digits is the number that they stand for, and both ways
of writing a number, with as many digits as it needs or with a fixed count of them, give it back.
-/

namespace Motif
namespace Decimal

/-! ## Decimal digits -/

/-- Decimal digits and nothing else. -/
def AllDigits (s : List Char) : Prop := ∀ c ∈ s, isDigit c = true

theorem AllDigits.append {s t : List Char} (hs : AllDigits s) (ht : AllDigits t) :
    AllDigits (s ++ t) := fun c hc => (List.mem_append.mp hc).elim (hs c) (ht c)

theorem AllDigits.take {s : List Char} (h : AllDigits s) (n : Nat) : AllDigits (s.take n) :=
  fun c hc => h c (List.mem_of_mem_take hc)

theorem AllDigits.drop {s : List Char} (h : AllDigits s) (n : Nat) : AllDigits (s.drop n) :=
  fun c hc => h c (List.mem_of_mem_drop hc)

theorem isDigit_digitChar {n : Nat} (h : n < 10) : isDigit (Nat.digitChar n) = true :=
  (Nat.isDigit_digitChar (n := n)).trans (decide_eq_true h)

theorem allDigits_toDigits (n : Nat) : AllDigits (Nat.toDigits 10 n) := fun _ hc =>
  Nat.isDigit_of_mem_toDigits (by decide) (by decide) hc

theorem allDigits_zeros (n : Nat) : AllDigits (List.replicate n '0') := fun c hc => by
  rw [List.eq_of_mem_replicate hc]
  rfl

/-- The number that decimal digits stand for. -/
def ofDigits (s : List Char) : Nat := Nat.ofDigitChars 10 s 0

theorem ofDigits_append (s t : List Char) :
    ofDigits (s ++ t) = 10 ^ t.length * ofDigits s + ofDigits t := by
  rw [ofDigits, Nat.ofDigitChars_append, Nat.ofDigitChars_eq_ofDigitChars_zero]
  rfl

theorem ofDigits_toDigits (n : Nat) : ofDigits (Nat.toDigits 10 n) = n :=
  Nat.ofDigitChars_ten_toDigits

theorem ofDigits_zeros (n : Nat) : ofDigits (List.replicate n '0') = 0 := by
  rw [ofDigits, Nat.ofDigitChars_replicate_zero, Nat.mul_zero]

theorem ofDigits_singleton {n : Nat} (h : n < 10) : ofDigits [Nat.digitChar n] = n := by
  rw [ofDigits, Nat.ofDigitChars_cons_digitChar_of_lt_ten h, Nat.ofDigitChars_nil]
  omega

theorem digitValue?_of_isDigit {c : Char} (h : isDigit c = true) :
    digitValue? c = some (c.toNat - '0'.toNat) ∧ c.toNat - '0'.toNat < 10 := by
  rw [isDigit, Bool.and_eq_true, decide_eq_true_eq, decide_eq_true_eq] at h
  refine ⟨by rw [digitValue?, if_pos h], ?_⟩
  have hlast : c.toNat ≤ '9'.toNat := h.2
  have hnine : '9'.toNat = '0'.toNat + 9 := rfl
  omega

/-- One more digit behind the number read so far. -/
def readDigit (base : Nat) (acc : Option Nat) (c : Char) : Option Nat :=
  match acc, digitValue? c with
  | some n, some d => if d < base then some (n * base + d) else none
  | _, _ => none

theorem natOfDigits?_eq_foldl {s : List Char} (hs : s ≠ []) (base : Nat) :
    natOfDigits? base s = s.foldl (readDigit base) (some 0) :=
  if_neg (by simpa using hs)

theorem readDigit_of_isDigit {c : Char} (h : isDigit c = true) (n : Nat) :
    readDigit 10 (some n) c = some (n * 10 + (c.toNat - '0'.toNat)) := by
  obtain ⟨hvalue, hlt⟩ := digitValue?_of_isDigit h
  simp only [readDigit, hvalue, hlt, if_true]

theorem natOfDigits?_eq {s : List Char} (hs : s ≠ []) (h : AllDigits s) :
    natOfDigits? 10 s = some (ofDigits s) := by
  -- the number read so far is carried along
  have hfold (t : List Char) (ht : AllDigits t) (n : Nat) :
      t.foldl (readDigit 10) (some n) = some (Nat.ofDigitChars 10 t n) := by
    induction t generalizing n with
    | nil => rfl
    | cons c rest ih =>
      rw [List.foldl_cons, Nat.ofDigitChars_cons, Nat.mul_comm 10,
        readDigit_of_isDigit (ht c List.mem_cons_self)]
      exact ih (fun d hd => ht d (List.mem_cons_of_mem c hd)) _
  rw [natOfDigits?_eq_foldl hs]
  exact hfold s h 0

theorem natOfDigits?_toDigits (n : Nat) : natOfDigits? 10 (Nat.toDigits 10 n) = some n := by
  rw [natOfDigits?_eq Nat.toDigits_ne_nil (allDigits_toDigits n), ofDigits_toDigits]

end Decimal

/-! ## A fixed count of digits -/

namespace Timestamp

open Decimal

theorem length_padded (n count : Nat) : (padded n count).length = count := by
  induction count generalizing n with
  | zero => rfl
  | succ count ih => rw [padded, List.length_append, ih, List.length_singleton]

theorem allDigits_padded (n count : Nat) : AllDigits (padded n count) := by
  induction count generalizing n with
  | zero => exact fun c hc => absurd hc List.not_mem_nil
  | succ count ih =>
    refine (ih (n / 10)).append fun c hc => ?_
    rw [List.mem_singleton.mp hc]
    exact isDigit_digitChar (Nat.mod_lt n (by decide))

theorem ofDigits_padded {n count : Nat} (h : n < 10 ^ count) : ofDigits (padded n count) = n := by
  induction count generalizing n with
  | zero =>
    rw [Nat.lt_one_iff.mp h]
    rfl
  | succ count ih =>
    have hhigh : n / 10 < 10 ^ count := by
      rw [Nat.pow_succ] at h
      omega
    rw [padded, ofDigits_append, ih hhigh, ofDigits_singleton (Nat.mod_lt n (by decide)),
      List.length_singleton]
    omega

end Timestamp
end Motif
