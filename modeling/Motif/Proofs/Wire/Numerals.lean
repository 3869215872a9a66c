import Motif.Json.Printer
import Motif.Json.Reader
import Motif.Proofs.Double.Parts
import Motif.Proofs.Double.Shortest
import Motif.Proofs.Wire.Digits

/-!
Numerals read back.  The text of a fraction has digits, places after a point and an exponent, of
which one of the last two may be missing.  Whatever the style makes of the shortest digits of a
double, its parts stand for the same number, and so it is read as that double.
-/

namespace Motif
namespace Decimal

theorem readDigit_eq_none {base : Nat} {c : Char} (h : ∀ d ∈ digitValue? c, base ≤ d)
    (acc : Option Nat) : readDigit base acc c = none := by
  rw [readDigit.eq_def]
  split
  · next n d hd => exact if_neg (Nat.not_lt.mpr (h d hd))
  · rfl

/-- Reading digits stops at a character that is no digit of the base. -/
theorem natOfDigits?_eq_none {base : Nat} {s : List Char} {c : Char} (hc : c ∈ s)
    (h : ∀ d ∈ digitValue? c, base ≤ d) : natOfDigits? base s = none := by
  rw [natOfDigits?_eq_foldl (List.ne_nil_of_mem hc)]
  -- either the character is still to come, or the reading has failed already
  suffices hfold : ∀ acc : Option Nat, (c ∈ s ∨ acc = none) → s.foldl (readDigit base) acc = none
    from hfold (some 0) (Or.inl hc)
  clear hc
  induction s with
  | nil => exact fun acc hacc => hacc.resolve_left List.not_mem_nil
  | cons d rest ih =>
    intro acc hacc
    rw [List.foldl_cons]
    refine ih _ ?_
    rcases hacc with hmem | rfl
    · rcases List.mem_cons.mp hmem with rfl | hmem
      · exact Or.inr (readDigit_eq_none h acc)
      · exact Or.inl hmem
    · exact Or.inr rfl

theorem toList_toString_of_nonneg {i : Int} (h : 0 ≤ i) :
    (toString i).toList = Nat.toDigits 10 i.toNat := by
  rw [Int.toString_eq_repr, Int.repr_eq_if, if_pos h, Nat.toList_repr]

theorem toList_toString_of_neg {i : Int} (h : ¬0 ≤ i) :
    (toString i).toList = '-' :: Nat.toDigits 10 (-i).toNat := by
  rw [Int.toString_eq_repr, Int.repr_eq_if, if_neg h, String.toList_append, Nat.toList_repr]
  rfl

/-- The text starts with a digit, so it has no sign. -/
def Unsigned (s : List Char) : Prop := ∃ c t, s = c :: t ∧ isDigit c = true

theorem unsigned_of_allDigits {s : List Char} (h : AllDigits s) (hne : s ≠ []) : Unsigned s := by
  obtain ⟨c, t, rfl⟩ := List.exists_cons_of_ne_nil hne
  exact ⟨c, t, rfl, h c List.mem_cons_self⟩

theorem Unsigned.append {s : List Char} (h : Unsigned s) (t : List Char) : Unsigned (s ++ t) := by
  obtain ⟨c, u, rfl, hc⟩ := h
  exact ⟨c, u ++ t, rfl, hc⟩

theorem Unsigned.ne {s : List Char} (h : Unsigned s) {d : Char} (hd : isDigit d = false)
    (t : List Char) : s ≠ d :: t := by
  obtain ⟨c, u, rfl, hc⟩ := h
  intro heq
  rw [(List.cons.inj heq).1, hd] at hc
  exact Bool.false_ne_true hc

theorem exponent?_toString (i : Int) : exponent? (toString i).toList = some i := by
  by_cases h : 0 ≤ i
  · have hunsigned := unsigned_of_allDigits (allDigits_toDigits i.toNat) Nat.toDigits_ne_nil
    rw [toList_toString_of_nonneg h, exponent?]
    · rw [natOfDigits?_toDigits, Option.map_some]
      exact congrArg some (Int.toNat_of_nonneg h)
    · exact hunsigned.ne (by decide)
    · exact hunsigned.ne (by decide)
  · rw [toList_toString_of_neg h, exponent?, natOfDigits?_toDigits]
    show some (-((-i).toNat : Int)) = some i
    congr 1
    omega

/-! ## The parts of a fraction's text -/

structure Parts where
  whole : List Char
  places : List Char
  power : Option Int

namespace Parts

def pointText (places : List Char) : List Char := if places = [] then [] else '.' :: places

def powerText : Option Int → List Char
  | none => []
  | some i => 'e' :: (toString i).toList

def text (p : Parts) : List Char := p.whole ++ (pointText p.places ++ powerText p.power)

/-- What is read in front of the power of ten. -/
def count (p : Parts) : Nat := ofDigits (p.whole ++ p.places)

def exponent (p : Parts) : Int := p.power.getD 0 - p.places.length

/-- The parts make up a fraction and not a whole number. -/
structure Proper (p : Parts) : Prop where
  whole_ne_nil : p.whole ≠ []
  allDigits_whole : AllDigits p.whole
  allDigits_places : AllDigits p.places
  fraction : p.places ≠ [] ∨ p.power.isSome

theorem stops_powerText (power : Option Int) : Stops isDigit (powerText power) := by
  cases power with
  | none => exact stops_nil
  | some i => exact stops_cons rfl _

theorem Proper.fraction?_text {p : Parts} (h : p.Proper) :
    fraction? p.text = some (nearest p.count p.exponent) := by
  obtain ⟨whole, places, power⟩ := p
  have hwhole : AllDigits whole := h.allDigits_whole
  have hplaces : AllDigits places := h.allDigits_places
  have hcount : natOfDigits? 10 (whole ++ places) = some (ofDigits (whole ++ places)) :=
    natOfDigits?_eq (List.append_ne_nil_of_left_ne_nil h.whole_ne_nil _) (hwhole.append hplaces)
  have hstops := stops_powerText power
  show fraction? (whole ++ (pointText places ++ powerText power)) =
    some (nearest (ofDigits (whole ++ places)) (power.getD 0 - places.length))
  rw [fraction?, pointText]
  by_cases hnone : places = []
  · subst hnone
    rw [if_pos rfl, List.nil_append, takeWhile_append_of_stops hwhole hstops,
      dropWhile_append_of_stops hwhole hstops]
    cases power with
    | none => simp only [powerText, hcount, Option.getD_none]
    | some i =>
      rw [List.append_nil] at hcount ⊢
      simp [powerText, hcount, exponent?_toString, -Int.toString_eq_repr]
  · rw [if_neg hnone, List.cons_append, takeWhile_append_of_stops hwhole (stops_cons rfl _),
      dropWhile_append_of_stops hwhole (stops_cons rfl _)]
    simp only [takeWhile_append_of_stops hplaces hstops, dropWhile_append_of_stops hplaces hstops,
      hcount]
    cases power with
    | none => rfl
    | some i => simp only [powerText, if_true, true_or, exponent?_toString, Option.getD_some]

end Parts

/-! ## The parts of a text of digits -/

/-- The digits stand for the same number in the text. -/
structure Shows (p : Parts) (d : Digits) : Prop extends p.Proper where
  value : (p.count : ℚ) * 10 ^ p.exponent = d.digits * 10 ^ d.exponent

theorem Shows.count_pos {p : Parts} {d : Digits} (h : Shows p d) (hd : 0 < d.digits) :
    0 < p.count := by
  have hvalue : (0 : ℚ) < p.count * 10 ^ p.exponent := by
    rw [h.value]
    positivity
  exact Nat.cast_pos.mp (pos_of_mul_pos_left hvalue (by positivity))

def positionalParts (d : Digits) : Parts :=
  let digits := Nat.toDigits 10 d.digits
  let point : Int := digits.length + d.exponent
  if 0 ≤ d.exponent then ⟨digits ++ List.replicate d.exponent.toNat '0', ['0'], none⟩
  else if 0 < point then ⟨digits.take point.toNat, digits.drop point.toNat, none⟩
  else ⟨['0'], List.replicate (-point).toNat '0' ++ digits, none⟩

def scientificParts (d : Digits) : Parts :=
  let digits := Nat.toDigits 10 d.digits
  ⟨digits.take 1, digits.drop 1, some (digits.length + d.exponent - 1)⟩

theorem shows_positionalParts (d : Digits) : Shows (positionalParts d) d := by
  have hall := allDigits_toDigits d.digits
  have hzero : AllDigits ['0'] := allDigits_zeros 1
  have hread := ofDigits_toDigits d.digits
  have hlength : 0 < (Nat.toDigits 10 d.digits).length := Nat.length_toDigits_pos
  rw [positionalParts]
  generalize Nat.toDigits 10 d.digits = digits at *
  by_cases hwhole : 0 ≤ d.exponent
  · simp only [if_pos hwhole]
    refine ⟨⟨?_, hall.append (allDigits_zeros _), hzero, Or.inl (List.cons_ne_nil _ _)⟩, ?_⟩
    · exact List.append_ne_nil_of_left_ne_nil (List.length_pos_iff.mp hlength) _
    · obtain ⟨n, hn⟩ := Int.eq_ofNat_of_zero_le hwhole
      have hcount : ofDigits (digits ++ List.replicate d.exponent.toNat '0' ++ ['0']) =
          10 * (10 ^ n * d.digits) := by
        rw [ofDigits_append, ofDigits_append, ofDigits_zeros, List.length_replicate, hread, hn]
        rfl
      rw [Parts.count, hcount, hn]
      show _ * (10 : ℚ) ^ ((0 : Int) - 1) = _
      rw [zpow_natCast]
      push_cast
      norm_num
      ring
  by_cases hpoint : 0 < (digits.length : Int) + d.exponent
  · simp only [if_neg hwhole, if_pos hpoint]
    refine ⟨⟨?_, ?_, ?_, Or.inl ?_⟩, ?_⟩
    · exact List.ne_nil_of_length_pos (by rw [List.length_take]; omega)
    · exact hall.take _
    · exact hall.drop _
    · exact List.ne_nil_of_length_pos (by rw [List.length_drop]; omega)
    · rw [Parts.count, List.take_append_drop, hread, Parts.exponent, List.length_drop]
      congr 2
      show (0 : Int) - _ = _
      omega
  · simp only [if_neg hwhole, if_neg hpoint]
    refine ⟨⟨List.cons_ne_nil _ _, hzero, (allDigits_zeros _).append hall, Or.inl ?_⟩, ?_⟩
    · exact List.append_ne_nil_of_right_ne_nil _ (List.length_pos_iff.mp hlength)
    · rw [Parts.count, ofDigits_append, ofDigits_append, ofDigits_zeros, hread, Parts.exponent,
        List.length_append, List.length_replicate]
      have hnone : ofDigits ['0'] = 0 := ofDigits_zeros 1
      rw [hnone, Nat.mul_zero, Nat.mul_zero, Nat.zero_add, Nat.zero_add]
      congr 2
      show (0 : Int) - _ = _
      omega

theorem shows_scientificParts (d : Digits) : Shows (scientificParts d) d := by
  have hall := allDigits_toDigits d.digits
  have hread := ofDigits_toDigits d.digits
  have hlength : 0 < (Nat.toDigits 10 d.digits).length := Nat.length_toDigits_pos
  rw [scientificParts]
  generalize Nat.toDigits 10 d.digits = digits at *
  refine ⟨⟨?_, ?_, ?_, Or.inr rfl⟩, ?_⟩
  · exact List.ne_nil_of_length_pos (by rw [List.length_take]; omega)
  · exact hall.take _
  · exact hall.drop _
  · rw [Parts.count, List.take_append_drop, hread, Parts.exponent, List.length_drop]
    congr 2
    rw [Option.getD_some]
    omega

theorem toList_toString (n : Nat) : (toString n).toList = Nat.toDigits 10 n := Nat.toList_repr

theorem length_toString (n : Nat) : (toString n).length = (Nat.toDigits 10 n).length := by
  rw [← toList_toString, String.length_toList]

theorem toList_zeros (n : Nat) : (zeros n).toList = List.replicate n '0' := String.toList_ofList

theorem Parts.text_of_places (whole : List Char) {places : List Char} (h : places ≠ []) :
    Parts.text ⟨whole, places, none⟩ = whole ++ '.' :: places := by
  rw [Parts.text, Parts.pointText, if_neg h]
  exact congrArg (whole ++ ·) (List.append_nil _)

theorem toList_positional (d : Digits) : (positional ".0" d).toList = (positionalParts d).text := by
  have hlength : 0 < (Nat.toDigits 10 d.digits).length := Nat.length_toDigits_pos
  rw [positional, positionalParts]
  simp only [length_toString, toList_toString]
  generalize hdigits : Nat.toDigits 10 d.digits = digits at *
  split_ifs with hwhole hpoint
  · rw [Parts.text_of_places _ (List.cons_ne_nil _ _), String.toList_append, String.toList_append,
      toList_toString, toList_zeros, hdigits]
    rfl
  · have hplaces : digits.drop (digits.length + d.exponent).toNat ≠ [] :=
      List.ne_nil_of_length_pos (by rw [List.length_drop]; omega)
    simp only [Parts.text_of_places _ hplaces, String.toList_append, String.toList_ofList,
      List.append_assoc]
    rfl
  · have hplaces : List.replicate (-(digits.length + d.exponent)).toNat '0' ++ digits ≠ [] :=
      List.append_ne_nil_of_right_ne_nil _ (List.length_pos_iff.mp hlength)
    rw [Parts.text_of_places _ hplaces, String.toList_append, String.toList_append, toList_zeros,
      toList_toString, hdigits, List.append_assoc]
    rfl

theorem toList_scientific (d : Digits) : (scientific d).toList = (scientificParts d).text := by
  rw [scientific, scientificParts, Parts.text, Parts.pointText, Parts.powerText]
  simp only [toList_toString, String.toList_append, String.toList_ofList, List.append_assoc,
    List.isEmpty_iff]
  congr 1
  split
  · rfl
  · simp only [String.toList_append, String.toList_ofList]
    rfl

theorem exists_shows (d : Digits) :
    ∃ p : Parts, Shows p d ∧ (Json.numberStyle.digits d).toList = p.text := by
  rw [Style.digits]
  split
  · exact ⟨positionalParts d, shows_positionalParts d, toList_positional d⟩
  · exact ⟨scientificParts d, shows_scientificParts d, toList_scientific d⟩

end Decimal

/-! ## Numerals -/

namespace Json

open Decimal

/-- A numeral and the value that it is read as. -/
structure Numeral (s : List Char) (v : Json) : Prop where
  nonempty : s ≠ []
  chars : ∀ c ∈ s, isNumberChar c = true
  read : number? s = some v

theorem isNumberChar_of_isDigit {c : Char} (h : isDigit c = true) : isNumberChar c = true := by
  simp only [isNumberChar, h, Bool.true_or]

theorem numeral_int {n : Int} (h : 0 ≤ n) (h' : n ≤ Decimal.word64) :
    Numeral (toString n).toList (.int n) := by
  have hall := allDigits_toDigits n.toNat
  have hunsigned := unsigned_of_allDigits hall Nat.toDigits_ne_nil
  rw [toList_toString_of_nonneg h]
  refine ⟨Nat.toDigits_ne_nil, fun c hc => isNumberChar_of_isDigit (hall c hc), ?_⟩
  rw [number?]
  · simp only [natOfDigits?_toDigits, if_neg Bool.false_ne_true, Int.toNat_of_nonneg h]
    rw [if_pos (by omega)]
  · exact hunsigned.ne (by decide)

/-- The text of a fraction does not stand for a whole number. -/
theorem natOfDigits?_text {p : Parts} (h : p.Proper) : natOfDigits? 10 p.text = none := by
  rcases h.fraction with hplaces | hpower
  · refine natOfDigits?_eq_none (c := '.') ?_ fun d hd => by cases hd
    rw [Parts.text, Parts.pointText, if_neg hplaces]
    exact List.mem_append_right _ (List.mem_append_left _ List.mem_cons_self)
  · obtain ⟨i, hi⟩ := Option.isSome_iff_exists.mp hpower
    refine natOfDigits?_eq_none (c := 'e') ?_ fun d hd => by cases hd; decide
    rw [Parts.text, hi]
    exact List.mem_append_right _ (List.mem_append_right _ List.mem_cons_self)

theorem unsigned_text {p : Parts} (h : p.Proper) : Unsigned p.text :=
  (unsigned_of_allDigits h.allDigits_whole h.whole_ne_nil).append _

theorem number?_text {p : Parts} (h : p.Proper) :
    number? p.text = some (.float (nearest p.count p.exponent)) := by
  have hunsigned := unsigned_text h
  rw [number?]
  · rw [natOfDigits?_text h]
    simp only
    rw [signedFraction?]
    · rw [h.fraction?_text]
      rfl
    · exact hunsigned.ne (by decide)
    · exact hunsigned.ne (by decide)
  · exact hunsigned.ne (by decide)

theorem number?_opposite {p : Parts} (h : p.Proper) :
    number? ('-' :: p.text) = some (.float (-nearest p.count p.exponent)) := by
  rw [number?]
  simp only [natOfDigits?_text h]
  rw [signedFraction?, h.fraction?_text]
  rfl

theorem isNumberChar_text {p : Parts} (h : p.Proper) : ∀ c ∈ p.text, isNumberChar c = true := by
  have hdigits {s : List Char} (hs : AllDigits s) : ∀ c ∈ s, isNumberChar c = true := fun c hc =>
    isNumberChar_of_isDigit (hs c hc)
  have hcons {c : Char} {s : List Char} (hc : isNumberChar c = true)
      (hs : ∀ c ∈ s, isNumberChar c = true) : ∀ d ∈ c :: s, isNumberChar d = true :=
    List.forall_mem_cons.mpr ⟨hc, hs⟩
  rw [Parts.text, List.forall_mem_append, List.forall_mem_append]
  refine ⟨hdigits h.allDigits_whole, ?_, ?_⟩
  · rw [Parts.pointText]
    split
    · exact fun c hc => by cases hc
    · exact hcons rfl (hdigits h.allDigits_places)
  · cases p.power with
    | none => exact fun c hc => by cases hc
    | some i =>
      refine hcons rfl ?_
      by_cases hsign : 0 ≤ i
      · rw [toList_toString_of_nonneg hsign]
        exact hdigits (allDigits_toDigits _)
      · rw [toList_toString_of_neg hsign]
        exact hcons rfl (hdigits (allDigits_toDigits _))

/-- The sign in front of a fraction is read with it. -/
theorem numeral_signed {p : Parts} (h : p.Proper) (negative : Bool) :
    Numeral ((if negative then "-" else "").toList ++ p.text)
      (.float (if negative then -nearest p.count p.exponent else nearest p.count p.exponent)) := by
  have hchars := isNumberChar_text h
  cases negative with
  | false =>
    obtain ⟨c, t, htext, -⟩ := unsigned_text h
    exact ⟨htext ▸ List.cons_ne_nil c t, hchars, number?_text h⟩
  | true =>
    exact ⟨List.cons_ne_nil _ _, List.forall_mem_cons.mpr ⟨rfl, hchars⟩, number?_opposite h⟩

/-- A double with the sign of its text and the magnitude that is read. -/
theorem eq_signed {x y : Float} {u : Float.Model.UnpackedFloat} (s : Float.Model.UnpackedFloat.Sign)
    (hy : y.toModel.unpack = u)
    (hx : x.toModel.unpack = if s == .negative then u.neg else u) :
    (if s == .negative then -y else y) = x := by
  apply Double.eq_of_unpack_eq
  rw [hx, apply_ite (fun z : Float => z.toModel.unpack), Double.unpack_neg, hy]

theorem unpack_nearest_zero : (nearest 0 (-1)).toModel.unpack = .zero .positive := by
  rw [nearest, if_pos rfl]
  rfl

/-- The text of a finite double is a sign and the parts of a fraction that is read as its
magnitude. -/
theorem exists_magnitude {x : Float} (h : x.isFinite = true) :
    ∃ (negative : Bool) (p : Parts), p.Proper ∧
      (numberText x).toList = (if negative then "-" else "").toList ++ p.text ∧
        (if negative then -nearest p.count p.exponent else nearest p.count p.exponent) = x := by
  rw [numberText, if_pos h, Style.render, Double.shape_ofFloat]
  have hfinite : x.toModel.unpack.isFinite = true := h
  cases hx : x.toModel.unpack with
  | notANumber =>
    rw [hx] at hfinite
    cases hfinite
  | infinity s =>
    rw [hx] at hfinite
    cases hfinite
  | zero s =>
    refine ⟨s == .negative, ⟨['0'], ['0'], none⟩, ?_, ?_, ?_⟩
    · exact ⟨List.cons_ne_nil _ _, allDigits_zeros 1, allDigits_zeros 1,
        Or.inl (List.cons_ne_nil _ _)⟩
    · rw [Double.shapeOf]
      simp only
      rw [if_pos trivial, String.toList_append]
      rfl
    · refine eq_signed (u := .zero .positive) s unpack_nearest_zero ?_
      rw [hx]
      cases s <;> rfl
  | finite s m e hm =>
    obtain ⟨hcanonical, hroom⟩ := Double.unpack_eq_finite hx
    have hproper : Dyadic.Proper ⟨m, e⟩ := ⟨hm, hcanonical⟩
    have hyields := hproper.yields_shortest
    obtain ⟨p, hp, htext⟩ := exists_shows (Dyadic.shortest ⟨m, e⟩)
    refine ⟨s == .negative, p, hp.toProper, ?_, ?_⟩
    · rw [Double.shapeOf]
      simp only
      rw [if_neg hm.ne', String.toList_append, htext]
    · refine eq_signed (u := .finite .positive m e hm) s ?_ ?_
      · refine Double.unpack_nearest (hp.count_pos (hproper.digits_pos hyields)) hm hcanonical
          hroom ?_
        rw [hp.value]
        exact hyields
      · rw [hx]
        cases s <;> rfl

theorem numeral_float {x : Float} (h : x.isFinite = true) :
    Numeral (numberText x).toList (.float x) := by
  obtain ⟨negative, p, hp, htext, hx⟩ := exists_magnitude h
  rw [htext, ← hx]
  exact numeral_signed hp negative

end Json
end Motif
