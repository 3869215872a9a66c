import Motif.Proofs.Wire.Digits
import Motif.Proofs.Wire.Records
import Motif.Timestamp.Reader
import Motif.Uuid

/-!
Identifiers and points in time read back from what is written of them.
-/

namespace Motif

/-! ## Identifiers -/

namespace Uuid

theorem ungrouped?_grouped {sizes : List Nat} {s : List Char} (h : sizes.sum ≤ s.length) :
    ungrouped? sizes (grouped sizes s) = some s := by
  induction sizes generalizing s with
  | nil => rfl
  | cons n sizes ih =>
    rw [List.sum_cons] at h
    have hlength : (s.take n).length = n := List.length_take_of_le (by omega)
    have hdrop : (s.take n ++ '-' :: grouped sizes (s.drop n)).drop n =
        '-' :: grouped sizes (s.drop n) := List.drop_left' hlength
    have htake : (s.take n ++ '-' :: grouped sizes (s.drop n)).take n = s.take n :=
      List.take_left' hlength
    have hrest : sizes.sum ≤ (s.drop n).length := by
      rw [List.length_drop]
      omega
    simp only [grouped, ungrouped?, hdrop, htake, ih hrest, Option.map_some, List.take_append_drop]

theorem length_grouped {sizes : List Nat} {s : List Char} (h : sizes.sum ≤ s.length) :
    (grouped sizes s).length = s.length + sizes.length := by
  induction sizes generalizing s with
  | nil => rfl
  | cons n sizes ih =>
    rw [List.sum_cons] at h
    have hrest : sizes.sum ≤ (s.drop n).length := by
      rw [List.length_drop]
      omega
    rw [grouped, List.length_append, List.length_cons, ih hrest, List.length_take, List.length_drop,
      List.length_cons]
    omega

theorem digit?_digitChar : ∀ d : Fin 16, digit? (digitChar d) = some d := by
  decide

theorem ofDigits?_digits (u : Uuid) : ofDigits? (u.digits.map digitChar) = some u := by
  have hdigits (ds : List (Fin 16)) : (ds.map digitChar).mapM digit? = some ds := by
    induction ds with
    | nil => rfl
    | cons d rest ih => simp [digit?_digitChar, ih]
  rw [ofDigits?, hdigits]
  exact dif_pos u.size

theorem parse?_render (u : Uuid) : parse? u.render = some u := by
  have hroom : groups.sum ≤ (u.digits.map digitChar).length := by
    rw [List.length_map, u.size]
    decide
  have hlength : (grouped groups (u.digits.map digitChar)).length = 36 := by
    rw [length_grouped hroom, List.length_map, u.size]
    rfl
  have hgroups := ungrouped?_grouped hroom
  simp only [parse?, render, String.toList_ofList, hlength, hgroups, Option.bind_some,
    ofDigits?_digits]
  rfl

end Uuid

/-! ## Points in time -/

namespace Timestamp

open Decimal

theorem not_isBlank_of_isDigit {c : Char} (h : isDigit c = true) : Text.isBlank c = false := by
  rw [isDigit, Bool.and_eq_true, decide_eq_true_eq, decide_eq_true_eq] at h
  have hlow : '0'.toNat ≤ c.toNat := h.1
  have hhigh : c.toNat ≤ '9'.toNat := h.2
  have hzero : '0'.toNat = 48 := rfl
  have hnine : '9'.toNat = 57 := rfl
  have hspace : c ≠ ' ' := by
    rintro rfl
    exact absurd hlow (by decide)
  rw [Text.isBlank, if_pos (by omega)]
  simp only [beq_eq_false_iff_ne.mpr hspace, Bool.false_or, Bool.and_eq_false_iff,
    decide_eq_false_iff_not]
  omega

theorem trimStart_of_not_blank {c : Char} (h : Text.isBlank c = false) (rest : List Char) :
    Text.trimStart (c :: rest) = c :: rest :=
  List.dropWhile_cons_of_neg (by simp [h])

theorem trimStart_digits {s : List Char} (hs : s ≠ []) (h : AllDigits s) (rest : List Char) :
    Text.trimStart (s ++ rest) = s ++ rest := by
  cases s with
  | nil => exact absurd rfl hs
  | cons c s =>
    exact trimStart_of_not_blank (not_isBlank_of_isDigit (h c List.mem_cons_self)) (s ++ rest)

theorem digits?_append {most : Nat} {s rest : List Char} (hs : s ≠ []) (h : AllDigits s)
    (hmost : s.length ≤ most) (hrest : Stops isDigit rest) :
    digits? most (s ++ rest) = some (ofDigits s, rest) := by
  have hstops : Stops isDigit (rest.take (most - s.length)) := by
    intro c hc
    cases rest with
    | nil => simp at hc
    | cons d rest =>
      cases hroom : most - s.length with
      | zero => simp [hroom] at hc
      | succ n =>
        rw [hroom] at hc
        exact hrest c hc
  have hdigits : ((s ++ rest).take most).takeWhile isDigit = s := by
    rw [List.take_append, List.take_of_length_le hmost, takeWhile_append_of_stops h hstops]
  simp only [digits?, hdigits, natOfDigits?_eq hs h, Option.map_some, List.drop_left]

theorem padded_ne_nil (n : Nat) {count : Nat} (h : 0 < count) : padded n count ≠ [] :=
  List.ne_nil_of_length_pos (by rwa [length_padded])

theorem number?_padded {n : Nat} (h : n < 100) {rest : List Char} (hrest : Stops isDigit rest) :
    number? (padded n 2 ++ rest) = some (n, rest) := by
  have hne := padded_ne_nil n Nat.two_pos
  have hdigits := allDigits_padded n 2
  rw [number?, trimStart_digits hne hdigits,
    digits?_append hne hdigits (length_padded n 2).le hrest, ofDigits_padded h]

theorem behind?_padded {mark : Char} (hmark : Text.isBlank mark = false) {n : Nat} (h : n < 100)
    {rest : List Char} (hrest : Stops isDigit rest) :
    behind? mark (mark :: (padded n 2 ++ rest)) = some (n, rest) := by
  rw [behind?, trimStart_of_not_blank hmark]
  exact (if_pos rfl).trans (number?_padded h hrest)

theorem isDigit_of_append_eq {s rest t : List Char} {c : Char} (hs : s ≠ []) (h : AllDigits s)
    (heq : s ++ rest = c :: t) : isDigit c = true := by
  cases s with
  | nil => exact absurd rfl hs
  | cons d s =>
    rw [List.cons_append, List.cons.injEq] at heq
    exact heq.1 ▸ h d List.mem_cons_self

theorem year?_year (y : Int) {rest : List Char} (hrest : Stops isDigit rest) :
    year? (year y ++ rest) = some (y, rest) := by
  rw [year]
  by_cases hy : 0 ≤ y ∧ y ≤ 9999
  · have hdigits := allDigits_padded y.toNat 4
    have hne := padded_ne_nil y.toNat (show 0 < 4 by decide)
    have hvalue : ofDigits (padded y.toNat 4) = y.toNat := ofDigits_padded (by omega)
    rw [if_pos hy, year?, trimStart_digits hne hdigits]
    split
    · next t heq => exact absurd (isDigit_of_append_eq hne hdigits heq) (by decide)
    · next t heq => exact absurd (isDigit_of_append_eq hne hdigits heq) (by decide)
    · rw [digits?_append hne hdigits (length_padded _ 4).le hrest, hvalue]
      exact congrArg (fun n => some (n, rest)) (Int.toNat_of_nonneg hy.1)
  · let count := max 4 (Nat.toDigits 10 y.natAbs).length
    have hcount : 0 < count := by omega
    have hvalue : ofDigits (padded y.natAbs count) = y.natAbs :=
      ofDigits_padded ((Nat.length_toDigits_le_iff (by decide) hcount).mp (le_max_right _ _))
    have hread : digits? (padded y.natAbs count ++ rest).length (padded y.natAbs count ++ rest) =
        some (y.natAbs, rest) := by
      rw [digits?_append (padded_ne_nil _ hcount) (allDigits_padded _ _) (by simp) hrest, hvalue]
    rw [if_neg hy]
    by_cases hneg : y < 0
    · rw [if_pos hneg, year?, List.cons_append, trimStart_of_not_blank (by decide)]
      simp only [count] at hread
      simp only [hread, Option.map_some, Option.some.injEq, Prod.mk.injEq, and_true]
      omega
    · rw [if_neg hneg, year?, List.cons_append, trimStart_of_not_blank (by decide)]
      simp only [count] at hread
      simp only [hread, Option.map_some, Option.some.injEq, Prod.mk.injEq, and_true]
      omega

/-- Places of a fraction, filled up to nanoseconds. -/
theorem nanosOf_padded {n count : Nat} (hn : n < 10 ^ count) (hcount : 0 < count)
    (hmost : count ≤ 9) : nanosOf (padded n count) = some (n * 10 ^ (9 - count)) := by
  have hlength : (padded n count).length = count := length_padded n count
  have htake : (padded n count ++ List.replicate 9 '0').take 9 =
      padded n count ++ List.replicate (9 - count) '0' := by
    rw [List.take_append, hlength, List.take_of_length_le (by omega), List.take_replicate]
    congr 2
    omega
  have hne : padded n count ++ List.replicate (9 - count) '0' ≠ [] :=
    List.append_ne_nil_of_left_ne_nil (padded_ne_nil n hcount) _
  rw [nanosOf, htake, natOfDigits?_eq hne ((allDigits_padded n count).append (allDigits_zeros _)),
    ofDigits_append, ofDigits_padded hn, ofDigits_zeros, List.length_replicate, Nat.add_zero,
    Nat.mul_comm]

theorem fraction?_padded {n count : Nat} (hn : n < 10 ^ count) (hcount : 0 < count)
    (hmost : count ≤ 9) {rest : List Char} (hrest : Stops isDigit rest) :
    fraction? ('.' :: (padded n count ++ rest)) = some (n * 10 ^ (9 - count), rest) := by
  have hplaces : (padded n count ++ rest).takeWhile isDigit = padded n count :=
    takeWhile_append_of_stops (allDigits_padded n count) hrest
  have hempty : (padded n count).isEmpty = false := by
    simpa using padded_ne_nil n hcount
  simp only [fraction?, hplaces, hempty, nanosOf_padded hn hcount hmost, Option.map_some,
    List.drop_left]
  rfl

theorem fraction?_fraction {n : Nat} (h : n < 1000000000) {rest : List Char}
    (hrest : Stops isDigit rest) (hpoint : rest.head? ≠ some '.') :
    fraction? (fraction n ++ rest) = some (n, rest) := by
  rw [fraction]
  by_cases hzero : n = 0
  · rw [if_pos hzero, List.nil_append, hzero, fraction?]
    intro t ht
    exact hpoint (ht ▸ rfl)
  by_cases hmilli : n % 1000000 = 0
  · rw [if_neg hzero, if_pos hmilli, List.cons_append,
      fraction?_padded (by omega) (by decide) (by decide) hrest]
    congr 2
    omega
  by_cases hmicro : n % 1000 = 0
  · rw [if_neg hzero, if_neg hmilli, if_pos hmicro, List.cons_append,
      fraction?_padded (by omega) (by decide) (by decide) hrest]
    congr 2
    omega
  · rw [if_neg hzero, if_neg hmilli, if_neg hmicro, List.cons_append,
      fraction?_padded (by omega) (by decide) (by decide) hrest]
    congr 2
    omega

theorem stops_fraction (n : Nat) {rest : List Char} (hrest : Stops isDigit rest) :
    Stops isDigit (fraction n ++ rest) := by
  rw [fraction]
  split
  · exact hrest
  · split
    · exact stops_cons (by decide) _
    · split <;> exact stops_cons (by decide) _

theorem minus_zero {m : Minute} (h : m.isValid = true) : m.minus 0 = m := by
  obtain ⟨date, hour, minute⟩ := m
  simp only [Minute.isValid, Bool.and_eq_true, decide_eq_true_eq] at h
  have htime : ((hour * 60 + minute - 0 : ℤ)).toNat = hour * 60 + minute := by omega
  simp only [Minute.minus, htime]
  rw [if_neg (by omega), if_pos (by omega), Minute.mk.injEq]
  exact ⟨rfl, by omega, by omega⟩

theorem monthLength_le (year : Int) (month : Nat) : Date.monthLength year month ≤ 31 := by
  rw [Date.monthLength]
  split
  · split <;> decide
  · split <;> decide

theorem parse?_render (t : Timestamp) : parse? t.render = some t := by
  obtain ⟨⟨⟨y, month, day⟩, hour, minute⟩, second, nanos, hvalid⟩ := t
  have hparts := hvalid
  rw [Bool.and_eq_true, Bool.and_eq_true] at hparts
  obtain ⟨⟨hclock, hsecond⟩, hnanos⟩ := hparts
  have hvalidClock := hclock
  have hminus := minus_zero hclock
  simp only [Minute.isValid, Date.isValid, Bool.and_eq_true, decide_eq_true_eq] at hclock
  rw [decide_eq_true_eq] at hsecond hnanos
  obtain ⟨⟨⟨⟨⟨-, hmonth⟩, -⟩, hday⟩, hhour⟩, hminute⟩ := hclock
  have hlength := monthLength_le y month
  -- the text from each of its marks on
  let zone := ['Z']
  let places := fraction nanos ++ zone
  let seconds := ':' :: (padded second 2 ++ places)
  let minutes := ':' :: (padded minute 2 ++ seconds)
  let hours := padded hour 2 ++ minutes
  let days := '-' :: (padded day 2 ++ 'T' :: hours)
  let months := '-' :: (padded month 2 ++ days)
  have hrender : (render ⟨⟨⟨y, month, day⟩, hour, minute⟩, second, nanos, hvalid⟩).toList =
      year y ++ months := by
    simp only [render, String.toList_ofList, List.append_assoc, List.cons_append, months, days,
      hours, minutes, seconds, places, zone]
  have hyear : year? (year y ++ months) = some (y, months) :=
    year?_year y (stops_cons (by decide) _)
  have hmonths : behind? '-' months = some (month, days) :=
    behind?_padded (by decide) (by omega) (stops_cons (by decide) _)
  have hdays : behind? '-' days = some (day, 'T' :: hours) :=
    behind?_padded (by decide) (by omega) (stops_cons (by decide) _)
  have hhours : number? hours = some (hour, minutes) :=
    number?_padded (by omega) (stops_cons (by decide) _)
  have hminutes : behind? ':' minutes = some (minute, seconds) :=
    behind?_padded (by decide) (by omega) (stops_cons (by decide) _)
  have hseconds : behind? ':' seconds = some (second, places) :=
    behind?_padded (by decide) (by omega) (stops_fraction nanos (stops_cons (by decide) _))
  have hplaces : fraction? places = some (nanos, zone) :=
    fraction?_fraction hnanos (stops_cons (by decide) _) (by decide)
  have hzone : offset? (Text.trimStart zone) = some (0, []) := by decide
  have hdate : date? (year y ++ months) = some (⟨y, month, day⟩, 'T' :: hours) := by
    simp only [date?, hyear, hmonths, hdays, Option.bind_eq_bind, Option.bind_some]
  have hdivider : ((('T' :: hours).head?.map isDivider).getD false) = true := rfl
  have hblank : Text.isAllBlank [] = true := rfl
  simp only [parse?, hrender, hdate, hdivider, if_true, List.drop_one, List.tail_cons, hhours,
    hminutes, hseconds, hplaces, hzone, hminus, Option.bind_eq_bind, Option.bind_some]
  rw [if_pos ⟨hvalidClock, hblank⟩]
  exact dif_pos hvalid

end Timestamp

/-! ## Their documents -/

namespace Json.Decodes

theorem uuid (u : Uuid) : Decodes uuid? (ofUuid u) u := by
  intro _
  rw [ofUuid, uuid?, Uuid.parse?_render]
  rfl

theorem time (t : Timestamp) : Decodes time? (ofTime t) t := by
  intro _
  rw [ofTime, time?, Timestamp.parse?_render]
  rfl

end Json.Decodes
end Motif
