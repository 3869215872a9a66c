/-!
Days of the calendar, which is carried on in both directions from the days when it was in use.  The
year zero comes before the year one.
-/

namespace Motif

structure Date where
  year : Int
  month : Nat
  day : Nat
deriving DecidableEq

namespace Date

def isLeap (year : Int) : Bool := year % 4 == 0 && (year % 100 != 0 || year % 400 == 0)

def monthLength (year : Int) (month : Nat) : Nat :=
  if month = 2 then (if isLeap year then 29 else 28)
  else if month ∈ [4, 6, 9, 11] then 30
  else 31

/-- The first and the last year in which there are days. -/
def years : Int × Int := (-262143, 262142)

def isValid (d : Date) : Bool :=
  years.1 ≤ d.year && d.year ≤ years.2 && 1 ≤ d.month && d.month ≤ 12 && 1 ≤ d.day &&
    d.day ≤ monthLength d.year d.month

def next (d : Date) : Date :=
  if d.day < monthLength d.year d.month then { d with day := d.day + 1 }
  else if d.month < 12 then ⟨d.year, d.month + 1, 1⟩
  else ⟨d.year + 1, 1, 1⟩

def previous (d : Date) : Date :=
  if 1 < d.day then { d with day := d.day - 1 }
  else if 1 < d.month then ⟨d.year, d.month - 1, monthLength d.year (d.month - 1)⟩
  else ⟨d.year - 1, 12, 31⟩

theorem previous_next {d : Date} (h : d.isValid = true) : d.next.previous = d := by
  obtain ⟨year, month, day⟩ := d
  simp only [isValid, Bool.and_eq_true, decide_eq_true_eq] at h
  obtain ⟨⟨⟨⟨-, hm⟩, hm'⟩, hd⟩, hd'⟩ := h
  by_cases hday : day < monthLength year month
  · have : ¬ day = 0 := by omega
    simp [next, previous, hday]
    omega
  · by_cases hmonth : month < 12
    · have : day = monthLength year month := by omega
      simp [next, previous, hmonth, this]
      omega
    · obtain rfl : month = 12 := by omega
      have : day = 31 := by simp [monthLength] at hday hd'; omega
      simp [next, previous, this, monthLength]

/-- The day that is `n` days after the first of January 1970.  Years are counted from March here, so
that the leap day is the last one, and in periods of 400 years, which have 146097 days. -/
def ofDays (n : Nat) : Date :=
  let day := (n + 719468) % 146097
  let year := (day - day / 1460 + day / 36524 - day / 146096) / 365
  let day := day - (365 * year + year / 4 - year / 100)
  let month := (5 * day + 2) / 153
  let year := year + (n + 719468) / 146097 * 400
  { year := if month < 10 then year else year + 1
    month := if month < 10 then month + 3 else month - 9
    day := day - (153 * month + 2) / 5 + 1 }

end Date
end Motif
