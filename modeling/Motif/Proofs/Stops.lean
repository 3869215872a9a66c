import Mathlib.Data.List.Basic

/-!
Characters of one kind before other text.  Where the text behind them does not start with another of
the kind, they are what a reader of such characters takes.
-/

namespace Motif

/-- The text does not start with a character of the kind. -/
def Stops (p : Char → Bool) (rest : List Char) : Prop := ∀ c ∈ rest.head?, p c = false

section Stops

variable {p : Char → Bool} {s s' rest rest' : List Char}

theorem stops_nil : Stops p [] := nofun

theorem stops_cons {c : Char} (h : p c = false) (rest : List Char) : Stops p (c :: rest) := by
  intro d hd
  rw [List.head?_cons, Option.mem_some_iff] at hd
  exact hd ▸ h

theorem takeWhile_append_of_stops (h : ∀ c ∈ s, p c = true) (hrest : Stops p rest) :
    (s ++ rest).takeWhile p = s := by
  rw [List.takeWhile_append_of_pos h]
  cases rest with
  | nil => exact List.append_nil s
  | cons c rest => rw [List.takeWhile_cons_of_neg (by simp [hrest c rfl]), List.append_nil]

theorem dropWhile_append_of_stops (h : ∀ c ∈ s, p c = true) (hrest : Stops p rest) :
    (s ++ rest).dropWhile p = rest := by
  rw [List.dropWhile_append_of_pos h]
  cases rest with
  | nil => rfl
  | cons c rest => rw [List.dropWhile_cons_of_neg (by simp [hrest c rfl])]

/-- Texts that are equal and go on with another character behind all those of the kind begin with
the same of them. -/
theorem append_inj_of_stops (h : ∀ c ∈ s, p c = true) (h' : ∀ c ∈ s', p c = true)
    (hrest : Stops p rest) (hrest' : Stops p rest') (heq : s ++ rest = s' ++ rest') :
    s = s' ∧ rest = rest' := by
  constructor
  · rw [← takeWhile_append_of_stops h hrest, heq, takeWhile_append_of_stops h' hrest']
  · rw [← dropWhile_append_of_stops h hrest, heq, dropWhile_append_of_stops h' hrest']

end Stops
end Motif
