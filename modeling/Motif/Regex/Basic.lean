import Motif.Text.Letter
import Motif.Text.Blank

/-!
Regular expressions over characters.  A text of `n` characters has `n + 1` places, and a table has
an entry for each.  An expression turns the table that says what comes of going on from each place
into the table that says what comes of matching the expression there first.  Alternatives are
preferred in the order written, and a repeated class is preferred as long as possible.  Repetition
is of single characters only, so a table is filled from right to left in one walk.
-/

namespace Motif

inductive Regex where
  | empty
  | one (p : Char → Bool)
  | many (p : Char → Bool)
  /-- Between a word character and anything else. -/
  | wordEdge
  /-- At the start of the text or behind a line feed. -/
  | lineStart
  | seq (r s : Regex)
  | either (r s : Regex)

namespace Regex

/-! ## Tables -/

/-- Passes one character that satisfies `p`. -/
def afterOne {α : Type} (p : Char → Bool) (text : List Char) (next : List (Option α)) :
    List (Option α) :=
  List.zipWith (fun c a => if p c then a else none) text (next.drop 1) ++ [none]

/-- Passes characters that satisfy `p`, the most for which there is an entry. -/
def afterMany {α : Type} (p : Char → Bool) (text : List Char) (next : List (Option α)) :
    List (Option α) :=
  (text.zip next).foldr (fun (c, a) later => (if p c then (later.headD none).or a else a) :: later)
    (next.drop text.length)

/-- Keeps the entries of the places that `isThere` marks. -/
def only {α : Type} (isThere : List Bool) (next : List (Option α)) : List (Option α) :=
  List.zipWith (fun b a => if b then a else none) isThere next

def wordEdges (text : List Char) : List Bool :=
  let words := text.map Text.isWordChar
  List.zipWith (· != ·) (false :: words) (words ++ [false])

def lineStarts (text : List Char) : List Bool := true :: text.map (· == '\n')

def table {α : Type} : Regex → List Char → List (Option α) → List (Option α)
  | empty, _, next => next
  | one p, text, next => afterOne p text next
  | many p, text, next => afterMany p text next
  | wordEdge, text, next => only (wordEdges text) next
  | lineStart, text, next => only (lineStarts text) next
  | seq r s, text, next => r.table text (s.table text next)
  | either r s, text, next => List.zipWith Option.or (r.table text next) (s.table text next)

/-! ## A table has an entry for each place -/

theorem length_afterMany {α : Type} (p : Char → Bool) {text : List Char}
    {next : List (Option α)} (h : next.length = text.length + 1) :
    (afterMany p text next).length = text.length + 1 := by
  have hfold : ∀ (pairs : List (Char × Option α)) (last : List (Option α)),
      (pairs.foldr (fun (c, a) later =>
        (if p c then (later.headD none).or a else a) :: later) last).length =
          pairs.length + last.length := by
    intro pairs last
    induction pairs with
    | nil => simp
    | cons pair rest ih =>
      rw [List.foldr_cons, List.length_cons, ih, List.length_cons]
      omega
  rw [afterMany, hfold, List.length_zip, List.length_drop]
  omega

theorem length_table {α : Type} (r : Regex) {text : List Char} {next : List (Option α)}
    (h : next.length = text.length + 1) : (r.table text next).length = text.length + 1 := by
  induction r generalizing next with
  | empty => exact h
  | one p => simp [table, afterOne, h]
  | many p => exact length_afterMany p h
  | wordEdge => simp [table, only, wordEdges, h]
  | lineStart => simp [table, only, lineStarts, h]
  | seq r s ihr ihs => exact ihr (ihs h)
  | either r s ihr ihs => simp [table, ihr h, ihs h]

/-! ## Building expressions -/

instance : Append Regex := ⟨seq⟩

def char (c : Char) : Regex := one (· == c)

/-- The characters of `s`, one after the other. -/
def literal (s : String) : Regex := s.toList.foldr (fun c r => seq (char c) r) empty

def noneOf (cs : List Char) : Char → Bool := fun c => !cs.contains c

def maybe (r : Regex) : Regex := either r empty

/-- One of the literals, earlier ones preferred. -/
def oneOf : List String → Regex
  | [] => one fun _ => false
  | [s] => literal s
  | s :: rest => either (literal s) (oneOf rest)

/-- One of the literals, standing as a word of its own. -/
def word (ws : List String) : Regex := wordEdge ++ oneOf ws ++ wordEdge

def blanks : Regex := many Text.isBlank

def someBlanks : Regex := one Text.isBlank ++ blanks

def wordChars : Regex := many Text.isWordChar

/-- An opening parenthesis, blanks before it allowed. -/
def call : Regex := blanks ++ char '('

/-- A letter of the first 128 code points or an underscore, and word characters. -/
def identifier : Regex := one (fun c => Text.isAsciiLetter c || c == '_') ++ wordChars

/-- `c` in either case, where `c` is a small letter.  Two letters have a third form beyond the
first 128 code points: the Kelvin sign and the long s. -/
def eitherCase (c : Char) : Regex :=
  one fun x => x == c || x == c.toUpper || (c == 'k' && x == '\u212a') || (c == 's' && x == 'ſ')

/-- The small letters of `s` in either case, one after the other. -/
def literalEitherCase (s : String) : Regex :=
  s.toList.foldr (fun c r => seq (eitherCase c) r) empty

end Regex
end Motif
