import Motif.Regex.Basic

/-!
Searching a text for a regular expression: the leftmost match, and all matches from left to right
without overlap.
-/

namespace Motif
namespace Regex

/-- A match, with the text before it, given backwards, and the text behind it. -/
structure Span where
  before : List Char
  text : List Char
  after : List Char
deriving DecidableEq

/-- For each place of the text, where the preferred match that starts there stops. -/
def stops (r : Regex) (text : List Char) : List (Option Nat) :=
  r.table text ((List.range (text.length + 1)).map some)

def occursIn (r : Regex) (text : List Char) : Bool :=
  (r.table text (List.replicate (text.length + 1) (some ()))).any Option.isSome

/-- Walks the text from place number `place` on, `skip` being the characters of the last match still
to pass and `found` the matches so far, backwards.  A match of no character is passed like one of a
single character. -/
def spansFrom (place skip : Nat) (found : List Span) (before : List Char) :
    List Char → List (Option Nat) → List Span
  | ahead, stop :: rest =>
    let length := match skip, stop with
      | 0, some stop => some (stop - place)
      | _, _ => none
    let found := match length with
      | some n => ⟨before, ahead.take n, ahead.drop n⟩ :: found
      | none => found
    match ahead with
    | c :: ahead => spansFrom (place + 1) (length.getD skip - 1) found (c :: before) ahead rest
    | [] => found.reverse
  | _, [] => found.reverse

def findAll (r : Regex) (text : List Char) : List Span := spansFrom 0 0 [] [] text (r.stops text)

def find? (r : Regex) (text : List Char) : Option Span := (r.findAll text).head?

def count (r : Regex) (text : List Char) : Nat := (r.findAll text).length

end Regex
end Motif
