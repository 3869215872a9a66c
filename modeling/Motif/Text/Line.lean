/-!
Lines of a text.  A line ends at a line feed, and a carriage return just before the line feed
belongs to the ending too.  A text that ends with a line feed has no further empty line, and the
empty text has no line.
-/

namespace Motif
namespace Text

/-- The line without the carriage return of its ending, the line given backwards. -/
def closeLine : List Char → List Char
  | '\r' :: rest => rest.reverse
  | line => line.reverse

/-- Walks the text with the current line backwards and the finished lines backwards. -/
def linesFrom (line : List Char) (done : List (List Char)) : List Char → List (List Char)
  | [] => if line.isEmpty then done.reverse else (line.reverse :: done).reverse
  | c :: rest =>
    if c = '\n' then linesFrom [] (closeLine line :: done) rest else linesFrom (c :: line) done rest

def lines (s : List Char) : List (List Char) := linesFrom [] [] s

theorem linesFrom_eq (line : List Char) (done : List (List Char)) (s : List Char) :
    linesFrom line done s = done.reverse ++ linesFrom line [] s := by
  induction s generalizing line done with
  | nil =>
    cases line with
    | nil => simp [linesFrom]
    | cons c r => simp [linesFrom]
  | cons c rest ih =>
    by_cases h : c = '\n'
    · rw [linesFrom, if_pos h, ih, linesFrom, if_pos h, ih [] [closeLine line]]
      simp
    · rw [linesFrom, if_neg h, ih, linesFrom, if_neg h]

/-- A line feed separates: the lines before it, counting its own, and the lines after it. -/
theorem linesFrom_append_newline (line : List Char) (a b : List Char) :
    linesFrom line [] (a ++ '\n' :: b) = linesFrom line [] (a ++ ['\n']) ++ lines b := by
  induction a generalizing line with
  | nil =>
    rw [List.nil_append, linesFrom, if_pos rfl, linesFrom_eq, List.nil_append, linesFrom,
      if_pos rfl, linesFrom]
    simp [lines]
  | cons c rest ih =>
    by_cases h : c = '\n'
    · rw [List.cons_append, linesFrom, if_pos h, linesFrom_eq, ih, List.cons_append, linesFrom,
        if_pos h, linesFrom_eq [] [closeLine line]]
      simp
    · rw [List.cons_append, linesFrom, if_neg h, ih, List.cons_append, linesFrom, if_neg h]

theorem lines_append_newline (a b : List Char) :
    lines (a ++ '\n' :: b) = lines (a ++ ['\n']) ++ lines b :=
  linesFrom_append_newline [] a b

end Text
end Motif
