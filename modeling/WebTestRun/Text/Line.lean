/-!
# Lines of a text

A line ends at a newline, and one carriage return before that newline belongs to the line end.
What follows the last newline is a line only when it is not empty, and keeps a carriage return
at its end.

* `lines` — the lines of a text.
* `numberedLines` — the same with their 1-based numbers.
-/

set_option autoImplicit false

namespace WebTestRun.Text

/-- A line without one carriage return at its end. -/
def dropReturn (line : List Char) : List Char :=
  if line.getLast? = some '\r' then line.dropLast else line

/-- The lines of a text. -/
def lines (s : List Char) : List (List Char) :=
  let pieces := s.splitOn '\n'
  let last := pieces.getLast?.getD []
  pieces.dropLast.map dropReturn ++ if last.isEmpty then [] else [last]

/-- The lines of a text, each with its number, counted from one. -/
def numberedLines (s : List Char) : List (Nat × List Char) :=
  (lines s).zipIdx.map fun p ↦ (p.2 + 1, p.1)

theorem lines_nil : lines [] = [] := by decide

/-- A text that ends in a newline has no line after it. -/
theorem lines_singleton_newline : lines ['\n'] = [[]] := by decide

end WebTestRun.Text
