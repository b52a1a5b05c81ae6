/-!
# Blank characters

White space is the Unicode property White_Space, which is wider than the ASCII blanks: trimming
and cutting into words treat U+0085, U+00A0 and the spaces of the general punctuation block like
an ordinary space.

* `isBlank` — membership in the property.
* `trim`, `trimStart`, `trimEnd` — a text without its outer blanks.
* `words` — the maximal runs of characters that are not blank.
-/

set_option autoImplicit false

namespace WebTestRun.Text

/-- The ranges of code points that have the property White_Space, in order. -/
def blankRanges : List (Nat × Nat) :=
  [(0x09, 0x0D), (0x20, 0x20), (0x85, 0x85), (0xA0, 0xA0), (0x1680, 0x1680), (0x2000, 0x200A),
   (0x2028, 0x2029), (0x202F, 0x202F), (0x205F, 0x205F), (0x3000, 0x3000)]

/-- A blank is a character of one of the ranges. -/
def isBlank (c : Char) : Bool :=
  blankRanges.any fun r ↦ decide (r.1 ≤ c.toNat) && decide (c.toNat ≤ r.2)

/-- The text from its first character that is not blank. -/
def trimStart (s : List Char) : List Char := s.dropWhile isBlank

/-- The text up to its last character that is not blank. -/
def trimEnd (s : List Char) : List Char := (s.reverse.dropWhile isBlank).reverse

/-- The text without blanks at either end. -/
def trim (s : List Char) : List Char := trimEnd (trimStart s)

/-- The non-blank runs of a text, in order. -/
def words (s : List Char) : List (List Char) :=
  (s.splitOnP isBlank).filter fun w ↦ !w.isEmpty

/-- A text of blanks alone, the empty one included. -/
def allBlank (s : List Char) : Bool := s.all isBlank

theorem trimStart_nil : trimStart [] = [] := rfl

theorem trimEnd_append_blank (s : List Char) (c : Char) (h : isBlank c = true) :
    trimEnd (s ++ [c]) = trimEnd s := by
  simp [trimEnd, h]

theorem trimEnd_append_of_not_blank (s : List Char) (c : Char) (h : isBlank c = false) :
    trimEnd (s ++ [c]) = s ++ [c] := by
  simp [trimEnd, h]

theorem isBlank_newline : isBlank '\n' = true := by decide

theorem isBlank_return : isBlank '\r' = true := by decide

end WebTestRun.Text
