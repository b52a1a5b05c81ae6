/-!
# Cutting a text

Cuts at the first place where a given text occurs, and prefixes and suffixes taken off. All of it
works on characters, so no cut can fall inside one.

* `cutOnce` — what stands before and after the first occurrence.
* `occursIn` — whether a text occurs in another.
* `replaceAll` — every occurrence replaced, from left to right.
* `dropPrefix?` — a prefix taken off, if it is there.
-/

set_option autoImplicit false

namespace WebTestRun.Text

/-- What stands before and after the first occurrence of `pat`; nothing if it does not occur. -/
def cutOnce (pat : List Char) : List Char → Option (List Char × List Char) :=
  go []
where
  /-- The search with the characters already passed, last one first. -/
  go (passed : List Char) : List Char → Option (List Char × List Char)
    | [] => if pat.isEmpty then some (passed.reverse, []) else none
    | c :: rest =>
      match pat.isPrefixOf? (c :: rest) with
      | some after => some (passed.reverse, after)
      | none => go (c :: passed) rest

/-- Whether `pat` occurs in the text. -/
def occursIn (pat s : List Char) : Bool := (cutOnce pat s).isSome

/-- The text with every occurrence of `pat`, read from the left, written as `new`. Nothing
changes for an empty `pat`. The number bounds how many characters are still to be read. -/
def replaceAll (pat new : List Char) (s : List Char) : List Char :=
  if pat.isEmpty then s else go s.length s
where
  /-- The replacement in the next `n` characters. -/
  go : Nat → List Char → List Char
    | 0, rest => rest
    | n + 1, rest =>
      match cutOnce pat rest with
      | none => rest
      | some (before, after) => before ++ new ++ go n after

/-- The text after a prefix, if it starts with it. -/
def dropPrefix? (pre s : String) : Option String :=
  (pre.toList.isPrefixOf? s.toList).map String.ofList

/-- Whether the text starts with `pre`. -/
def hasPrefix (pre s : String) : Bool := pre.toList.isPrefixOf s.toList

/-- Whether the text ends with `suf`. -/
def hasSuffix (suf s : String) : Bool := suf.toList.isSuffixOf s.toList

/-- What stands before and after the first occurrence of a character. -/
def cutAt? (c : Char) (s : String) : Option (String × String) :=
  (cutOnce [c] s.toList).map fun p ↦ (String.ofList p.1, String.ofList p.2)

/-- An ASCII letter in lower case; any other character as it is. -/
def lower (s : String) : String := String.ofList (s.toList.map Char.toLower)

/-- Equality that does not tell upper from lower case of the ASCII letters. -/
def equalsIgnoringCase (a b : String) : Bool := lower a == lower b

theorem dropPrefix?_append (pre s : String) : dropPrefix? pre (pre ++ s) = some s := by
  have h : ∀ a b : List Char, a.isPrefixOf? (a ++ b) = some b := by
    intro a b
    induction a with
    | nil => rfl
    | cons c a ih => exact (if_pos (beq_self_eq_true c)).trans ih
  simp [dropPrefix?, h]

end WebTestRun.Text
