import WebTestRun.Diff.Settled

/-!
# Changes between two texts

Texts are compared line by line, a line with what ends it: a newline, a carriage return, or both.

* `Diff.linesOf` — the lines of a text.
* `Diff.Change` — a line with what happened to it.
* `Diff.Comparison` — two texts and the blocks of their comparison.
-/

set_option autoImplicit false

namespace WebTestRun.Diff

/-- The lines of a text, each with what ends it. The argument holds the characters of the line that
is not ended yet, last one first. -/
def linesFrom (read : List Char) : List Char → List (List Char)
  | [] => if read.isEmpty then [] else [read.reverse]
  | '\r' :: '\n' :: rest => ('\n' :: '\r' :: read).reverse :: linesFrom [] rest
  | c :: rest =>
    if c = '\n' || c = '\r' then (c :: read).reverse :: linesFrom [] rest
    else linesFrom (c :: read) rest

/-- The lines of a text, each with what ends it. -/
def linesOf (s : String) : List String := (linesFrom [] s.toList).map String.ofList

/-- A line with what happened to it. -/
structure Change where
  /-- What happened. -/
  kind : Kind
  /-- The line, with what ends it. -/
  line : String
  deriving DecidableEq, Repr

/-- The lines of two texts and the blocks of their comparison. -/
structure Comparison where
  /-- The lines of the old text. -/
  old : Array String
  /-- The lines of the new text. -/
  new : Array String
  /-- The blocks. -/
  blocks : List Block

/-- The comparison of two texts. -/
def ofTexts (old new : String) : Comparison :=
  let a := (linesOf old).toArray
  let b := (linesOf new).toArray
  ⟨a, b, compare a b⟩

/-- The lines of a block. -/
def Comparison.changesOf (c : Comparison) (b : Block) : List Change :=
  let lines := if b.kind = .added then c.new.toList.drop b.new else c.old.toList.drop b.old
  (lines.take b.size).map fun line ↦ ⟨b.kind, line⟩

/-- All lines of both texts, in order. -/
def Comparison.changes (c : Comparison) : List Change := c.blocks.flatMap c.changesOf

end WebTestRun.Diff
