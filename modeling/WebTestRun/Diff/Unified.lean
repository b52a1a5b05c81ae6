import WebTestRun.Diff.Change

/-!
# Unified diffs

The changes between two texts as hunks: changed lines with up to three lines of context around
them, under a header that says which lines of both texts the hunk holds.

* `Diff.hunks` — the blocks of each hunk.
* `Diff.unified` — the text of all hunks.
-/

set_option autoImplicit false

namespace WebTestRun.Diff

/-- The number of lines of context. -/
def context : Nat := 3

/-- Blocks without what is too far before the first change. -/
def cutStart : List Block → List Block
  | b :: rest =>
    if b.kind = .kept then b.dropLeft (b.size - context) :: rest else b :: rest
  | [] => []

/-- Blocks without what is too far after the last change. -/
def cutEnd (blocks : List Block) : List Block :=
  match blocks.reverse with
  | b :: rest =>
    if b.kind = .kept then (b.dropRight (b.size - context) :: rest).reverse else blocks
  | [] => []

/-- Blocks divided at long runs of kept lines. The argument holds the hunk that is not ended yet,
last block first. -/
def divide (hunk : List Block) : List Block → List (List Block)
  | [] => [hunk.reverse]
  | b :: rest =>
    if b.kind = .kept && context * 2 < b.size then
      ({ b with size := context } :: hunk).reverse ::
        divide [b.dropLeft (b.size - context)] rest
    else divide (b :: hunk) rest

/-- The blocks of each hunk. -/
def hunks (blocks : List Block) : List (List Block) :=
  let divided := divide [] (cutEnd (cutStart blocks))
  match divided.getLast? with
  | some last => if last.all fun b ↦ b.kind = .kept then divided.dropLast else divided
  | none => []

/-- A range of lines: where it starts, counted from one, and how long it is unless that is one. An
empty range starts at the line before it. -/
def rangeText (start stop : Nat) : String :=
  if stop - start = 1 then toString (start + 1)
  else if stop - start = 0 then s!"{start},0"
  else s!"{start + 1},{stop - start}"

/-- The header of a hunk. -/
def header (first last : Block) : String :=
  "@@ -" ++ rangeText first.old last.oldEnd ++ " +" ++ rangeText first.new last.newEnd ++ " @@\n"

/-- The mark of a changed line. -/
def Kind.mark : Kind → String
  | .kept => " "
  | .removed => "-"
  | .added => "+"

/-- Whether a line lacks what ends lines. -/
def isOpen (line : String) : Bool :=
  match line.toList.getLast? with
  | some c => c ≠ '\n' && c ≠ '\r'
  | none => true

/-- A changed line. One that lacks its end is followed by a remark. -/
def changeText (c : Change) : String :=
  c.kind.mark ++ c.line ++ if isOpen c.line then "\n\\ No newline at end of file\n" else ""

/-- The text of a hunk. -/
def hunkText (c : Comparison) (hunk : List Block) : String :=
  match hunk.head?, hunk.getLast? with
  | some first, some last =>
    let changes := hunk.flatMap c.changesOf
    if changes.isEmpty then ""
    else header first last ++ String.join (changes.map changeText)
  | _, _ => ""

/-- The unified diff of two texts, each with a name. It is empty when they agree. -/
def unified (old new oldName newName : String) : String :=
  let c := ofTexts old new
  let hunks := hunks c.blocks
  if hunks.isEmpty then ""
  else s!"--- {oldName}\n+++ {newName}\n" ++ String.join (hunks.map (hunkText c))

end WebTestRun.Diff
