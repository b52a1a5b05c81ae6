/-!
# Blocks of a comparison of two sequences

A comparison of an old and a new sequence is a list of blocks: items that both have, items that
only the old one has, items that only the new one has. A block says where it is in both.

* `Diff.Block` — a block.
* `Diff.commonPrefix`, `Diff.commonSuffix` — how long two ranges agree.
-/

set_option autoImplicit false

namespace WebTestRun.Diff

/-- Which of two sequences has the items of a block. -/
inductive Kind where
  | kept | removed | added
  deriving DecidableEq, Repr

/-- A block of items. -/
structure Block where
  /-- Which sequence has the items. -/
  kind : Kind
  /-- Where the block starts in the old sequence. -/
  old : Nat
  /-- Where the block starts in the new sequence. -/
  new : Nat
  /-- The number of items. -/
  size : Nat
  deriving DecidableEq, Repr

namespace Block

/-- Where the block ends in the old sequence. -/
def oldEnd (b : Block) : Nat := if b.kind = .added then b.old else b.old + b.size

/-- Where the block ends in the new sequence. -/
def newEnd (b : Block) : Nat := if b.kind = .removed then b.new else b.new + b.size

/-- The block some items further to the left. -/
def shiftLeft (b : Block) (n : Nat) : Block := { b with old := b.old - n, new := b.new - n }

/-- The block some items further to the right. -/
def shiftRight (b : Block) (n : Nat) : Block := { b with old := b.old + n, new := b.new + n }

/-- The block with some items more on its left. -/
def growLeft (b : Block) (n : Nat) : Block := { b.shiftLeft n with size := b.size + n }

/-- The block with some items more on its right. -/
def growRight (b : Block) (n : Nat) : Block := { b with size := b.size + n }

/-- The block without some items on its left. -/
def dropLeft (b : Block) (n : Nat) : Block := { b.shiftRight n with size := b.size - n }

/-- The block without some items on its right. -/
def dropRight (b : Block) (n : Nat) : Block := { b with size := b.size - n }

end Block

/-! ## Ranges that agree -/

variable {α : Type} [BEq α]

/-- How many items from `i` and from `j` on agree, of at most `n`. -/
def commonPrefix (a b : Array α) (i j : Nat) : (n : Nat) → Nat
  | 0 => 0
  | n + 1 => if a[i]? == b[j]? then commonPrefix a b (i + 1) (j + 1) n + 1 else 0

/-- How many items before `i` and before `j` agree, of at most `n`. -/
def commonSuffix (a b : Array α) (i j : Nat) : (n : Nat) → Nat
  | 0 => 0
  | n + 1 => if a[i - 1]? == b[j - 1]? then commonSuffix a b (i - 1) (j - 1) n + 1 else 0

end WebTestRun.Diff
