import WebTestRun.Diff.Script

/-!
# Settled comparisons

An addition next to kept items that it repeats can stand at several places. It is moved up as far
as possible and then down as far as possible, and joins others of its kind on the way. A removal is
moved past additions only. Where removals and additions stand together in the end, the removals
come first.

* `Diff.moveUp`, `Diff.moveDown` — one block moved.
* `Diff.settled` — a comparison with all of its blocks moved and joined.
-/

set_option autoImplicit false

namespace WebTestRun.Diff

variable {α : Type} [BEq α]

/-- A block between the blocks before it, the nearest first, and those after it. -/
structure Focus where
  /-- The blocks before it, the nearest first. -/
  before : List Block
  /-- The block. -/
  this : Block
  /-- The blocks after it. -/
  after : List Block

/-- How many items at the end of a block of kept items an addition repeats at its end. A removal
stays where it is. -/
def repeatedBefore (b : Array α) (kept this : Block) : Nat :=
  if this.kind = .added then commonSuffix b b kept.newEnd this.newEnd (min kept.size this.size)
  else 0

/-- How many items at the start of a block of kept items an addition repeats at its start. A
removal stays where it is. -/
def repeatedAfter (b : Array α) (kept this : Block) : Nat :=
  if this.kind = .added then commonPrefix b b kept.new this.new (min kept.size this.size)
  else 0

/-- Blocks with some kept items before them. -/
def keepBefore (kept : Block) : List Block → List Block
  | next :: rest =>
    if next.kind = .kept then next.growLeft kept.size :: rest else kept :: next :: rest
  | [] => [kept]

/-- Blocks, the last one first, with some kept items after them. -/
def keepAfter (kept : Block) : List Block → List Block
  | last :: rest =>
    if last.kind = .kept then last.growRight kept.size :: rest else kept :: last :: rest
  | [] => [kept]

/-- A block moved up past kept items that it repeats and past blocks of the other kind, and joined
to blocks of its own kind. The number bounds the moves. -/
def moveUp (b : Array α) : (bound : Nat) → Focus → Focus
  | 0, f => f
  | bound + 1, f =>
    match f.before with
    | [] => f
    | prev :: rest =>
      if prev.kind = .kept then
        let n := repeatedBefore b prev f.this
        if 0 < n then
          let kept : Block := ⟨.kept, prev.oldEnd - n, f.this.newEnd - n, n⟩
          let prev := prev.dropRight n
          moveUp b bound
            { before := if prev.size = 0 then rest else prev :: rest
              this := f.this.shiftLeft n
              after := keepBefore kept f.after }
        else if prev.size = 0 then moveUp b bound { f with before := rest }
        else f
      else if prev.kind = f.this.kind then
        moveUp b bound { f with before := rest, this := prev.growRight f.this.size }
      else moveUp b bound { f with before := rest, after := prev :: f.after }

/-- A block moved down past kept items that it repeats and past blocks of the other kind, and
joined to blocks of its own kind. The number bounds the moves. -/
def moveDown (b : Array α) : (bound : Nat) → Focus → Focus
  | 0, f => f
  | bound + 1, f =>
    match f.after with
    | [] => f
    | next :: rest =>
      if next.kind = .kept then
        let n := repeatedAfter b next f.this
        if 0 < n then
          let kept : Block := ⟨.kept, next.old, f.this.new, n⟩
          let next := next.dropLeft n
          moveDown b bound
            { before := keepAfter kept f.before
              this := f.this.shiftRight n
              after := if next.size = 0 then rest else next :: rest }
        else if next.size = 0 then moveDown b bound { f with after := rest }
        else f
      else if next.kind = f.this.kind then
        moveDown b bound { f with this := f.this.growRight next.size, after := rest }
      else moveDown b bound { f with before := next :: f.before, after := rest }

/-- Every block of one kind moved, one after the other. The number bounds the blocks. -/
def moveAll (b : Array α) (kind : Kind) (moves : Nat) :
    (bound : Nat) → (before after : List Block) → List Block
  | 0, before, after => before.reverse ++ after
  | _, before, [] => before.reverse
  | bound + 1, before, this :: after =>
    if this.kind = kind then
      let f := moveDown b moves (moveUp b moves ⟨before, this, after⟩)
      moveAll b kind moves bound (f.this :: f.before) f.after
    else moveAll b kind moves bound (this :: before) after

/-! ## Joining -/

/-- Changes that stand together: removals first, then additions, each as one block. -/
def changes (removed added : Option Block) : List Block :=
  match removed, added with
  | some r, some d => [{ r with new := d.new }, { d with old := r.oldEnd }]
  | some r, none => [r]
  | none, some d => [d]
  | none, none => []

/-- One block, or two of one kind joined. -/
def joined (first : Option Block) (b : Block) : Block :=
  match first with
  | some f => f.growRight b.size
  | none => b

/-- Blocks with those that stand together joined. The arguments hold kept items, removals and
additions that are not put out yet. -/
def join (kept removed added : Option Block) : List Block → List Block
  | [] => kept.toList ++ changes removed added
  | b :: rest =>
    match b.kind with
    | .kept => changes removed added ++ join (some (joined kept b)) none none rest
    | .removed => kept.toList ++ join none (some (joined removed b)) added rest
    | .added => kept.toList ++ join none removed (some (joined added b)) rest

/-- A comparison with its removals and then its additions moved, and with blocks that stand
together joined. -/
def settled (a b : Array α) (blocks : List Block) : List Block :=
  let bound := 4 * (a.size + b.size + blocks.length + 1)
  let blocks := moveAll b .removed bound bound [] blocks
  let blocks := moveAll b .added bound bound [] blocks
  join none none none blocks

/-- The comparison of an old and a new sequence. -/
def compare (a b : Array α) : List Block := settled a b (script a b)

end WebTestRun.Diff
