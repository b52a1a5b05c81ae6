import WebTestRun.Diff.Block

/-!
# Shortest edit scripts

The path of fewest removals and additions from an old to a new sequence. A search from both ends
looks, for ever longer paths, how far each diagonal of the edit graph reaches; where the two
searches meet, the problem falls into two smaller ones.

* `Diff.Search.meeting?` — where the searches from both ends of two ranges meet.
* `Diff.script` — the blocks of the path.
-/

set_option autoImplicit false

namespace WebTestRun.Diff

/-- A range of each of two sequences. -/
structure Ranges where
  /-- Where the range of the old sequence starts. -/
  oldStart : Nat
  /-- Where it ends. -/
  oldEnd : Nat
  /-- Where the range of the new sequence starts. -/
  newStart : Nat
  /-- Where it ends. -/
  newEnd : Nat
  deriving DecidableEq, Repr

namespace Ranges

/-- The number of items of the old range. -/
def oldSize (r : Ranges) : Nat := r.oldEnd - r.oldStart

/-- The number of items of the new range. -/
def newSize (r : Ranges) : Nat := r.newEnd - r.newStart

end Ranges

namespace Search

/-- How far the paths on each diagonal reach, counted in items of the old range. Diagonal `k` is
held at `k + offset`. -/
structure Reach where
  /-- Where diagonal zero is held. -/
  offset : Nat
  /-- The values. -/
  values : Array Nat

/-- Nothing is reached yet. -/
def Reach.start (limit : Nat) : Reach := ⟨limit + 1, Array.replicate (2 * limit + 3) 0⟩

/-- How far diagonal `k` reaches. -/
def Reach.get (r : Reach) (k : Int) : Nat := r.values.getD (k + r.offset).toNat 0

/-- Diagonal `k` reaches up to `x`. -/
def Reach.set (r : Reach) (k : Int) (x : Nat) : Reach :=
  { r with values := r.values.setIfInBounds (k + r.offset).toNat x }

/-- Where a path of `d` changes may start to follow diagonal `k`. -/
def Reach.entry (r : Reach) (d : Nat) (k : Int) : Nat :=
  if k = -(d : Int) || (k ≠ d && r.get (k - 1) < r.get (k + 1)) then r.get (k + 1)
  else r.get (k - 1) + 1

variable {α : Type} [BEq α]

/-- How far a path from the start of both ranges follows a diagonal. -/
def forward (a b : Array α) (r : Ranges) (x : Nat) (y : Int) : Nat :=
  if x < r.oldSize && 0 ≤ y && y < r.newSize then
    x + commonPrefix a b (r.oldStart + x) (r.newStart + y.toNat)
      (min (r.oldSize - x) (r.newSize - y.toNat))
  else x

/-- How far a path from the end of both ranges follows a diagonal. -/
def backward (a b : Array α) (r : Ranges) (x : Nat) (y : Int) : Nat :=
  if x < r.oldSize && 0 ≤ y && y < r.newSize then
    x + commonSuffix a b (r.oldEnd - x) (r.newEnd - y.toNat)
      (min (r.oldSize - x) (r.newSize - y.toNat))
  else x

/-- The diagonals of paths of `d` changes. -/
def diagonals (d : Nat) : List Int := (List.range (d + 1)).map fun (i : Nat) ↦ (d : Int) - 2 * i

/-- The difference of the sizes of both ranges. -/
def delta (r : Ranges) : Int := (r.oldSize : Int) - r.newSize

/-- One diagonal further from the start. The search ends with a point when the path meets one from
the end. -/
def stepForward (a b : Array α) (r : Ranges) (d : Nat) (vb vf : Reach) (k : Int) :
    Except (Nat × Nat) Reach :=
  let x := vf.entry d k
  let y : Int := x - k
  let reached := forward a b r x y
  if delta r % 2 ≠ 0 && ((k - delta r).natAbs + 1 ≤ d) &&
      r.oldSize ≤ reached + vb.get (-(k - delta r)) then
    .error (x + r.oldStart, y.toNat + r.newStart)
  else .ok (vf.set k reached)

/-- One diagonal further from the end. The search ends with a point when the path meets one from
the start. -/
def stepBackward (a b : Array α) (r : Ranges) (d : Nat) (vf vb : Reach) (k : Int) :
    Except (Nat × Nat) Reach :=
  let x := vb.entry d k
  let y : Int := x - k
  let reached := backward a b r x y
  if delta r % 2 = 0 && ((k - delta r).natAbs ≤ d) &&
      r.oldSize ≤ reached + vf.get (-(k - delta r)) then
    .error (r.oldSize - reached + r.oldStart, r.newSize - (reached - k).toNat + r.newStart)
  else .ok (vb.set k reached)

/-- All diagonals of paths of `d` changes, from the start and then from the end. -/
def round (a b : Array α) (r : Ranges) (v : Reach × Reach) (d : Nat) :
    Except (Nat × Nat) (Reach × Reach) := do
  let vf ← (diagonals d).foldlM (stepForward a b r d v.2) v.1
  let vb ← (diagonals d).foldlM (stepBackward a b r d vf) v.2
  return (vf, vb)

/-- Where the paths from both ends meet. -/
def meeting? (a b : Array α) (r : Ranges) : Option (Nat × Nat) :=
  let limit := (r.oldSize + r.newSize + 1) / 2 + 1
  match (List.range limit).foldlM (round a b r) (Reach.start limit, Reach.start limit) with
  | .error point => some point
  | .ok _ => none

end Search

variable {α : Type} [BEq α]

/-- A block, unless it is empty. -/
def block? (kind : Kind) (old new size : Nat) : List Block :=
  if size = 0 then [] else [⟨kind, old, new, size⟩]

/-- The blocks of a path through both ranges. The number bounds how often they are divided. -/
def scriptWithin (a b : Array α) : (bound : Nat) → Ranges → List Block
  | 0, r => block? .removed r.oldStart r.newStart r.oldSize ++
      block? .added r.oldStart r.newStart r.newSize
  | bound + 1, r =>
    let p := commonPrefix a b r.oldStart r.newStart (min r.oldSize r.newSize)
    let inner := { r with oldStart := r.oldStart + p, newStart := r.newStart + p }
    let s := commonSuffix a b inner.oldEnd inner.newEnd (min inner.oldSize inner.newSize)
    let inner := { inner with oldEnd := inner.oldEnd - s, newEnd := inner.newEnd - s }
    let middle :=
      if inner.newSize = 0 then block? .removed inner.oldStart inner.newStart inner.oldSize
      else if inner.oldSize = 0 then block? .added inner.oldStart inner.newStart inner.newSize
      else match Search.meeting? a b inner with
        | some (x, y) =>
          scriptWithin a b bound { inner with oldEnd := x, newEnd := y } ++
            scriptWithin a b bound { inner with oldStart := x, newStart := y }
        | none =>
          block? .removed inner.oldStart inner.newStart inner.oldSize ++
            block? .added inner.oldStart inner.newStart inner.newSize
    block? .kept r.oldStart r.newStart p ++ middle ++ block? .kept inner.oldEnd inner.newEnd s

/-- The blocks of a path from an old to a new sequence. -/
def script (a b : Array α) : List Block :=
  scriptWithin a b (a.size + b.size + 1) ⟨0, a.size, 0, b.size⟩

end WebTestRun.Diff
