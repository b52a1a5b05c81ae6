import WebTestRun.File.Tree

/-!
# Writing into a file

* `FileTree.writeAt` — the tree with bytes put at a place in a file.
-/

set_option autoImplicit false

namespace WebTestRun

/-- Bytes put over others from a place on. Zeros fill what lies between. -/
def overlaid (old : List UInt8) (place : Nat) (new : List UInt8) : List UInt8 :=
  old.take place ++ List.replicate (place - old.length) 0 ++ new ++ old.drop (place + new.length)

/-- The tree with bytes put at a place in the file at a path, which is there. -/
def FileTree.writeAt (t : FileTree) (p : String) (place : Nat) (new : ByteArray) :
    Except FileTree.Fault FileTree := do
  let old ← t.read p
  t.write p ⟨(overlaid old.data.toList place new.data.toList).toArray⟩

theorem overlaid_length (old new : List UInt8) : overlaid old old.length new = old ++ new := by
  simp [overlaid]

end WebTestRun
