import WebTestRun.Collection.Keyed

/-!
# Recorded artifacts

The artifacts of an attempt: under each kind of artifact the paths of its files, in the order in
which they were written and none twice.

* `Artifact.Map` — the recorded paths.
* `Artifact.Map.add`, `Artifact.Map.merge` — one path more, another attempt's paths more.
-/

set_option autoImplicit false

namespace WebTestRun.Artifact

/-- The paths recorded under each kind, in increasing order of the kinds. -/
structure Map where
  /-- The kinds with their paths. -/
  entries : List (String × List String) := []
  deriving DecidableEq, Repr

namespace Map

/-- The paths under a kind. -/
def get? (m : Map) (id : String) : Option (List String) := Keyed.find? id m.entries

/-- The paths under a kind, none if nothing was recorded. -/
def paths (m : Map) (id : String) : List String := (m.get? id).getD []

/-- Whether something is recorded under a kind. -/
def contains (m : Map) (id : String) : Bool := (m.get? id).isSome

/-- Whether nothing is recorded. -/
def isEmpty (m : Map) : Bool := m.entries.isEmpty

/-- The kinds under which something is recorded. -/
def ids (m : Map) : List String := Keyed.keys m.entries

/-- One path more under a kind, unless it is recorded there already. -/
def add (m : Map) (id path : String) : Map :=
  let old := m.paths id
  ⟨Keyed.insert id (if path ∈ old then old else old ++ [path]) m.entries⟩

/-- Several paths more under one kind. -/
def addAll (m : Map) (id : String) (paths : List String) : Map :=
  paths.foldl (fun m path ↦ m.add id path) m

/-- The paths of both maps; those of the second that the first lacks come after its own. -/
def merge (m other : Map) : Map :=
  other.entries.foldl (fun m e ↦ m.addAll e.1 e.2) m

theorem get?_add (m : Map) (id q path : String) :
    (m.add id path).get? q =
      if id = q then some (if path ∈ m.paths id then m.paths id else m.paths id ++ [path])
      else m.get? q := by
  simp only [add, get?, Keyed.find?_insert]

theorem paths_add (m : Map) (id q path : String) :
    (m.add id path).paths q =
      if id = q then (if path ∈ m.paths id then m.paths id else m.paths id ++ [path])
      else m.paths q := by
  rw [paths, get?_add]
  by_cases h : id = q <;> simp [h, paths]

end Map

end WebTestRun.Artifact
