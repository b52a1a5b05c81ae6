/-!
# Paths

A path is a text of segments with slashes between them. Segments that name nothing are kept in
the text and left out when the path is taken apart: empty ones, and a single dot unless the path
starts with it.

* `Path.segments`, `Path.below` — a path taken apart, and put together name by name.
* `Path.join` — a path below a directory.
* `Path.parent?`, `Path.fileName?`, `Path.extension?` — the parts of a path.
* `Path.place` — where a path leads to, dots resolved.
-/

set_option autoImplicit false

namespace WebTestRun.Path

/-- The segments of a path. -/
def segments (p : String) : List String := (p.toList.splitOn '/').map String.ofList

/-- A path with one name more. Without a path the name stands alone. -/
def below (path name : String) : String := if path.isEmpty then name else path ++ "/" ++ name

/-- Whether a path starts at the root. -/
def isAbsolute (p : String) : Bool := ['/'].isPrefixOf p.toList

/-- A path below a directory. An absolute path stays as it is, and an empty one leaves the
directory with a slash after it. -/
def join (dir p : String) : String :=
  if isAbsolute p || dir.isEmpty then p
  else if ['/'].isSuffixOf dir.toList then dir ++ p
  else dir ++ "/" ++ p

/-- Whether a segment names something, given whether it is the first of a relative path. -/
def names (first : Bool) (segment : String) : Bool :=
  !segment.isEmpty && (segment != "." || first)

/-- The segments of a path, each with whether it names something. -/
def marked (p : String) : List (String × Bool) :=
  (segments p).zipIdx.map fun s ↦ (s.1, names (s.2 == 0) s.1)

/-- The marked segments before the last one that names something, and that one. -/
def splitLast? (p : String) : Option (List (String × Bool) × String) :=
  match (marked p).reverse.dropWhile fun s ↦ !s.2 with
  | [] => none
  | last :: before => some (before.reverse, last.1)

/-- The path without its last name; nothing for a path without names. -/
def parent? (p : String) : Option String :=
  (splitLast? p).map fun s ↦
    let kept := (s.1.reverse.dropWhile fun s ↦ !s.2).reverse
    if kept.isEmpty then (if isAbsolute p then "/" else "")
    else "/".intercalate (kept.map (·.1))

/-- The last name of a path, unless it is a dot or two. -/
def fileName? (p : String) : Option String :=
  match splitLast? p with
  | some (_, name) => if name = "." || name = ".." then none else some name
  | none => none

/-- What stands after the last dot of the last name. A dot that starts the name does not count. -/
def extension? (p : String) : Option String :=
  (fileName? p).bind fun name ↦
    let reversed := name.toList.reverse
    match reversed.dropWhile (· ≠ '.') with
    | '.' :: stem =>
      if stem.isEmpty then none else some (String.ofList (reversed.takeWhile (· ≠ '.')).reverse)
    | _ => none

/-- A segment that is a name. -/
def IsName (segment : String) : Prop := segment ≠ "" ∧ segment ≠ "." ∧ segment ≠ ".."

instance (segment : String) : Decidable (IsName segment) := inferInstanceAs (Decidable (_ ∧ _))

/-- Names that can lead somewhere from the root. -/
def Named (names : List String) : Prop := ∀ name ∈ names, IsName name ∧ '/' ∉ name.toList

instance (names : List String) : Decidable (Named names) :=
  inferInstanceAs (Decidable (∀ name ∈ names, _))

/-- Names from the root with one segment more. Two dots undo a name, and nothing is above the
root. -/
def step (names : List String) (segment : String) : List String :=
  if segment = "" || segment = "." then names
  else if segment = ".." then names.dropLast
  else names ++ [segment]

/-- Where the segments of a path lead on from: the root, or the working directory, which the names
`here` lead to from the root. -/
def origin (here : List String) (p : String) : List String := if isAbsolute p then [] else here

/-- The names that lead from the root to where a path leads, seen from a working directory. -/
def place (here : List String) (p : String) : List String :=
  (segments p).foldl step (origin here p)

end WebTestRun.Path
