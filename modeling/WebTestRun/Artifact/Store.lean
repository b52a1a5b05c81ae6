import WebTestRun.Artifact.Map
import WebTestRun.File.Tree

/-!
# The directory of artifacts

Artifacts are files below one directory, those of retries below a directory of the retry. What is
recorded of a file is its path from the directory that the directory of artifacts lies in.

* `Artifact.Store` — the directory.
* `Artifact.Store.create` — an artifact written and recorded.
-/

set_option autoImplicit false

namespace WebTestRun.Artifact

/-- A file that could not be written. -/
structure WriteFault where
  /-- Its path, or that of the directory that could not be created for it. -/
  path : String
  /-- What went wrong. -/
  fault : FileTree.Fault
  deriving DecidableEq, Repr

/-- What is said about it. -/
def WriteFault.message (e : WriteFault) : String := s!"error writing artifact to `{e.path}`"

/-- The tree with directories for a file and then the file. The directories stay when the file
cannot be written. -/
def writeFile (t : FileTree) (path : String) (contents : ByteArray) :
    FileTree × Except WriteFault Unit :=
  match (Path.parent? path).map fun parent ↦ (parent, t.createDirs parent) with
  | some (parent, .error fault) => (t, .error ⟨parent, fault⟩)
  | some (_, .ok t) => finish t
  | none => finish t
where
  /-- The file itself. -/
  finish (t : FileTree) : FileTree × Except WriteFault Unit :=
    match t.write path contents with
    | .ok t => (t, .ok ())
    | .error fault => (t, .error ⟨path, fault⟩)

/-- The directory of artifacts. -/
structure Store where
  /-- Its path. -/
  dir : String
  deriving DecidableEq, Repr

namespace Store

/-- The directory that recorded paths start from. -/
def outputRoot (s : Store) : String := (Path.parent? s.dir).getD ""

/-- The name of the directory of artifacts. -/
def baseName (s : Store) : String := (Path.fileName? s.dir).getD ""

/-- The path of an artifact below the directory. -/
def relative (iteration : Nat) (subpath : String) : String :=
  if 0 < iteration then Path.join s!"retry_{iteration}" subpath else subpath

/-- What is recorded of an artifact. -/
def recorded (s : Store) (iteration : Nat) (subpath : String) : String :=
  Path.join s.baseName (relative iteration subpath)

/-- The tree with an artifact, and the recorded artifacts with its path. Nothing is recorded of one
that cannot be written. -/
def create (s : Store) (iteration : Nat) (t : FileTree) (m : Map) (id subpath : String)
    (contents : ByteArray) : FileTree × Except WriteFault Map :=
  let (t, r) := writeFile t (Path.join s.dir (relative iteration subpath)) contents
  (t, r.map fun _ ↦ m.add id (s.recorded iteration subpath))

end Store

end WebTestRun.Artifact
