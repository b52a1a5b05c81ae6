import WebTestRun.Collection.Keyed
import WebTestRun.File.Path
import WebTestRun.Text.Cut

/-!
# File trees

The files that a run sees: directories and files below the root, and the directory that the run
works in. A path is followed segment by segment, and every segment but the last must be a
directory, also one that only names the directory itself or the one above it.

* `FileTree` — directories and files under their locations.
* `FileTree.read`, `FileTree.readText` — the contents of a file.
* `FileTree.write`, `FileTree.createDirs` — trees with a file or directories more.
* `FileTree.Fault` — why a path leads nowhere.
-/

set_option autoImplicit false

namespace WebTestRun

/-- What is at a location. -/
inductive FileTree.Node where
  | directory
  | file (contents : ByteArray)

/-- Directories and files, each under the names that lead to it from the root with slashes between
them. The working directory is always there, as are the directories above it. -/
structure FileTree where
  /-- The names that lead to the working directory. -/
  here : List String := []
  /-- What is where, in increasing order of the locations. -/
  entries : List (String × FileTree.Node) := []
  /-- Each of them is a name, without dots and slashes. -/
  named : Path.Named here := by decide

namespace FileTree

/-- Why an operation on a path failed. -/
inductive Fault where
  | notFound
  | notDirectory
  | isDirectory
  | alreadyExists
  | nameTooLong
  | nulCharacter
  /-- The file is no UTF-8 text. -/
  | notText
  deriving DecidableEq, Repr

/-- What is said about a fault. -/
def Fault.message : Fault → String
  | .notFound => "No such file or directory (os error 2)"
  | .notDirectory => "Not a directory (os error 20)"
  | .isDirectory => "Is a directory (os error 21)"
  | .alreadyExists => "File exists (os error 17)"
  | .nameTooLong => "File name too long (os error 36)"
  | .nulCharacter => "file name contained an unexpected NUL byte"
  | .notText => "stream did not contain valid UTF-8"

/-- The key of a location. -/
def key (location : List String) : String := "/".intercalate location

/-- What is at a location. -/
def at? (t : FileTree) (location : List String) : Option Node :=
  if location.isPrefixOf t.here then some .directory else Keyed.find? (key location) t.entries

/-- The tree with something at a location. What was there is gone. -/
def put (t : FileTree) (location : List String) (node : Node) : FileTree :=
  { t with entries := Keyed.insert (key location) node t.entries }

/-- A location must be a directory to be passed through. -/
def requireDirectory (t : FileTree) (location : List String) : Except Fault Unit :=
  match t.at? location with
  | some .directory => .ok ()
  | some (.file _) => .error .notDirectory
  | none => .error .notFound

/-- One segment further from a location. A name may have 255 bytes. -/
def follow (t : FileTree) (location : List String) (segment : String) :
    Except Fault (List String) := do
  t.requireDirectory location
  if 255 < segment.utf8ByteSize then .error .nameTooLong
  else .ok (Path.step location segment)

/-- A path that can be asked for. It may have 4095 bytes and no NUL character. -/
def checkPath (p : String) : Except Fault Unit :=
  if p.toList.contains '\x00' then .error .nulCharacter
  else if p.isEmpty then .error .notFound
  else if 4095 < p.utf8ByteSize then .error .nameTooLong
  else .ok ()

/-- The location that a path leads to. Nothing need be there. -/
def locate (t : FileTree) (p : String) : Except Fault (List String) := do
  checkPath p
  (Path.segments p).foldlM t.follow (Path.origin t.here p)

/-- The contents of the file at a path. -/
def read (t : FileTree) (p : String) : Except Fault ByteArray := do
  match t.at? (← t.locate p) with
  | some (.file contents) => .ok contents
  | some .directory => .error .isDirectory
  | none => .error .notFound

/-- The text of the file at a path. -/
def readText (t : FileTree) (p : String) : Except Fault String := do
  match String.fromUTF8? (← t.read p) with
  | some s => .ok s
  | none => .error .notText

/-- Whether a path leads to a directory. -/
def isDirectory (t : FileTree) (p : String) : Bool :=
  match t.locate p with
  | .ok l => match t.at? l with
    | some .directory => true
    | _ => false
  | .error _ => false

/-- The tree with a file at a path, in a directory that is there. What the file held is gone. -/
def write (t : FileTree) (p : String) (contents : ByteArray) : Except Fault FileTree := do
  checkPath p
  let segments := Path.segments p
  let location ← segments.dropLast.foldlM t.follow (Path.origin t.here p)
  t.requireDirectory location
  let name := segments.getLast?.getD ""
  if name = "" || name = "." || name = ".." then .error .isDirectory
  else if 255 < name.utf8ByteSize then .error .nameTooLong
  else
    let target := location ++ [name]
    match t.at? target with
    | some .directory => .error .isDirectory
    | _ => .ok (t.put target (.file contents))

/-- The tree with a directory at a path, in one that is there. -/
def createDir (t : FileTree) (p : String) : Except Fault FileTree := do
  checkPath p
  let segments := ((Path.segments p).reverse.dropWhile (·.isEmpty)).reverse
  let target ← segments.foldlM t.follow (Path.origin t.here p)
  match t.at? target with
  | some _ => .error .alreadyExists
  | none => .ok (t.put target .directory)

/-- The tree with the directory at a path and all those above it that are missing. One that is
there already is no error. The number bounds how many names of the path are tried. -/
def createDirsUpTo : Nat → FileTree → String → Except Fault FileTree
  | 0, _, _ => .error .notFound
  | n + 1, t, p =>
    if p.isEmpty then .ok t
    else match t.createDir p with
      | .ok t => .ok t
      | .error .notFound =>
        match Path.parent? p with
        | none => .error .notFound
        | some parent => do
          let t ← createDirsUpTo n t parent
          match t.createDir p with
          | .ok t => .ok t
          | .error fault => if t.isDirectory p then .ok t else .error fault
      | .error fault => if t.isDirectory p then .ok t else .error fault

/-- The tree with the directory at a path and all those above it that are missing. -/
def createDirs (t : FileTree) (p : String) : Except Fault FileTree :=
  createDirsUpTo ((Path.segments p).length + 2) t p

/-- The files below the working directory with their paths from there, in increasing order. -/
def files (t : FileTree) : List (String × ByteArray) :=
  let below := String.join (t.here.map (· ++ "/"))
  t.entries.filterMap fun e ↦
    match e.2, Text.dropPrefix? below e.1 with
    | .file contents, some path => some (path, contents)
    | _, _ => none

end FileTree

end WebTestRun
