import Std.Time.DateTime.Timestamp
import WebTestRun.Invocation.Help
import WebTestRun.Run.Command

/-!
# The program

The files below the working directory are read, the command runs on them, and what it has changed
is written back, also where paths lead out of the working directory. Everything that is decided is
decided by `Run.ofInvocation`; what lies elsewhere before the run is not seen.

* `main` — the program.
-/

set_option autoImplicit false

namespace WebTestRun.Program

/-- How deep directories are read. -/
def depth : Nat := 64

/-- Files with those that entries of a directory lead to, which lie at most so deep. -/
def readEntries : Nat → String → List (String × FileTree.Node) → Array IO.FS.DirEntry →
    IO (List (String × FileTree.Node))
  | 0, _, found, _ => return found
  | n + 1, directory, found, entries => entries.foldlM (fun found entry ↦ do
      let path := Path.join directory entry.fileName
      match ← entry.path.readDir.toBaseIO with
      | .ok inner => readEntries n path ((path, .directory) :: found) inner
      | .error _ => match ← (IO.FS.readBinFile entry.path).toBaseIO with
        | .ok bytes => return (path, .file bytes) :: found
        | .error _ => return found) found

/-- The files below the working directory. -/
def readFiles : IO FileTree := do
  let directory ← IO.currentDir
  let here := Path.place [] directory.toString
  if named : Path.Named here then
    let found ← readEntries depth (FileTree.key here) [] (← directory.readDir)
    return { here, entries := found.mergeSort fun a b ↦ a.1 ≤ b.1, named }
  else throw (IO.userError s!"no names lead to the working directory `{directory}`")

/-- What has changed is written where it belongs. -/
def writeFiles (before after : FileTree) : IO Unit := do
  for (location, node) in after.entries do
    let path := "/" ++ location
    match node, Keyed.find? location before.entries with
    | .directory, some .directory => pure ()
    | .directory, _ => IO.FS.createDirAll path
    | .file new, some (.file old) => if new != old then IO.FS.writeBinFile path new
    | .file new, _ => IO.FS.writeBinFile path new

/-- All bytes that come over a stream, after those that came already. -/
partial def readAll (input : IO.FS.Stream) (read : ByteArray) : IO ByteArray := do
  let bytes ← input.read 65536
  if bytes.isEmpty then return read else readAll input (read ++ bytes)

/-- The variables of the environment that are asked for. -/
def variableNames : List String :=
  [Invocation.verboseVariable, Invocation.colorVariable, Console.filterVariable, "FORCE_COLOR",
   "CLICOLOR_FORCE", "NO_COLOR", "TERM"]

/-- What the environment says. -/
def readEnvironment : IO Invocation.Environment := do
  let mut environment := []
  for name in variableNames do
    if let some value ← IO.getEnv name then environment := environment ++ [(name, value)]
  return environment

/-- What comes over the standard input, if the command reads it. -/
def readInput : Invocation.Command → IO ByteArray
  | .process o => do
    if Run.isStandardInput o.events then readAll (← IO.getStdin) .empty else return .empty
  | .merge .. => return .empty

/-- The command runs. -/
def run (environment : Invocation.Environment) (i : Invocation) : IO UInt32 := do
  let files ← readFiles
  let errors ← IO.getStderr
  let w : Run.Surroundings := {
    files
    standardInput := ← readInput i.command
    environment
    terminal := ← errors.isTty
    now := (← Std.Time.Timestamp.now).toSecondsSinceUnixEpoch.val }
  let outcome := Run.ofInvocation w i
  writeFiles files outcome.files
  errors.putStr (outcome.shown (Run.console w i))
  return outcome.number.toUInt32

end WebTestRun.Program

open WebTestRun in
/-- The program. -/
def main (arguments : List String) : IO UInt32 := do
  let environment ← Program.readEnvironment
  match Invocation.read environment arguments with
  | .ok i => Program.run environment i
  | .error usage => do
    if usage.isRequest then (← IO.getStdout).putStr usage.text
    else (← IO.getStderr).putStr usage.text
    return usage.number.toUInt32
