import WebTestRun.File.Path
import WebTestRun.Report.Leaf

/-!
# Tries of leaves

A report holds its leaves in a trie, by the components of the names of tests, the texts between
slashes. A test cannot lie below another test, so a name is refused if it goes on where a leaf is
or ends where others go on.

* `Trie` — directories and leaves.
* `Trie.insert`, `Trie.get?` — a leaf put at a path, and read.
* `Trie.leaves` — all leaves with their paths.
* `Trie.regressions` — the trie without all other leaves.
-/

set_option autoImplicit false

namespace WebTestRun

/-- What is under a component: a leaf, or a directory with what is below it. -/
inductive Trie.Node where
  | leaf (l : Leaf)
  | directory (children : List (String × Trie.Node))

/-- Nodes under components, in increasing order of the components. -/
structure Trie where
  /-- The nodes. -/
  children : List (String × Trie.Node) := []

namespace Trie

/-- Nodes under components. -/
abbrev Children := List (String × Node)

/-- A path that cannot be used, and the component where it meets something else. -/
structure Conflict where
  /-- The path. -/
  path : String
  /-- The component. -/
  component : String
  deriving DecidableEq, Repr

/-- What is said about a conflict. -/
def Conflict.message (e : Conflict) : String :=
  s!"test path `{e.path}` conflicts with an existing entry at component `{e.component}`"

/-- Nodes with a leaf put below them, or the component where that fails. -/
def insertAt (l : Leaf) : List String → Children → Except String Children
  | [], children => .ok children
  | [name], children =>
    match Keyed.find? name children with
    | some (.directory _) => .error name
    | _ => .ok (Keyed.insert name (.leaf l) children)
  | name :: rest, children =>
    match Keyed.find? name children with
    | some (.leaf _) => .error name
    | some (.directory below) =>
      (insertAt l rest below).map fun below ↦ Keyed.insert name (.directory below) children
    | none => (insertAt l rest []).map fun below ↦ Keyed.insert name (.directory below) children

/-- The trie with a leaf at a path. A leaf that is there already is replaced. -/
def insert (t : Trie) (path : String) (l : Leaf) : Except Conflict Trie :=
  match insertAt l (Path.segments path) t.children with
  | .ok children => .ok ⟨children⟩
  | .error component => .error ⟨path, component⟩

/-- The leaf below nodes. -/
def getAt? : List String → Children → Option Leaf
  | [], _ => none
  | [name], children =>
    match Keyed.find? name children with
    | some (.leaf l) => some l
    | _ => none
  | name :: rest, children =>
    match Keyed.find? name children with
    | some (.directory below) => getAt? rest below
    | _ => none

/-- The leaf at a path. -/
def get? (t : Trie) (path : String) : Option Leaf := getAt? (Path.segments path) t.children

/-- Whether there is nothing in a trie. -/
def isEmpty (t : Trie) : Bool := t.children.isEmpty

mutual

/-- The leaves of a node, given its path. -/
def Node.leaves (path : String) : Node → List (String × Leaf)
  | .leaf l => [(path, l)]
  | .directory children => leavesBelow path children

/-- The leaves of nodes, given the path of the directory that they are in. -/
def leavesBelow (path : String) : List (String × Node) → List (String × Leaf)
  | [] => []
  | (name, node) :: rest => node.leaves (Path.below path name) ++ leavesBelow path rest

end

/-- All leaves with their paths, in the order of their components. -/
def leaves (t : Trie) : List (String × Leaf) := leavesBelow "" t.children

mutual

/-- A node without leaves that are no regressions and without empty directories. -/
def Node.regressions? : Node → Option Node
  | .leaf l => if l.isRegression then some (.leaf l) else none
  | .directory children =>
    let kept := regressionsOf children
    if kept.isEmpty then none else some (.directory kept)

/-- Nodes without leaves that are no regressions and without empty directories. -/
def regressionsOf : List (String × Node) → List (String × Node)
  | [] => []
  | (name, node) :: rest =>
    match node.regressions? with
    | some kept => (name, kept) :: regressionsOf rest
    | none => regressionsOf rest

end

/-- The trie of the regressions alone. -/
def regressions (t : Trie) : Trie := ⟨regressionsOf t.children⟩

/-! ## JSON -/

mutual

/-- The value of a node. -/
def Node.json : Node → Json
  | .leaf l => l.json
  | .directory children => .object (childrenJson children)

/-- The members of several nodes. -/
def childrenJson : List (String × Node) → List (String × Json)
  | [] => []
  | (name, node) :: rest => (name, node.json) :: childrenJson rest

end

/-- The object of a trie. -/
def json (t : Trie) : Json := .object (childrenJson t.children)

mutual

/-- The node that a document gives: a leaf if it can be one, else a directory. -/
def node? (d : Document) : Option Node :=
  match Leaf.ofDocument? d with
  | some l => some (.leaf l)
  | none =>
    match d with
    | .object members => (children? members).map .directory
    | _ => none

/-- The nodes that members give. Of two members under one key the later counts. -/
def children? : List (Option String × Document) → Option (List (String × Node))
  | [] => some []
  | (name, d) :: rest =>
    name.bind fun name ↦ (node? d).bind fun node ↦ (children? rest).map fun later ↦
      if Keyed.has name later then later else Keyed.insert name node later

end

/-- The trie that a document gives, nested however deep. -/
def read? : Document → Option Trie
  | .object members => (children? members).map Trie.mk
  | _ => none

/-- The trie that a document gives, all of whose values must be sound and at most `depth` deep. -/
def ofDocument? (depth : Nat) (d : Document) : Option Trie :=
  (d.value? depth).bind fun _ ↦ read? d

end Trie

end WebTestRun
