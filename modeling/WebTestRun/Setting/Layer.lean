import WebTestRun.Decimal.Width
import WebTestRun.Setting.Basic

/-!
# Layers of settings

Settings are put over others. A table is put over a table key by key; anything else takes the
place of what was there. A key at the top may be a path: names with dots between them, and
positions of lists in brackets, a negative one counted from the end.

* `Setting.replacing` — one setting put over another.
* `Setting.route` — the path of a key.
* `Setting.layer` — a layer of keys put over settings.
-/

set_option autoImplicit false

namespace WebTestRun.Setting

mutual

/-- A setting put over another. -/
def replacing (old : Setting) : Setting → Setting
  | .table incoming => .table (replacingMembers old.members incoming)
  | .missing => .missing
  | .boolean b => .boolean b
  | .integer n => .integer n
  | .real x => .real x
  | .text s => .text s
  | .list items => .list items

/-- The settings of a table put over others. -/
def replacingMembers (old : List (String × Setting)) :
    List (String × Setting) → List (String × Setting)
  | [] => old
  | (k, s) :: rest =>
    let new := replacing ((Keyed.find? k old).getD .missing) s
    replacingMembers (Keyed.put k new old) rest

end

/-! ## Paths to settings -/

/-- One step of a path. -/
inductive Step where
  /-- To the setting under a key. -/
  | key (k : String)
  /-- To the item at a position. -/
  | position (i : Int)
  deriving DecidableEq, Repr

/-- The position between two brackets. Blanks around it do not count. -/
def position? (s : List Char) : Option Int :=
  let s := ((s.dropWhile isGap).reverse.dropWhile isGap).reverse
  let value? (digits : List Char) : Option Nat :=
    if !digits.isEmpty && digits.all Char.isDigit then
      some (digits.foldl (fun n c ↦ n * 10 + (c.toNat - '0'.toNat)) 0)
    else none
  match s with
  | '-' :: digits => (value? digits).bind fun n ↦
    if n ≤ Width.signedLimit64 then some (-(n : Int)) else none
  | digits => (value? digits).bind fun n ↦
    if n < Width.signedLimit64 then some (n : Int) else none

/-- The steps after the first name of a path. The number bounds how many there can be. -/
def steps? : (bound : Nat) → List Char → Option (List Step)
  | _, [] => some []
  | 0, _ => none
  | bound + 1, '.' :: rest =>
    let name := rest.takeWhile isNameChar
    if name.isEmpty then none
    else (steps? bound (rest.dropWhile isNameChar)).map (.key (String.ofList name) :: ·)
  | bound + 1, '[' :: rest =>
    match rest.dropWhile (· ≠ ']') with
    | _ :: after =>
      (position? (rest.takeWhile (· ≠ ']'))).bind fun i ↦
        (steps? bound after).map (.position i :: ·)
    | [] => none
  | _, _ => none

/-- The path of a key at the top. A key that is no path stands for itself. -/
def route (k : String) : List Step :=
  let cs := k.toList
  let name := cs.takeWhile isNameChar
  if name.isEmpty then [.key k]
  else match steps? cs.length (cs.dropWhile isNameChar) with
    | some rest => .key (String.ofList name) :: rest
    | none => [.key k]

/-- The list with room for a position, and the position counted from the start. -/
def makeRoom (i : Int) (items : List Setting) : List Setting × Nat :=
  if 0 ≤ i then
    (items ++ List.replicate (i.toNat + 1 - items.length) .missing, i.toNat)
  else
    let back := i.natAbs
    if back ≤ items.length then (items, items.length - back)
    else (List.replicate (back - items.length) .missing ++ items, 0)

/-- A setting with another put over what is at the end of a path. Tables and lists that the path
needs take the place of whatever else is there. -/
def putAt (new : Setting) : List Step → Setting → Setting
  | [], old => replacing old new
  | .key k :: rest, old =>
    .table (Keyed.put k (putAt new rest ((Keyed.find? k old.members).getD .missing)) old.members)
  | .position i :: rest, old =>
    let (items, n) := makeRoom i old.items
    .list (items.modify n (putAt new rest))

/-- Settings with the members of a layer put over them. -/
def layer (old : Setting) (new : List (String × Setting)) : Setting :=
  new.foldl (fun s m ↦ putAt m.2 (route m.1) s) old

end WebTestRun.Setting
