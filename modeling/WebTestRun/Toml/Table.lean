import WebTestRun.Toml.Statement

/-!
# Tables of TOML

The statements of a text build one table. How a table came about decides who may add to it: a
table may have one header, dotted keys add only to tables that dotted keys made, and nothing adds
to an inline table or an array of values.

* `Toml.Item` — what is under a key while the table is built.
* `Toml.read` — the table of a text.
-/

set_option autoImplicit false

namespace WebTestRun.Toml

/-- How a table came about. -/
inductive Origin where
  /-- It has a header. -/
  | header
  /-- Only tables in it have headers. -/
  | implied
  /-- Dotted keys made it. -/
  | dotted
  deriving DecidableEq, Repr

/-- What is under a key. -/
inductive Item where
  /-- A value, to which nothing can be added. -/
  | value (s : Setting)
  | table (origin : Origin) (members : List (String × Item))
  /-- Tables of an array, each with a header, the last one first. -/
  | tables (elements : List (List (String × Item)))

/-- Items under keys. -/
abbrev Items := List (String × Item)

/-! ## Adding to a table -/

/-- Items with a value under a path. The names before the last must be tables that dotted keys
made, or new, but for tables passed through on the way to one. -/
def assign? (value : Setting) : List String → Items → Option Items
  | [], _ => none
  | [key], items => if Keyed.has key items then none else some (Keyed.put key (.value value) items)
  | key :: rest, items =>
    match Keyed.find? key items with
    | none => (assign? value rest []).map fun below ↦ Keyed.put key (.table .dotted below) items
    | some (.table origin below) =>
      if origin = .header || (origin = .implied && rest.length = 1) then none
      else (assign? value rest below).map fun below ↦ Keyed.put key (.table origin below) items
    | some _ => none

/-- Items with those of one table changed. Of an array of tables it is the last one; a table that
is not there is implied. -/
def within? (change : Items → Option Items) : List String → Items → Option Items
  | [], items => change items
  | key :: rest, items =>
    match Keyed.find? key items with
    | none => (within? change rest []).map fun below ↦ Keyed.put key (.table .implied below) items
    | some (.table origin below) =>
      (within? change rest below).map fun below ↦ Keyed.put key (.table origin below) items
    | some (.tables (last :: before)) =>
      (within? change rest last).map fun last ↦ Keyed.put key (.tables (last :: before)) items
    | some _ => none

/-- Items with a header for the table under a key. -/
def openTable? (key : String) (items : Items) : Option Items :=
  match Keyed.find? key items with
  | none => some (Keyed.put key (.table .header []) items)
  | some (.table .implied below) => some (Keyed.put key (.table .header below) items)
  | some _ => none

/-- Items with one more table in the array under a key. -/
def openElement? (key : String) (items : Items) : Option Items :=
  match Keyed.find? key items with
  | none => some (Keyed.put key (.tables [[]]) items)
  | some (.tables elements) => some (Keyed.put key (.tables ([] :: elements)) items)
  | some _ => none

/-! ## The settings of items -/

mutual

/-- The setting of an item. -/
def Item.setting : Item → Setting
  | .value s => s
  | .table _ members => .table (settings members)
  | .tables elements => .list (tableSettings elements).reverse

/-- The settings of items under keys. -/
def settings : List (String × Item) → List (String × Setting)
  | [] => []
  | (key, item) :: rest => (key, item.setting) :: settings rest

/-- The settings of several tables. -/
def tableSettings : List (List (String × Item)) → List Setting
  | [] => []
  | t :: rest => .table (settings t) :: tableSettings rest

end

mutual

/-- The setting of a value, if the keys of its inline tables do not clash. -/
def Value.setting? : Value → Option Setting
  | .scalar s => some s
  | .array items => (arraySettings? items).map .list
  | .inline members => (inlineItems? [] members).map fun items ↦ .table (settings items)

/-- The settings of the items of an array. -/
def arraySettings? : List Value → Option (List Setting)
  | [] => some []
  | v :: rest => v.setting?.bind fun s ↦ (arraySettings? rest).map (s :: ·)

/-- The items that the members of an inline table make, after those that are there. -/
def inlineItems? (items : List (String × Item)) :
    List (List String × Value) → Option (List (String × Item))
  | [] => some items
  | (path, v) :: rest =>
    v.setting?.bind fun s ↦ (assign? s path items).bind fun items ↦ inlineItems? items rest

end

/-! ## Building -/

/-- A table as far as it is built: its items, and the table that the last header opened. -/
structure Building where
  /-- The items. -/
  items : Items := []
  /-- The path of the table that keys are added to. -/
  current : List String := []

/-- One statement more. -/
def Building.add? (b : Building) : Statement → Option Building
  | .assign path value =>
    value.setting?.bind fun s ↦
      (within? (assign? s path) b.current b.items).map fun items ↦ { b with items }
  | .header path =>
    path.getLast?.bind fun key ↦
      (within? (openTable? key) path.dropLast b.items).map fun items ↦ ⟨items, path⟩
  | .element path =>
    path.getLast?.bind fun key ↦
      (within? (openElement? key) path.dropLast b.items).map fun items ↦ ⟨items, path⟩

/-- The table of a text, if it is TOML. -/
def read (text : String) : Option (List (String × Setting)) :=
  (statements? text).bind fun statements ↦
    (statements.foldlM Building.add? {}).map fun b ↦ settings b.items

end WebTestRun.Toml
