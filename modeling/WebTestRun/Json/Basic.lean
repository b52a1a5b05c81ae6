import WebTestRun.Collection.Keyed

/-!
# JSON values

A value is what a JSON text stands for. An integer keeps all its digits as long as it fits 64
bits, signed or unsigned; any other number is a binary floating-point number. An object without
a fixed form, such as one that was read, holds its members in increasing order of their keys
(`Json.ofMembers`); a record of known form holds them in the order of its fields.

* `Number`, `Json` — the values.
* `Json.member?`, `Json.text?` — what a value holds.
-/

set_option autoImplicit false

namespace WebTestRun

/-- A number of a JSON text. -/
inductive Number where
  /-- An integer between `-2 ^ 63` and `2 ^ 64 - 1`. -/
  | integer (n : Int)
  /-- Any other number. -/
  | real (x : Float)
  deriving DecidableEq

/-- A JSON value. -/
inductive Json where
  | null
  | bool (b : Bool)
  | number (n : Number)
  | string (s : String)
  | array (items : List Json)
  | object (members : List (String × Json))

namespace Json

instance : Inhabited Json := ⟨.null⟩

/-- The object with the given members; of two under one key the later counts. -/
def ofMembers (members : List (String × Json)) : Json := .object (Keyed.ofList members)

/-- A natural number. -/
def ofNat (n : Nat) : Json := .number (.integer n)

/-- A text, or null. -/
def textOrNull : Option String → Json
  | none => .null
  | some s => .string s

/-- The member of an object under a key. -/
def member? (k : String) : Json → Option Json
  | .object members => Keyed.find? k members
  | _ => none

/-- A text, if the value is one. -/
def text? : Json → Option String
  | .string s => some s
  | _ => none

end Json

end WebTestRun
