import WebTestRun.Collection.Keyed
import WebTestRun.Decimal.Width
import WebTestRun.Decimal.Written
import WebTestRun.Text.Cut

/-!
# Settings

A setting is a value of a configuration: a scalar, a list, or a table of settings under keys. Who
asks for a scalar of one type also takes others that can be read as that type: a text may spell a
number or a truth value, and any scalar has a text.

* `Setting` — the values.
* `Setting.asText?`, `Setting.asBoolean?`, `Setting.asNatural?` — a scalar read as one type.
-/

set_option autoImplicit false

namespace WebTestRun

/-- A value of a configuration. -/
inductive Setting where
  /-- There is no value. -/
  | missing
  | boolean (b : Bool)
  | integer (n : Int)
  | real (x : Float)
  | text (s : String)
  | list (items : List Setting)
  /-- Settings under keys, in the order in which the keys first came. -/
  | table (members : List (String × Setting))

namespace Setting

instance : Inhabited Setting := ⟨.missing⟩

/-- The settings of a table; of anything else none. -/
def members : Setting → List (String × Setting)
  | .table members => members
  | _ => []

/-- The items of a list; of anything else none. -/
def items : Setting → List Setting
  | .list items => items
  | _ => []

/-- A scalar as a text. -/
def asText? : Setting → Option String
  | .text s => some s
  | .boolean b => some (if b then "true" else "false")
  | .integer n => some (toString n)
  | .real x => some (String.ofList (Decimal.plain x))
  | .missing | .list _ | .table _ => none

/-- A scalar as a truth value. Every number but zero is true. -/
def asBoolean? : Setting → Option Bool
  | .boolean b => some b
  | .integer n => some (n ≠ 0)
  | .real x => some (x != 0.0)
  | .text s =>
    let s := Text.lower s
    if s ∈ ["1", "true", "on", "yes"] then some true
    else if s ∈ ["0", "false", "off", "no"] then some false
    else none
  | .missing | .list _ | .table _ => none

/-- The natural number below `2 ^ 64` that a text spells in decimal digits, with a plus sign in
front if there is one. -/
def spelledNatural? (s : String) : Option Nat :=
  let digits := match s.toList with
    | '+' :: rest => rest
    | rest => rest
  if !digits.isEmpty && digits.all Char.isDigit then
    let n := digits.foldl (fun n c ↦ n * 10 + (c.toNat - '0'.toNat)) 0
    if n < Width.limit64 then some n else none
  else none

/-- A scalar as a natural number. A number with a fraction is rounded, a half away from zero, and
one out of range becomes the nearest that is in range. -/
def asNatural? : Setting → Option Nat
  | .integer n => if 0 ≤ n then some n.toNat else none
  | .boolean b => some (if b then 1 else 0)
  | .real x => some x.round.toUInt64.toNat
  | .text s =>
    let lower := Text.lower s
    if lower ∈ ["true", "on", "yes"] then some 1
    else if lower ∈ ["false", "off", "no"] then some 0
    else spelledNatural? s
  | .missing | .list _ | .table _ => none

/-! ## How keys are written -/

/-- Blanks within a line. -/
def isGap (c : Char) : Bool := c = ' ' || c = '\t'

/-- The characters of names without quotes. -/
def isNameChar (c : Char) : Bool := c.isAlphanum || c = '_' || c = '-'

end Setting

end WebTestRun
