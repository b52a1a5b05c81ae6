import WebTestRun.Decimal.Written
import WebTestRun.Json.Basic

/-!
# JSON texts

The compact text of a value: no blanks, members in the order they are held in, and of the
characters of a text only the quote, the backslash and the controls below U+0020 escaped.

* `Json.written` — the text of a value.
-/

set_option autoImplicit false

namespace WebTestRun.Json

/-- A number below sixteen as a digit. -/
def hexDigit (n : Nat) : Char := Nat.digitChar n

/-- How one character stands in a JSON text. -/
def escaped (c : Char) : List Char :=
  if c = '"' then ['\\', '"']
  else if c = '\\' then ['\\', '\\']
  else if c = '\x08' then ['\\', 'b']
  else if c = '\x0c' then ['\\', 'f']
  else if c = '\n' then ['\\', 'n']
  else if c = '\r' then ['\\', 'r']
  else if c = '\t' then ['\\', 't']
  else if c.toNat < 0x20 then
    ['\\', 'u', '0', '0', hexDigit (c.toNat / 16), hexDigit (c.toNat % 16)]
  else [c]

/-- A text between quotes. -/
def writtenText (s : String) : String :=
  String.ofList ('"' :: s.toList.flatMap escaped ++ ['"'])

/-- A number: all digits of an integer, the shortest digits of any other, and `null` for one that
is not finite. -/
def writtenNumber : Number → String
  | .integer n => toString n
  | .real x => String.ofList ((Decimal.written? x).getD ['n', 'u', 'l', 'l'])

/-- Texts between an opening and a closing character, with commas between them. -/
def enclosed (opening closing : String) (items : List String) : String :=
  opening ++ ",".intercalate items ++ closing

/-- A member: its key, a colon, its value. -/
def writtenMember (k v : String) : String := writtenText k ++ ":" ++ v

mutual

/-- The compact text of a value. -/
def written : Json → String
  | .null => "null"
  | .bool b => if b then "true" else "false"
  | .number n => writtenNumber n
  | .string s => writtenText s
  | .array items => enclosed "[" "]" (writtenItems items)
  | .object members => enclosed "\x7b" "\x7d" (writtenMembers members)

/-- The texts of several values. -/
def writtenItems : List Json → List String
  | [] => []
  | j :: rest => written j :: writtenItems rest

/-- The texts of several members. -/
def writtenMembers : List (String × Json) → List String
  | [] => []
  | (k, j) :: rest => writtenMember k (written j) :: writtenMembers rest

end

end WebTestRun.Json
