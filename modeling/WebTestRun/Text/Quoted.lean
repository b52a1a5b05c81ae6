import WebTestRun.Text.Glyph

/-!
# Text in quotes

Messages show a text between double quotes. Inside them a quote and a backslash follow a
backslash, four controls have letters of their own, and a character without a glyph is written
by its number in hexadecimal.

* `quoted` — the quoted text.
* `shown` — a value that may be missing, as messages name it.
-/

set_option autoImplicit false

namespace WebTestRun.Text

/-- A number in lower-case hexadecimal. -/
def hexadecimal (n : Nat) : List Char := Nat.toDigits 16 n

/-- How one character stands inside quotes. -/
def quotedChar (c : Char) : List Char :=
  if c = '"' then ['\\', '"']
  else if c = '\\' then ['\\', '\\']
  else if c = '\n' then ['\\', 'n']
  else if c = '\r' then ['\\', 'r']
  else if c = '\t' then ['\\', 't']
  else if c = '\x00' then ['\\', '0']
  else if isUnseen c then ['\\', 'u', '\x7b'] ++ hexadecimal c.toNat ++ ['\x7d']
  else [c]

/-- A text in double quotes. -/
def quoted (s : String) : String :=
  String.ofList ('"' :: s.toList.flatMap quotedChar ++ ['"'])

/-- A value that may be missing: `None`, or the shown value inside `Some(…)`. -/
def shown {α : Type} (f : α → String) : Option α → String
  | none => "None"
  | some a => "Some(" ++ f a ++ ")"

end WebTestRun.Text
