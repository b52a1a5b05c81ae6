import WebTestRun.Json.Numeral

/-!
# Documents: what a JSON text says

A document is a JSON text taken apart and nothing more. Members stand in the order of the text
and a key may occur twice; a number may be too large and a text may hold half of a surrogate
pair, which no value can hold. Those who read a document decide what to make of that: a reader
of values refuses, a reader of one kind of record ignores members that it does not know.

The text is read in one pass, character by character, with a stack of the arrays and objects
that are still open.

* `Document` — the result.
* `Document.ofText?` — the document of a text.
* `Document.json?` — the value of a document whose nesting stays within a limit.
-/

set_option autoImplicit false

namespace WebTestRun

/-- A JSON text taken apart. -/
inductive Document where
  | null
  | bool (b : Bool)
  /-- A number, or nothing if it is too large. -/
  | number (n : Option Number)
  /-- A text, or nothing if it holds half of a surrogate pair. -/
  | string (s : Option String)
  | array (items : List Document)
  /-- Members in the order of the text. A key is a text as above. -/
  | object (members : List (Option String × Document))

namespace Document

instance : Inhabited Document := ⟨.null⟩

/-! ## Texts in quotes -/

/-- What the characters read so far of a text in quotes leave open. -/
inductive Escape where
  /-- Nothing. -/
  | closed
  /-- A backslash was read. -/
  | backslash
  /-- Hexadecimal digits are to come: how many, and the value so far. -/
  | digits (left : Nat) (value : Nat)

/-- A text in quotes, as far as it was read. -/
structure Quoted where
  /-- The characters, last one first. -/
  chars : List Char := []
  /-- No half of a surrogate pair stands alone so far. -/
  sound : Bool := true
  /-- The first half of a surrogate pair whose second half must follow. -/
  half : Option Nat := none
  /-- What is left open. -/
  escape : Escape := .closed

/-- The value of a hexadecimal digit. -/
def hexValue? (c : Char) : Option Nat :=
  if '0' ≤ c && c ≤ '9' then some (c.toNat - '0'.toNat)
  else if 'a' ≤ c && c ≤ 'f' then some (c.toNat - 'a'.toNat + 10)
  else if 'A' ≤ c && c ≤ 'F' then some (c.toNat - 'A'.toNat + 10)
  else none

/-- The character that stands for itself after a backslash, or for a control. -/
def escapedChar? (c : Char) : Option Char :=
  match c with
  | '"' => some '"'
  | '\\' => some '\\'
  | '/' => some '/'
  | 'b' => some '\x08'
  | 'f' => some '\x0c'
  | 'n' => some '\n'
  | 'r' => some '\r'
  | 't' => some '\t'
  | _ => none

/-- One more character; a half that was waiting stays alone. -/
def Quoted.push (q : Quoted) (c : Char) : Quoted :=
  { chars := c :: q.chars, sound := q.sound && q.half.isNone }

/-- A code unit of four hexadecimal digits: a character, or half of a pair. -/
def Quoted.pushUnit (q : Quoted) (n : Nat) : Quoted :=
  match q.half with
  | some h =>
    if 0xDC00 ≤ n && n ≤ 0xDFFF then
      { chars := Char.ofNat (0x10000 + (h - 0xD800) * 0x400 + (n - 0xDC00)) :: q.chars
        sound := q.sound }
    else { chars := q.chars, sound := false }
  | none =>
    if 0xD800 ≤ n && n ≤ 0xDBFF then { chars := q.chars, sound := q.sound, half := some n }
    else if 0xDC00 ≤ n && n ≤ 0xDFFF then { chars := q.chars, sound := false }
    else { chars := Char.ofNat n :: q.chars, sound := q.sound }

/-- The text once its closing quote was read. -/
def Quoted.text (q : Quoted) : Option String :=
  if q.sound && q.half.isNone then some (String.ofList q.chars.reverse) else none

/-- What one character does to a text in quotes: it goes on, or this was the closing quote. -/
inductive Quoted.Next where
  | more (q : Quoted)
  | done (s : Option String)

/-- One character of a text in quotes. A control below U+0020 must be escaped. -/
def Quoted.read (q : Quoted) (c : Char) : Option Quoted.Next :=
  match q.escape with
  | .closed =>
    if c = '"' then some (.done q.text)
    else if c = '\\' then some (.more { q with escape := .backslash })
    else if c.toNat < 0x20 then none
    else some (.more (q.push c))
  | .backslash =>
    if c = 'u' then some (.more { q with escape := .digits 4 0 })
    else (escapedChar? c).map fun d ↦ .more (q.push d)
  | .digits left value =>
    (hexValue? c).map fun d ↦
      if left ≤ 1 then .more (q.pushUnit (value * 16 + d))
      else .more { q with escape := .digits (left - 1) (value * 16 + d) }

/-! ## The pass over a text -/

/-- An array or object that waits for the value of one of its elements. The elements before it
are held last one first. -/
inductive Frame where
  | array (items : List Document)
  | object (members : List (Option String × Document)) (key : Option String)

/-- What may come next. -/
inductive Place where
  /-- A value. -/
  | value
  /-- The first item of an array, or its end. -/
  | firstItem
  /-- A comma or the end of an array. -/
  | afterItem (items : List Document)
  /-- The first key of an object, or its end. -/
  | firstKey
  /-- A key. -/
  | key (members : List (Option String × Document))
  /-- The rest of a key. -/
  | inKey (members : List (Option String × Document)) (q : Quoted)
  /-- The colon after a key. -/
  | colon (members : List (Option String × Document)) (key : Option String)
  /-- A comma or the end of an object. -/
  | afterMember (members : List (Option String × Document))
  /-- The rest of a text. -/
  | inText (q : Quoted)
  /-- The rest of a word. -/
  | inWord (rest : List Char) (d : Document)
  /-- The rest of a numeral, whose characters are held last one first. -/
  | inNumeral (chars : List Char)
  /-- Blanks alone. -/
  | ended (d : Document)

/-- The state of the pass: what is open, the innermost first, and what may come next. -/
structure Pass where
  /-- The arrays and objects that are open. -/
  frames : List Frame
  /-- What may come next. -/
  place : Place

/-- The blanks of a JSON text. -/
def isGap (c : Char) : Bool := c = ' ' || c = '\n' || c = '\t' || c = '\r'

/-- The characters of numerals. -/
def isNumeralChar (c : Char) : Bool :=
  c.isDigit || c = '-' || c = '+' || c = '.' || c = 'e' || c = 'E'

/-- A value is complete: it goes to the innermost open array or object. -/
def Pass.complete (frames : List Frame) (d : Document) : Pass :=
  match frames with
  | [] => ⟨[], .ended d⟩
  | .array items :: rest => ⟨rest, .afterItem (d :: items)⟩
  | .object members key :: rest => ⟨rest, .afterMember ((key, d) :: members)⟩

/-- The first character of a value. -/
def Pass.start (frames : List Frame) (c : Char) : Option Pass :=
  match c with
  | '"' => some ⟨frames, .inText {}⟩
  | '[' => some ⟨frames, .firstItem⟩
  | '\x7b' => some ⟨frames, .firstKey⟩
  | 'n' => some ⟨frames, .inWord ['u', 'l', 'l'] .null⟩
  | 't' => some ⟨frames, .inWord ['r', 'u', 'e'] (.bool true)⟩
  | 'f' => some ⟨frames, .inWord ['a', 'l', 's', 'e'] (.bool false)⟩
  | _ => if c.isDigit || c = '-' then some ⟨frames, .inNumeral [c]⟩ else none

/-- A character after a complete value. -/
def Pass.settle (p : Pass) (c : Char) : Option Pass :=
  if isGap c then some p
  else match p.place with
    | .afterItem items =>
      if c = ',' then some ⟨.array items :: p.frames, .value⟩
      else if c = ']' then some (.complete p.frames (.array items.reverse))
      else none
    | .afterMember members =>
      if c = ',' then some ⟨p.frames, .key members⟩
      else if c = '\x7d' then some (.complete p.frames (.object members.reverse))
      else none
    | _ => none

/-- A numeral is complete. -/
def Pass.closeNumeral (frames : List Frame) (chars : List Char) : Option Pass :=
  (Numeral.ofText? chars.reverse).map fun n ↦ .complete frames (.number n.value?)

/-- One character of the text. -/
def Pass.read (p : Pass) (c : Char) : Option Pass :=
  match p.place with
  | .value => if isGap c then some p else Pass.start p.frames c
  | .firstItem =>
    if isGap c then some p
    else if c = ']' then some (.complete p.frames (.array []))
    else Pass.start (.array [] :: p.frames) c
  | .firstKey =>
    if isGap c then some p
    else if c = '\x7d' then some (.complete p.frames (.object []))
    else if c = '"' then some ⟨p.frames, .inKey [] {}⟩
    else none
  | .key members =>
    if isGap c then some p
    else if c = '"' then some ⟨p.frames, .inKey members {}⟩
    else none
  | .inKey members q =>
    (q.read c).map fun
      | .more q => ⟨p.frames, .inKey members q⟩
      | .done key => ⟨p.frames, .colon members key⟩
  | .colon members key =>
    if isGap c then some p
    else if c = ':' then some ⟨.object members key :: p.frames, .value⟩
    else none
  | .inText q =>
    (q.read c).map fun
      | .more q => ⟨p.frames, .inText q⟩
      | .done s => .complete p.frames (.string s)
  | .inWord rest d =>
    match rest with
    | [] => none
    | w :: rest =>
      if c ≠ w then none
      else if rest.isEmpty then some (.complete p.frames d)
      else some ⟨p.frames, .inWord rest d⟩
  | .inNumeral chars =>
    if isNumeralChar c then some ⟨p.frames, .inNumeral (c :: chars)⟩
    else (Pass.closeNumeral p.frames chars).bind fun p ↦ p.settle c
  | .afterItem _ | .afterMember _ | .ended _ => p.settle c

/-- The document, if the text may end here. -/
def Pass.finish (p : Pass) : Option Document :=
  match p.place with
  | .ended d => some d
  | .inNumeral chars =>
    match p.frames with
    | [] => (Numeral.ofText? chars.reverse).map fun n ↦ .number n.value?
    | _ => none
  | _ => none

/-- The document of a text. -/
def ofText? (s : String) : Option Document :=
  (s.toList.foldlM Pass.read ⟨[], .value⟩).bind Pass.finish

/-! ## Values -/

/-- How deep arrays and objects may be nested in a text that is read as a value. -/
def nestingLimit : Nat := 127

mutual

/-- The value of a document with at most `depth` arrays and objects inside each other. Of two
members under one key the later counts. -/
def value? (depth : Nat) : Document → Option Json
  | .null => some .null
  | .bool b => some (.bool b)
  | .number n => n.map .number
  | .string s => s.map .string
  | .array items =>
    match depth with
    | 0 => none
    | d + 1 => (values? d items).map .array
  | .object members =>
    match depth with
    | 0 => none
    | d + 1 => (members? d members).map .ofMembers

/-- The values of several documents. -/
def values? (depth : Nat) : List Document → Option (List Json)
  | [] => some []
  | d :: rest => (value? depth d).bind fun j ↦ (values? depth rest).map (j :: ·)

/-- The values of several members. -/
def members? (depth : Nat) : List (Option String × Document) → Option (List (String × Json))
  | [] => some []
  | (key, d) :: rest =>
    key.bind fun k ↦ (value? depth d).bind fun j ↦ (members? depth rest).map ((k, j) :: ·)

end

/-- The value of a document. -/
def json? (d : Document) : Option Json := d.value? nestingLimit

/-! ## Documents of values -/

mutual

/-- The document that says what a value holds. -/
def ofJson : Json → Document
  | .null => .null
  | .bool b => .bool b
  | .number n => .number (some n)
  | .string s => .string (some s)
  | .array items => .array (ofItems items)
  | .object members => .object (ofMembers members)

/-- The documents of several values. -/
def ofItems : List Json → List Document
  | [] => []
  | j :: rest => ofJson j :: ofItems rest

/-- The documents of several members. -/
def ofMembers : List (String × Json) → List (Option String × Document)
  | [] => []
  | (k, j) :: rest => (some k, ofJson j) :: ofMembers rest

end

end Document

/-- The value that a JSON text stands for. -/
def Json.ofText? (s : String) : Option Json := (Document.ofText? s).bind Document.json?

end WebTestRun
