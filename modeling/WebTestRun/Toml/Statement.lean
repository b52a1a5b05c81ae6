import WebTestRun.Toml.Scalar

/-!
# Statements of TOML

A TOML text is a list of statements, each on a line of its own: a key with a value, or the header
of a table. A key is a path of names with dots between them. A value is a scalar, an array, or an
inline table, which is a list of keys with values itself.

* `Toml.Value` — a value as it is written.
* `Toml.Statement` — a statement.
* `Toml.statements?` — the statements of a text.
-/

set_option autoImplicit false

namespace WebTestRun.Toml

open Setting (isGap isNameChar)

/-- A value as it is written. -/
inductive Value where
  | scalar (s : Setting)
  | array (items : List Value)
  /-- An inline table: values under paths of names. -/
  | inline (members : List (List String × Value))

/-- A statement. -/
inductive Statement where
  /-- A value under a path of names. -/
  | assign (path : List String) (value : Value)
  /-- The header of a table. -/
  | header (path : List String)
  /-- The header of one more table of an array. -/
  | element (path : List String)

/-! ## Blanks, comments, keys -/

/-- What follows the blanks at the start of a text. -/
def skipGaps (s : List Char) : List Char := s.dropWhile isGap

/-- What follows a comment, the newline not included, if the comment holds no controls. -/
def skipComment? : List Char → Option (List Char)
  | '#' :: rest =>
    let body := rest.takeWhile (· ≠ '\n')
    let body := if body.getLast? = some '\r' then body.dropLast else body
    if body.any isControl then none else some (rest.drop body.length)
  | s => some s

/-- What follows blanks, comments and newlines. The number bounds how many lines there can be. -/
def skipLines? : (bound : Nat) → List Char → Option (List Char)
  | 0, s => some s
  | bound + 1, s => do
    match ← skipComment? (skipGaps s) with
    | '\n' :: rest => skipLines? bound rest
    | '\r' :: '\n' :: rest => skipLines? bound rest
    | s => return s

/-- What follows the end of a line, with blanks and a comment before it. The end of the text ends a
line. -/
def endLine? (s : List Char) : Option (List Char) := do
  match ← skipComment? (skipGaps s) with
  | [] => return []
  | '\n' :: rest => return rest
  | '\r' :: '\n' :: rest => return rest
  | _ => none

/-- A name, and what follows it. A name in quotes stays on one line. -/
def name? (s : List Char) : Option (String × List Char) :=
  match s with
  | '"' :: rest => (basic? [] rest).map fun r ↦ (String.ofList r.1, r.2)
  | '\'' :: rest => (literal? [] rest).map fun r ↦ (String.ofList r.1, r.2)
  | s =>
    let name := s.takeWhile isNameChar
    if name.isEmpty then none else some (String.ofList name, s.dropWhile isNameChar)

/-- A path of names, and what follows it. The number bounds how many names there can be. -/
def path? : (bound : Nat) → List Char → Option (List String × List Char)
  | 0, _ => none
  | bound + 1, s => do
    let (name, s) ← name? (skipGaps s)
    match skipGaps s with
    | '.' :: rest =>
      let (names, s) ← path? bound rest
      return (name :: names, s)
    | s => return ([name], s)

/-! ## Values -/

/-- How many arrays and inline tables may lie in each other. -/
def nestingLimit : Nat := 80

mutual

/-- A value with at most `deep` arrays and inline tables in each other, and what follows it. The
other number bounds how many values there can be. -/
def value? : (bound deep : Nat) → List Char → Option (Value × List Char)
  | 0, _, _ => none
  | bound + 1, deep, s =>
    match s, deep with
    | '[' :: rest, deep + 1 => (items? bound deep rest).map fun r ↦ (.array r.1, r.2)
    | '\x7b' :: rest, deep + 1 => (inlineMembers? bound deep rest).map fun r ↦ (.inline r.1, r.2)
    | '[' :: _, 0 | '\x7b' :: _, 0 => none
    | '"' :: _, _ | '\'' :: _, _ =>
      (quoted? s).map fun r ↦ (.scalar (.text (String.ofList r.1)), r.2)
    | s, _ =>
      let (run, rest) := bareRun s
      (bare? run).map fun v ↦ (.scalar v, rest)

/-- The items of an array up to its end. -/
def items? : (bound deep : Nat) → List Char → Option (List Value × List Char)
  | 0, _, _ => none
  | bound + 1, deep, s => do
    match ← skipLines? s.length s with
    | ']' :: rest => return ([], rest)
    | s =>
      let (v, s) ← value? bound deep s
      match ← skipLines? s.length s with
      | ']' :: rest => return ([v], rest)
      | ',' :: rest =>
        let (vs, s) ← items? bound deep rest
        return (v :: vs, s)
      | _ => none

/-- The members of an inline table up to its end. -/
def inlineMembers? : (bound deep : Nat) → List Char →
    Option (List (List String × Value) × List Char)
  | 0, _, _ => none
  | bound + 1, deep, s => do
    match ← skipLines? s.length s with
    | '\x7d' :: rest => return ([], rest)
    | s =>
      let (path, s) ← path? s.length s
      let s ← expect? '=' s
      let (v, s) ← value? bound deep (skipGaps s)
      match ← skipLines? s.length s with
      | '\x7d' :: rest => return ([(path, v)], rest)
      | ',' :: rest =>
        let (ms, s) ← inlineMembers? bound deep rest
        return ((path, v) :: ms, s)
      | _ => none

end

/-! ## Statements -/

/-- A statement, and what follows it on its line. -/
def statement? (s : List Char) : Option (Statement × List Char) :=
  match s with
  | '[' :: '[' :: rest => do
    let (path, s) ← path? s.length rest
    let s ← expect? ']' (← expect? ']' s)
    return (.element path, s)
  | '[' :: rest => do
    let (path, s) ← path? s.length rest
    return (.header path, ← expect? ']' s)
  | s => do
    let (path, s) ← path? s.length s
    let (v, s) ← value? (s.length + 1) nestingLimit (skipGaps (← expect? '=' s))
    return (.assign path v, s)

/-- The statements of a text. The number bounds how many there can be. -/
def statementsUpTo? : (bound : Nat) → List Char → Option (List Statement)
  | 0, _ => none
  | bound + 1, s => do
    match ← skipLines? s.length s with
    | [] => return []
    | s =>
      let (statement, s) ← statement? s
      return statement :: (← statementsUpTo? bound (← endLine? s))

/-- The statements of a text. A byte order mark in front does not count. -/
def statements? (text : String) : Option (List Statement) :=
  let s := match text.toList with
    | '\uFEFF' :: rest => rest
    | s => s
  statementsUpTo? (s.length + 1) s

end WebTestRun.Toml
