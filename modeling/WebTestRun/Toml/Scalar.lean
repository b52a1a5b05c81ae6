import WebTestRun.Decimal.Width
import WebTestRun.Setting.Basic

/-!
# Scalars of TOML

A scalar is a text in quotes, or a run of letters, digits and a few marks: a truth value, an
integer in one of four bases, a floating-point number, or a date or time. A date or time is kept
as a text.

* `Toml.quoted?` — a text in quotes, and what follows it.
* `Toml.bare?` — the scalar that a run of characters spells.
-/

set_option autoImplicit false

namespace WebTestRun.Toml

open Setting (isGap)

/-! ## Texts in quotes -/

/-- A control character that no text may hold as it is. -/
def isControl (c : Char) : Bool := (c.toNat < 0x20 && c ≠ '\t') || c.toNat = 0x7F

/-- The value of hexadecimal digits. -/
def hexadecimal? (digits : List Char) : Option Nat :=
  digits.foldlM (fun n c ↦
    if c.isDigit then some (n * 16 + (c.toNat - '0'.toNat))
    else if 'a' ≤ c && c ≤ 'f' then some (n * 16 + (c.toNat - 'a'.toNat + 10))
    else if 'A' ≤ c && c ≤ 'F' then some (n * 16 + (c.toNat - 'A'.toNat + 10))
    else none) 0

/-- The character of a code point in hexadecimal digits. -/
def character? (digits : List Char) : Option Char :=
  (hexadecimal? digits).bind fun n ↦ if h : n.isValidChar then some (Char.ofNatAux n h) else none

/-- The character that one letter after a backslash stands for. -/
def escaped? (c : Char) : Option Char :=
  match c with
  | 'b' => some '\x08'
  | 't' => some '\t'
  | 'n' => some '\n'
  | 'f' => some '\x0c'
  | 'r' => some '\r'
  | 'e' => some '\x1b'
  | '"' => some '"'
  | '\\' => some '\\'
  | _ => none

/-- The rest of a text on one line between double quotes. The characters read so far come last one
first. -/
def basic? (read : List Char) : List Char → Option (List Char × List Char)
  | [] => none
  | '"' :: rest => some (read.reverse, rest)
  | '\\' :: 'x' :: a :: b :: rest => (character? [a, b]).bind fun c ↦ basic? (c :: read) rest
  | '\\' :: 'u' :: a :: b :: c :: d :: rest =>
    (character? [a, b, c, d]).bind fun c ↦ basic? (c :: read) rest
  | '\\' :: 'U' :: a :: b :: c :: d :: e :: f :: g :: h :: rest =>
    (character? [a, b, c, d, e, f, g, h]).bind fun c ↦ basic? (c :: read) rest
  | '\\' :: c :: rest => (escaped? c).bind fun c ↦ basic? (c :: read) rest
  | c :: rest => if isControl c || c = '\\' then none else basic? (c :: read) rest

/-- The rest of a text on one line between single quotes. -/
def literal? (read : List Char) : List Char → Option (List Char × List Char)
  | [] => none
  | '\'' :: rest => some (read.reverse, rest)
  | c :: rest => if isControl c then none else literal? (c :: read) rest

/-- Whether only blanks stand before the next newline. -/
def endsLine (s : List Char) : Bool :=
  match s.dropWhile isGap with
  | '\n' :: _ => true
  | '\r' :: '\n' :: _ => true
  | _ => false

/-- The rest of a text on several lines between double quotes, three of them on each side. After a
backslash at the end of a line, blanks and newlines are skipped. -/
def multiBasic? (skipping : Bool) (read : List Char) : List Char → Option (List Char × List Char)
  | [] => none
  | '"' :: '"' :: '"' :: '"' :: '"' :: rest => some (('"' :: '"' :: read).reverse, rest)
  | '"' :: '"' :: '"' :: '"' :: rest => some (('"' :: read).reverse, rest)
  | '"' :: '"' :: '"' :: rest => some (read.reverse, rest)
  | '\r' :: '\n' :: rest => multiBasic? skipping (if skipping then read else '\n' :: read) rest
  | '\n' :: rest => multiBasic? skipping (if skipping then read else '\n' :: read) rest
  | '\\' :: 'x' :: a :: b :: rest =>
    (character? [a, b]).bind fun c ↦ multiBasic? false (c :: read) rest
  | '\\' :: 'u' :: a :: b :: c :: d :: rest =>
    (character? [a, b, c, d]).bind fun c ↦ multiBasic? false (c :: read) rest
  | '\\' :: 'U' :: a :: b :: c :: d :: e :: f :: g :: h :: rest =>
    (character? [a, b, c, d, e, f, g, h]).bind fun c ↦ multiBasic? false (c :: read) rest
  | '\\' :: c :: rest =>
    match escaped? c with
    | some c => multiBasic? false (c :: read) rest
    | none => if endsLine (c :: rest) then multiBasic? true read (c :: rest) else none
  | c :: rest =>
    if isControl c || c = '\\' then none
    else if skipping && isGap c then multiBasic? true read rest
    else multiBasic? false (c :: read) rest

/-- The rest of a text on several lines between single quotes, three of them on each side. -/
def multiLiteral? (read : List Char) : List Char → Option (List Char × List Char)
  | [] => none
  | '\'' :: '\'' :: '\'' :: '\'' :: '\'' :: rest => some (('\'' :: '\'' :: read).reverse, rest)
  | '\'' :: '\'' :: '\'' :: '\'' :: rest => some (('\'' :: read).reverse, rest)
  | '\'' :: '\'' :: '\'' :: rest => some (read.reverse, rest)
  | '\r' :: '\n' :: rest => multiLiteral? ('\n' :: read) rest
  | '\n' :: rest => multiLiteral? ('\n' :: read) rest
  | c :: rest => if isControl c then none else multiLiteral? (c :: read) rest

/-- What follows the newline at the start of a text on several lines, if there is one. -/
def afterNewline : List Char → List Char
  | '\n' :: rest => rest
  | '\r' :: '\n' :: rest => rest
  | s => s

/-- A text in quotes, and what follows it. -/
def quoted? : List Char → Option (List Char × List Char)
  | '"' :: '"' :: '"' :: rest => multiBasic? false [] (afterNewline rest)
  | '\'' :: '\'' :: '\'' :: rest => multiLiteral? [] (afterNewline rest)
  | '"' :: rest => basic? [] rest
  | '\'' :: rest => literal? [] rest
  | _ => none

/-! ## Numbers -/

/-- Digits without the underscores between them. An underscore stands between two digits. -/
def digits? (isDigit : Char → Bool) : List Char → Option (List Char)
  | [] => none
  | [c] => if isDigit c then some [c] else none
  | c :: '_' :: d :: rest =>
    if isDigit c && isDigit d then (digits? isDigit (d :: rest)).map (c :: ·) else none
  | c :: rest => if isDigit c then (digits? isDigit rest).map (c :: ·) else none

/-- The value of digits in a base. -/
def inBase (base : Nat) (digits : List Char) : Nat :=
  digits.foldl (fun n c ↦ n * base +
    (if c.isDigit then c.toNat - '0'.toNat else c.toLower.toNat - 'a'.toNat + 10)) 0

/-- Decimal digits of an integer, without a superfluous leading zero. -/
def wholeDigits? (s : List Char) : Option (List Char) :=
  (digits? Char.isDigit s).filter fun ds ↦ ds.length = 1 || ds.head? ≠ some '0'

/-- An integer of 64 bits. -/
def inRange? (n : Int) : Option Setting :=
  if Width.IsSigned64 n then some (.integer n) else none

/-- A sign, if there is one: whether it is a minus sign. -/
def signOf : List Char → Bool × List Char
  | '-' :: rest => (true, rest)
  | '+' :: rest => (false, rest)
  | rest => (false, rest)

/-- Hexadecimal digits. -/
def isHexadecimal (c : Char) : Bool :=
  c.isDigit || ('a' ≤ c && c ≤ 'f') || ('A' ≤ c && c ≤ 'F')

/-- The integer that a run of characters spells. -/
def integer? (s : List Char) : Option Setting :=
  match s with
  | '0' :: 'x' :: rest => (digits? isHexadecimal rest).bind fun ds ↦ inRange? (inBase 16 ds)
  | '0' :: 'o' :: rest =>
    (digits? (fun c ↦ '0' ≤ c && c ≤ '7') rest).bind fun ds ↦ inRange? (inBase 8 ds)
  | '0' :: 'b' :: rest =>
    (digits? (fun c ↦ c = '0' || c = '1') rest).bind fun ds ↦ inRange? (inBase 2 ds)
  | s =>
    let (negative, s) := signOf s
    (wholeDigits? s).bind fun ds ↦
      inRange? (if negative then -(inBase 10 ds : Int) else inBase 10 ds)

/-- The number nearest to digits times a power of ten. -/
def nearest (digits : Nat) (power : Int) : Float :=
  if digits = 0 then 0.0
  else if power < -100000 then 0.0
  else if 0 ≤ power then
    if 400 < power then 1.0 / 0.0 else Float.ofScientific digits false power.toNat
  else Float.ofScientific digits true power.natAbs

/-- The power of ten at the end of a floating-point number. -/
def power? : List Char → Option Int
  | [] => some 0
  | c :: rest =>
    if c = 'e' || c = 'E' then
      let (negative, rest) := signOf rest
      (digits? Char.isDigit rest).map fun ds ↦
        if negative then -(inBase 10 ds : Int) else inBase 10 ds
    else none

/-- The characters before a power of ten. -/
def isNoPower (c : Char) : Bool := c ≠ 'e' && c ≠ 'E'

/-- The floating-point number that a run of characters spells, if it is not too large. -/
def real? (s : List Char) : Option Setting := do
  let (negative, s) := signOf s
  let signed (x : Float) : Setting := .real (if negative then -x else x)
  if s = ['i', 'n', 'f'] then return signed (1.0 / 0.0)
  if s = ['n', 'a', 'n'] then return signed (0.0 / 0.0)
  let power ← power? (s.dropWhile isNoPower)
  let mantissa := s.takeWhile isNoPower
  let whole ← wholeDigits? (mantissa.takeWhile (· ≠ '.'))
  let fraction ← match mantissa.dropWhile (· ≠ '.') with
    | [] => some []
    | _ :: rest => digits? Char.isDigit rest
  let x := nearest (inBase 10 (whole ++ fraction)) (power - fraction.length)
  if x.isInf then none else return signed x

/-! ## Dates and times -/

/-- The value of exactly `n` decimal digits, and what follows them. -/
def fixed? (n : Nat) (s : List Char) : Option (Nat × List Char) :=
  let digits := s.take n
  if digits.length = n && digits.all Char.isDigit then some (inBase 10 digits, s.drop n) else none

/-- What follows a character that must come next. -/
def expect? (c : Char) : List Char → Option (List Char)
  | d :: rest => if c = d then some rest else none
  | [] => none

/-- The number of days of a month. -/
def daysOf (year month : Nat) : Nat :=
  if month = 2 then
    if year % 4 = 0 && (year % 100 ≠ 0 || year % 400 = 0) then 29 else 28
  else if month ∈ [4, 6, 9, 11] then 30 else 31

/-- A number with at least `n` digits. -/
def padded (n k : Nat) : List Char :=
  let digits := Nat.toDigits 10 k
  List.replicate (n - digits.length) '0' ++ digits

/-- A date, and what follows it. -/
def date? (s : List Char) : Option (List Char × List Char) := do
  let (year, s) ← fixed? 4 s
  let (month, s) ← fixed? 2 (← expect? '-' s)
  let (day, s) ← fixed? 2 (← expect? '-' s)
  if 1 ≤ month && month ≤ 12 && 1 ≤ day && day ≤ daysOf year month then
    return (padded 4 year ++ '-' :: padded 2 month ++ '-' :: padded 2 day, s)
  else none

/-- The fraction of a second, up to nine digits and without zeros at its end. -/
def fractionText (digits : List Char) : List Char :=
  let digits := ((digits.take 9).reverse.dropWhile (· = '0')).reverse
  if digits.isEmpty then [] else '.' :: digits

/-- A time, and what follows it. -/
def time? (s : List Char) : Option (List Char × List Char) := do
  let (hour, s) ← fixed? 2 s
  let (minute, s) ← fixed? 2 (← expect? ':' s)
  if 23 < hour || 59 < minute then none
  let short := padded 2 hour ++ ':' :: padded 2 minute
  match s with
  | ':' :: rest =>
    let (second, s) ← fixed? 2 rest
    if 60 < second then none
    let long := short ++ ':' :: padded 2 second
    match s with
    | '.' :: rest =>
      let digits := rest.takeWhile Char.isDigit
      if digits.isEmpty then none
      else return (long ++ fractionText digits, rest.dropWhile Char.isDigit)
    | s => return (long, s)
  | s => return (short, s)

/-- The offset of a time, which ends the text. -/
def offset? : List Char → Option (List Char)
  | [] => some []
  | ['Z'] | ['z'] => some ['Z']
  | sign :: rest => do
    if sign ≠ '+' && sign ≠ '-' then none
    let (hours, s) ← fixed? 2 rest
    let (minutes, s) ← fixed? 2 (← expect? ':' s)
    if !s.isEmpty || 23 < hours || 59 < minutes then none
    return sign :: padded 2 hours ++ ':' :: padded 2 minutes

/-- The date or time that a run of characters spells. -/
def dateTime? (s : List Char) : Option (List Char) :=
  match date? s with
  | some (date, []) => some date
  | some (date, mark :: rest) => do
    if mark ≠ 'T' && mark ≠ 't' && mark ≠ ' ' then none
    let (time, s) ← time? rest
    return date ++ 'T' :: time ++ (← offset? s)
  | none => do
    let (time, s) ← time? s
    if s.isEmpty then return time else none

/-- Whether a run of characters starts as a date or a time does. -/
def startsAsDate (s : List Char) : Bool :=
  let digits := s.takeWhile Char.isDigit
  match s.dropWhile Char.isDigit with
  | '-' :: _ => digits.length = 4
  | ':' :: _ => digits.length = 2
  | _ => false

/-! ## Runs of characters -/

/-- The characters of scalars without quotes. -/
def isBareChar (c : Char) : Bool :=
  c.isAlphanum || c = '_' || c = '-' || c = '+' || c = '.' || c = ':'

/-- The run of characters at the start of a text, and what follows it. A blank between a date and a
time belongs to the run. -/
def bareRun (s : List Char) : List Char × List Char :=
  let run := s.takeWhile isBareChar
  let rest := s.dropWhile isBareChar
  match rest with
  | ' ' :: a :: b :: ':' :: _ =>
    if run.length = 10 && startsAsDate run && a.isDigit && b.isDigit then
      let after := rest.drop 1
      (run ++ ' ' :: after.takeWhile isBareChar, after.dropWhile isBareChar)
    else (run, rest)
  | _ => (run, rest)

/-- The scalar that a run of characters spells. -/
def bare? (run : List Char) : Option Setting :=
  if run = ['t', 'r', 'u', 'e'] then some (.boolean true)
  else if run = ['f', 'a', 'l', 's', 'e'] then some (.boolean false)
  else if startsAsDate run then (dateTime? run).map fun s ↦ .text (String.ofList s)
  else (integer? run).orElse fun _ ↦ real? run

end WebTestRun.Toml
