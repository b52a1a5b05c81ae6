import WebTestRun.Decimal.Width
import WebTestRun.Json.Document

/-!
# Records in documents

A record has named fields. A document gives them as the members of an object, in any order and
each at most once, or as an array in the order of the fields, which must not go on after the last.
Members under other names are ignored, whatever they hold.

* `Document.fields?` — the fields that a document gives.
* `Fields.required?`, `Fields.optional`, `Fields.valueOr` — one of them.
* `Document.natural?`, `Document.text?` and others — values of one type.
-/

set_option autoImplicit false

namespace WebTestRun

/-- The fields of a record as a document gives them. -/
structure Fields where
  /-- What was given, under the names of the fields. -/
  given : List (String × Document)
  /-- Whether the fields were given by name. -/
  byName : Bool

namespace Fields

/-- A field, if it was given. -/
def optional (f : Fields) (name : String) : Option Document := Keyed.find? name f.given

/-- A field that must be given. -/
def required? (f : Fields) (name : String) : Option Document := f.optional name

/-- A field that may be left out by name but not by position: null stands for it. -/
def nullable? (f : Fields) (name : String) : Option Document :=
  match f.optional name with
  | some d => some d
  | none => if f.byName then some .null else none

/-- What is read of a field, or what stands for it if it was not given. -/
def valueOr {α : Type} (f : Fields) (name : String) (absent : α) (read? : Document → Option α) :
    Option α :=
  match f.optional name with
  | none => some absent
  | some d => read? d

end Fields

namespace Document

/-- The members of an object that are fields of a record. A key must be a text; no field may be
given twice. -/
def namedFields? (names : List String) :
    List (Option String × Document) → Option (List (String × Document))
  | [] => some []
  | (none, _) :: _ => none
  | (some k, d) :: rest =>
    (namedFields? names rest).bind fun given ↦
      if !names.contains k then some given
      else if Keyed.has k given then none
      else some ((k, d) :: given)

/-- The fields that a document gives. -/
def fields? (names : List String) : Document → Option Fields
  | .object members => (namedFields? names members).map fun given ↦ ⟨given, true⟩
  | .array items =>
    if items.length ≤ names.length then some ⟨names.zip items, false⟩ else none
  | _ => none

/-- An integer. -/
def integer? : Document → Option Int
  | .number (some (.integer n)) => some n
  | _ => none

/-- An integer of 64 bits with a sign. -/
def signed? (d : Document) : Option Int :=
  d.integer?.filter fun n ↦ decide (Width.IsSigned64 n)

/-- An integer that is not negative. -/
def natural? (d : Document) : Option Nat :=
  d.integer?.bind fun n ↦ if 0 ≤ n then some n.toNat else none

/-- A number, as a floating-point number. -/
def real? : Document → Option Float
  | .number (some (.integer n)) => some (Float.ofInt n)
  | .number (some (.real x)) => some x
  | _ => none

/-- A truth value. -/
def boolean? : Document → Option Bool
  | .bool b => some b
  | _ => none

/-- A text. -/
def text? : Document → Option String
  | .string s => s
  | _ => none

/-- Null, or a value of some type. -/
def orNull? {α : Type} (f : Document → Option α) : Document → Option (Option α)
  | .null => some none
  | d => (f d).map some

/-- A list of values of some type. -/
def list? {α : Type} (f : Document → Option α) : Document → Option (List α)
  | .array items => items.mapM f
  | _ => none

end Document

end WebTestRun
