import WebTestRun.Collection.Choice

/-!
# Names of alternatives

The values of a short list have names, and no two share one. Reading a name is looking it up in
the list.

* `Named` — a listed type with names.
* `Named.ofName?` — the value of a name.
* `Named.names` — all names, as messages list them.
-/

set_option autoImplicit false

namespace WebTestRun

/-- A listed type whose values have names of their own. -/
class Named (α : Type) extends Listed α where
  /-- The name of a value. -/
  name : α → String
  /-- No two values share a name. -/
  name_injective : ∀ a b : α, name a = name b → a = b

namespace Named

variable {α : Type} [Named α]

/-- The value with a name. -/
def ofName? (s : String) : Option α := Listed.all.find? fun a ↦ decide (name a = s)

/-- The names of all values in their order, with commas between them. -/
def names (α : Type) [Named α] : String :=
  ", ".intercalate ((Listed.all : List α).map name)

theorem ofName?_eq_some_iff {s : String} {a : α} : ofName? s = some a ↔ name a = s := by
  constructor
  · intro h
    simpa using List.find?_some h
  · rintro rfl
    cases h : ofName? (α := α) (name a) with
    | none =>
      have := List.find?_eq_none.1 h a (Listed.mem_all a)
      simp at this
    | some b =>
      have := List.find?_some h
      rw [name_injective b a (by simpa using this)]

theorem ofName?_name (a : α) : ofName? (name a) = some a := ofName?_eq_some_iff.2 rfl

end Named

/-- The names of the members of a set, in their order. -/
def Choice.names {α : Type} [Named α] (s : Choice α) : List String := s.toList.map Named.name

end WebTestRun
