/-!
# Sets of alternatives

Statuses and verdicts come from short lists, and an expectation allows several of them. Such a
set is its membership test; what is printed of it follows the order of the list, however the set
was put together, so two equal sets print alike.

* `Listed` — a type whose values are listed in their order of precedence.
* `Choice` — a set of such values.
* `Choice.toList` — its members in that order.
-/

set_option autoImplicit false

namespace WebTestRun

/-- A type whose values are listed, each of them once. -/
class Listed (α : Type) where
  /-- Every value, in the order in which sets are printed. -/
  all : List α
  /-- No value is missing from the list. -/
  mem_all : ∀ a : α, a ∈ all

/-- A set of alternatives. -/
@[ext] structure Choice (α : Type) where
  /-- Whether a value is one of them. -/
  has : α → Bool

namespace Choice

variable {α : Type}

/-- No alternative. -/
def none : Choice α := ⟨fun _ ↦ false⟩

/-- The alternatives that occur in a list. -/
def ofList [BEq α] (xs : List α) : Choice α := ⟨fun a ↦ xs.contains a⟩

/-- One more alternative. -/
def insert [BEq α] (s : Choice α) (a : α) : Choice α := ⟨fun b ↦ b == a || s.has b⟩

/-- The alternatives of either set. -/
def union (s t : Choice α) : Choice α := ⟨fun a ↦ s.has a || t.has a⟩

/-- The alternatives in the order of the list of all values. -/
def toList [Listed α] (s : Choice α) : List α := Listed.all.filter s.has

/-- Whether there is no alternative. -/
def isEmpty [Listed α] (s : Choice α) : Bool := s.toList.isEmpty

theorem mem_toList [Listed α] {s : Choice α} {a : α} : a ∈ s.toList ↔ s.has a = true := by
  simp [toList, Listed.mem_all]

theorem has_ofList [BEq α] [LawfulBEq α] {xs : List α} {a : α} :
    (ofList xs).has a = true ↔ a ∈ xs := by
  simp [ofList]

theorem has_insert [BEq α] [LawfulBEq α] {s : Choice α} {a b : α} :
    (s.insert a).has b = true ↔ b = a ∨ s.has b = true := by
  simp [insert]

theorem has_union {s t : Choice α} {a : α} :
    (s.union t).has a = true ↔ s.has a = true ∨ t.has a = true := by
  simp [union]

theorem eq_of_toList_eq [Listed α] {s t : Choice α} (h : s.toList = t.toList) : s = t := by
  ext a
  have hs := mem_toList (s := s) (a := a)
  rw [h, mem_toList] at hs
  cases hs' : s.has a <;> cases ht : t.has a <;> simp_all

instance [Listed α] [DecidableEq α] : DecidableEq (Choice α) := fun s t ↦
  if h : s.toList = t.toList then .isTrue (eq_of_toList_eq h)
  else .isFalse fun e ↦ h (by rw [e])

end Choice

end WebTestRun
