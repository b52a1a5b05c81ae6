import WebTestRun.Json.Basic

/-!
# Equal values

Values can be compared, so that what a text is read as can be computed and looked at. Lists of items
and of members lie in values, so the comparison goes down them together.

* `Json.equals` — the comparison, and `Json.equals_iff` — it finds out whether values are equal.
-/

set_option autoImplicit false

namespace WebTestRun.Json

mutual

/-- Whether two values are equal. -/
def equals : Json → Json → Bool
  | .null, .null => true
  | .bool b, .bool b' => b = b'
  | .number n, .number n' => n = n'
  | .string s, .string s' => s = s'
  | .array items, .array items' => equalItems items items'
  | .object members, .object members' => equalMembers members members'
  | _, _ => false

/-- Whether two lists of items are equal. -/
def equalItems : List Json → List Json → Bool
  | [], [] => true
  | j :: items, j' :: items' => equals j j' && equalItems items items'
  | _, _ => false

/-- Whether two lists of members are equal. -/
def equalMembers : List (String × Json) → List (String × Json) → Bool
  | [], [] => true
  | (k, j) :: members, (k', j') :: members' =>
    k = k' && equals j j' && equalMembers members members'
  | _, _ => false

end

mutual

/-- **The comparison finds out whether values are equal.** -/
theorem equals_iff : ∀ j j' : Json, equals j j' = true ↔ j = j'
  | .null, j' => by cases j' <;> simp [equals]
  | .bool b, j' => by cases j' <;> simp [equals]
  | .number n, j' => by cases j' <;> simp [equals]
  | .string s, j' => by cases j' <;> simp [equals]
  | .array items, j' => by cases j' <;> simp [equals, equalItems_iff items]
  | .object members, j' => by cases j' <;> simp [equals, equalMembers_iff members]

theorem equalItems_iff :
    ∀ items items' : List Json, equalItems items items' = true ↔ items = items'
  | [], items' => by cases items' <;> simp [equalItems]
  | _ :: _, [] => by simp [equalItems]
  | j :: items, j' :: items' => by
    rw [equalItems, Bool.and_eq_true, equals_iff j, equalItems_iff items, List.cons.injEq]

theorem equalMembers_iff : ∀ members members' : List (String × Json),
    equalMembers members members' = true ↔ members = members'
  | [], members' => by cases members' <;> simp [equalMembers]
  | _ :: _, [] => by simp [equalMembers]
  | (k, j) :: members, (k', j') :: members' => by
    rw [equalMembers, Bool.and_eq_true, Bool.and_eq_true, decide_eq_true_eq, equals_iff j,
      equalMembers_iff members, List.cons.injEq, Prod.mk.injEq]

end

instance : DecidableEq Json := fun j j' ↦ decidable_of_iff _ (equals_iff j j')

end WebTestRun.Json
