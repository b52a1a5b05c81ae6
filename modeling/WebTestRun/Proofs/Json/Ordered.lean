import WebTestRun.Event.Read
import WebTestRun.Proofs.Collection.Keyed

/-!
# Values that are read are ordered

The members of an object that was read stand in increasing order of their keys, at every depth. So
the text of such a value does not depend on the order in which its members were given.

* `Json.Ordered` — all members of a value stand in order.
* `Document.ordered_of_json?` — every value of a document is ordered.
* `Event.read_ordered` — so is the output of a process in an event that was read.
-/

set_option autoImplicit false

namespace WebTestRun

/-- All objects in a value hold their members in increasing order of their keys. -/
inductive Json.Ordered : Json → Prop where
  | null : Ordered .null
  | bool (b : Bool) : Ordered (.bool b)
  | number (n : Number) : Ordered (.number n)
  | string (s : String) : Ordered (.string s)
  | array {items : List Json} (hitems : ∀ j ∈ items, Ordered j) : Ordered (.array items)
  | object {members : List (String × Json)} (hkeys : Keyed.Ordered members)
    (hmembers : ∀ m ∈ members, Ordered m.2) : Ordered (.object members)

/-- Members in any order make an ordered object. -/
theorem Json.Ordered.ofMembers {members : List (String × Json)} (h : ∀ m ∈ members, m.2.Ordered) :
    (Json.ofMembers members).Ordered :=
  .object (Keyed.ordered_ofList members) fun m hm ↦ h m (Keyed.mem_of_mem_ofList hm)

namespace Document

mutual

theorem ordered_of_value? : ∀ {depth : Nat} {d : Document} {j : Json},
    d.value? depth = some j → j.Ordered
  | _, .null, j, h => by
    rw [value?] at h
    exact Option.some.inj h ▸ .null
  | _, .bool b, j, h => by
    rw [value?] at h
    exact Option.some.inj h ▸ .bool b
  | _, .number n, j, h => by
    rw [value?] at h
    obtain ⟨n, -, rfl⟩ := Option.map_eq_some_iff.mp h
    exact .number n
  | _, .string s, j, h => by
    rw [value?] at h
    obtain ⟨s, -, rfl⟩ := Option.map_eq_some_iff.mp h
    exact .string s
  | 0, .array items, j, h => by
    rw [value?] at h
    cases h
  | depth + 1, .array items, j, h => by
    rw [value?] at h
    obtain ⟨values, hvalues, rfl⟩ := Option.map_eq_some_iff.mp h
    exact .array (ordered_of_values? hvalues)
  | 0, .object members, j, h => by
    rw [value?] at h
    cases h
  | depth + 1, .object members, j, h => by
    rw [value?] at h
    obtain ⟨values, hvalues, rfl⟩ := Option.map_eq_some_iff.mp h
    exact .ofMembers (ordered_of_members? hvalues)

theorem ordered_of_values? : ∀ {depth : Nat} {ds : List Document} {js : List Json},
    values? depth ds = some js → ∀ j ∈ js, j.Ordered
  | _, [], js, h => by
    rw [values?] at h
    exact Option.some.inj h ▸ nofun
  | depth, d :: ds, js, h => by
    rw [values?] at h
    obtain ⟨j, hj, h⟩ := Option.bind_eq_some_iff.mp h
    obtain ⟨rest, hrest, rfl⟩ := Option.map_eq_some_iff.mp h
    exact List.forall_mem_cons.mpr ⟨ordered_of_value? hj, ordered_of_values? hrest⟩

theorem ordered_of_members? : ∀ {depth : Nat} {ds : List (Option String × Document)}
    {ms : List (String × Json)}, members? depth ds = some ms → ∀ m ∈ ms, m.2.Ordered
  | _, [], ms, h => by
    rw [members?] at h
    exact Option.some.inj h ▸ nofun
  | depth, (key, d) :: ds, ms, h => by
    rw [members?] at h
    obtain ⟨k, -, h⟩ := Option.bind_eq_some_iff.mp h
    obtain ⟨j, hj, h⟩ := Option.bind_eq_some_iff.mp h
    obtain ⟨rest, hrest, rfl⟩ := Option.map_eq_some_iff.mp h
    exact List.forall_mem_cons.mpr ⟨ordered_of_value? hj, ordered_of_members? hrest⟩

end

/-- **Every value of a document is ordered.** -/
theorem ordered_of_json? {d : Document} {j : Json} (h : d.json? = some j) : j.Ordered :=
  ordered_of_value? h

end Document

namespace Event

theorem ordered_of_action? {name : String} {members : List (String × Json)} {command : String}
    {data : Json} (h : action? name members = some (.processOutput command data)) :
    data.Ordered := by
  rw [action?] at h
  obtain ⟨f, -, h⟩ := Option.bind_eq_some_iff.mp h
  -- No other name gives the output of a process.
  split at h
  all_goals simp only [Option.bind_eq_bind, Option.pure_def, Option.bind_eq_some_iff,
    Option.some.injEq, reduceCtorEq, and_false, exists_false, Action.processOutput.injEq] at h
  obtain ⟨command', -, data', hdata, -, rfl⟩ := h
  rw [Fields.valueOr] at hdata
  split at hdata
  · exact Option.some.inj hdata ▸ .null
  · exact Document.ordered_of_json? hdata

/-- **The output of a process is ordered** in every event that was read. -/
theorem read_ordered {line : String} {e : Event} (h : read line = .ok e) {command : String}
    {data : Json} (haction : e.action = .processOutput command data) : data.Ordered := by
  rw [read] at h
  split at h
  · cases h
  · split at h
    · cases h
    · rename_i action hread
      obtain rfl := Except.ok.inj h
      dsimp only at haction
      exact ordered_of_action? (haction ▸ hread)

end Event

end WebTestRun
