/-!
# Entries under keys

Lists of entries, each under a text. Two disciplines put an entry into such a list, and a list is
built with one of them only:

* `Keyed.insert` keeps the keys in increasing order, as the members of a JSON object and the
  children of a directory are kept;
* `Keyed.put` keeps the order in which the keys first came, as subtests and finished tests are
  kept.

With either, an entry under a key that is there already takes its place. `Keyed.find?` reads.
Texts are compared character by character, which is also the order of their UTF-8 bytes.
-/

set_option autoImplicit false

namespace WebTestRun.Keyed

variable {α : Type}

/-- The entry under a key. -/
def find? (k : String) : List (String × α) → Option α
  | [] => none
  | (j, a) :: rest => if j = k then some a else find? k rest

/-- Whether there is an entry under the key. -/
def has (k : String) (l : List (String × α)) : Bool := (find? k l).isSome

/-- The keys, in the order of the list. -/
def keys (l : List (String × α)) : List String := l.map (·.1)

/-- The list with an entry put at the place of its key in increasing order. -/
def insert (k : String) (a : α) : List (String × α) → List (String × α)
  | [] => [(k, a)]
  | (j, b) :: rest =>
    if k = j then (k, a) :: rest
    else if k < j then (k, a) :: (j, b) :: rest
    else (j, b) :: insert k a rest

/-- The list with an entry put in the place of its key, or after all others. -/
def put (k : String) (a : α) : List (String × α) → List (String × α)
  | [] => [(k, a)]
  | (j, b) :: rest => if j = k then (k, a) :: rest else (j, b) :: put k a rest

/-- The list without the entry under a key. -/
def erase (k : String) (l : List (String × α)) : List (String × α) :=
  l.filter fun e ↦ decide (e.1 ≠ k)

/-- The entries in increasing order of their keys; of two with one key the later counts. -/
def ofList (l : List (String × α)) : List (String × α) :=
  l.foldl (fun acc e ↦ insert e.1 e.2 acc) []

/-- The keys are in strictly increasing order. -/
def Ordered (l : List (String × α)) : Prop := (keys l).Pairwise (· < ·)

@[simp] theorem find?_nil (k : String) : find? k ([] : List (String × α)) = none := rfl

theorem find?_insert (k q : String) (a : α) (l : List (String × α)) :
    find? q (insert k a l) = if k = q then some a else find? q l := by
  induction l with
  | nil => rfl
  | cons e rest ih => grind [insert, find?]

theorem find?_put (k q : String) (a : α) (l : List (String × α)) :
    find? q (put k a l) = if k = q then some a else find? q l := by
  induction l with
  | nil => rfl
  | cons e rest ih => grind [put, find?]

theorem find?_erase (k q : String) (l : List (String × α)) :
    find? q (erase k l) = if k = q then none else find? q l := by
  induction l with
  | nil => simp [erase]
  | cons e rest ih => grind [erase, find?]

/-- A key that is new comes last; one that is there keeps its place. -/
theorem keys_put (k : String) (a : α) (l : List (String × α)) :
    keys (put k a l) = if k ∈ keys l then keys l else keys l ++ [k] := by
  induction l with
  | nil => rfl
  | cons e rest ih => grind [put, keys]

theorem mem_keys_iff {k : String} {l : List (String × α)} : k ∈ keys l ↔ (find? k l).isSome := by
  induction l with
  | nil => simp [keys]
  | cons e rest ih => grind [keys, find?]

end WebTestRun.Keyed
