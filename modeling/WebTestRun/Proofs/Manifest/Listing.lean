import WebTestRun.Manifest
import WebTestRun.Proofs.Collection.Answer
import WebTestRun.Proofs.Json.Ordered

/-!
# What a manifest lists

Under the name of a kind a manifest has a tree of objects, and the tests stand in the arrays at its
ends. So an element of an array has an address: the names that lead to the array, and its number in
it. A tree is read in the order of these addresses, and the manifest lists what an element says, at
its address.

* `Json.at?`, `Address`, `Address.Before` — addresses and their order.
* `Json.elements` — all elements with their addresses: exactly those that are there
  (`Json.Ordered.mem_elements`), in order (`Json.Ordered.pairwise_elements`).
* `Manifest.IsTree`, `Manifest.Names`, `Manifest.Lists` — what a tree must look like, and what is
  listed at an address.
* `Manifest.itemTests?_eq_some_iff` — what is read of the items of a manifest.
* `Manifest.mem_listing`, `Manifest.pairwise_listing` — that is all that is listed, in order.
-/

set_option autoImplicit false

namespace WebTestRun

/-! ## Addresses -/

/-- The value at the end of a path of keys. -/
def Json.at? : List String → Json → Option Json
  | [], j => some j
  | key :: keys, j => (j.member? key).bind (at? keys)

/-- Where an element of an array stands. -/
structure Address where
  /-- The keys that lead to the array. -/
  keys : List String
  /-- The number of the element, counted from zero. -/
  index : Nat
  deriving DecidableEq

namespace Address

/-- The address seen from one object further out. -/
def under (key : String) (a : Address) : Address := ⟨key :: a.keys, a.index⟩

/-- The order of addresses: that of the keys, and then that of the array. -/
def Before (a b : Address) : Prop := a.keys < b.keys ∨ a.keys = b.keys ∧ a.index < b.index

variable {a b : Address}

theorem Before.asymm (h : a.Before b) : ¬ b.Before a := by
  rintro (hkeys | ⟨hkeys, hindex⟩)
  · rcases h with h | h
    · exact List.lt_asymm h hkeys
    · rw [h.1] at hkeys
      exact List.lt_irrefl _ hkeys
  · rcases h with h | h
    · rw [hkeys] at h
      exact List.lt_irrefl _ h
    · omega

theorem Before.under (h : a.Before b) (key : String) : (a.under key).Before (b.under key) :=
  h.imp List.cons_lt_cons_self.mpr fun h ↦ ⟨congrArg (key :: ·) h.1, h.2⟩

theorem before_under_of_lt {k l : String} (h : k < l) (a b : Address) :
    (a.under k).Before (b.under l) :=
  .inl (List.cons_lt_cons_iff.mpr (.inl h))

end Address

/-! ## The elements of a tree -/

namespace Json

mutual

/-- The elements of the arrays in a tree of objects, except for the first of each. -/
def elements : Json → List (Address × Json)
  | .array items => (items.zipIdx.drop 1).map fun p ↦ (⟨[], p.2⟩, p.1)
  | .object members => elementsBelow members
  | _ => []

/-- The elements of the arrays below the members of an object. -/
def elementsBelow : List (String × Json) → List (Address × Json)
  | [] => []
  | (key, j) :: rest => (j.elements.map fun e ↦ (e.1.under key, e.2)) ++ elementsBelow rest

end

theorem elementsBelow_eq (members : List (String × Json)) :
    elementsBelow members =
      members.flatMap fun m ↦ m.2.elements.map fun e ↦ (e.1.under m.1, e.2) := by
  induction members with
  | nil => rw [elementsBelow, List.flatMap_nil]
  | cons m members ih => rw [elementsBelow, ih, List.flatMap_cons]

/-- Nothing but the value itself can be reached in a value that is no object. -/
theorem at?_eq_some_iff_of_member? {j : Json} (h : ∀ key, j.member? key = none)
    {keys : List String} {node : Json} : j.at? keys = some node ↔ keys = [] ∧ j = node := by
  cases keys with
  | nil => simp [at?]
  | cons key keys => simp [at?, h]

theorem mem_elements_array {items : List Json} {a : Address} {e : Json} :
    (a, e) ∈ (Json.array items).elements ↔
      a.keys = [] ∧ 0 < a.index ∧ items[a.index]? = some e := by
  rw [elements, List.mem_map]
  constructor
  · rintro ⟨⟨item, i⟩, hmem, heq⟩
    obtain ⟨rfl, rfl⟩ := Prod.mk.inj heq
    obtain ⟨k, hk⟩ := List.mem_iff_getElem?.mp hmem
    rw [List.getElem?_drop, List.getElem?_zipIdx] at hk
    obtain ⟨found, hfound, heq⟩ := Option.map_eq_some_iff.mp hk
    obtain ⟨rfl, rfl⟩ := Prod.mk.inj heq
    refine ⟨rfl, ?_, ?_⟩
    · show 0 < 0 + (1 + k)
      omega
    · rwa [Nat.zero_add]
  · rintro ⟨hkeys, hindex, hitem⟩
    obtain ⟨keys, index⟩ := a
    obtain rfl : keys = [] := hkeys
    refine ⟨(e, index), List.mem_iff_getElem?.mpr ⟨index - 1, ?_⟩, rfl⟩
    have hnext : 1 + (index - 1) = index := Nat.add_sub_cancel' hindex
    rw [List.getElem?_drop, hnext, List.getElem?_zipIdx, Nat.zero_add]
    exact Option.map_eq_some_iff.mpr ⟨e, hitem, rfl⟩

/-- Nothing is there in a value that is neither an object nor an array. -/
theorem mem_elements_of_leaf {j : Json} (hmember : ∀ key, j.member? key = none)
    (harray : ∀ items, j ≠ .array items) (helements : j.elements = []) {a : Address} {e : Json} :
    (a, e) ∈ j.elements ↔
      ∃ items, j.at? a.keys = some (.array items) ∧ 0 < a.index ∧ items[a.index]? = some e := by
  rw [helements]
  refine iff_of_false List.not_mem_nil ?_
  rintro ⟨items, hat, -⟩
  exact harray items ((at?_eq_some_iff_of_member? hmember).mp hat).2

/-- **The elements are those that are there**, at the end of keys. -/
theorem Ordered.mem_elements {j : Json} (h : j.Ordered) {a : Address} {e : Json} :
    (a, e) ∈ j.elements ↔
      ∃ items, j.at? a.keys = some (.array items) ∧ 0 < a.index ∧ items[a.index]? = some e := by
  induction h generalizing a with
  | null => exact mem_elements_of_leaf (fun _ ↦ rfl) (by simp) rfl
  | bool b => exact mem_elements_of_leaf (fun _ ↦ rfl) (by simp) rfl
  | number n => exact mem_elements_of_leaf (fun _ ↦ rfl) (by simp) rfl
  | string s => exact mem_elements_of_leaf (fun _ ↦ rfl) (by simp) rfl
  | @array items hitems ih =>
    rw [mem_elements_array]
    have hat {items' : List Json} : (Json.array items).at? a.keys = some (.array items') ↔
        a.keys = [] ∧ items = items' := by
      rw [at?_eq_some_iff_of_member? fun _ ↦ rfl, Json.array.injEq]
    constructor
    · rintro ⟨hkeys, h⟩
      exact ⟨items, hat.mpr ⟨hkeys, rfl⟩, h⟩
    · rintro ⟨items', hitems', h⟩
      obtain ⟨hkeys, rfl⟩ := hat.mp hitems'
      exact ⟨hkeys, h⟩
  | @object members hkeys hmembers ih =>
    rw [elements, elementsBelow_eq, List.mem_flatMap]
    constructor
    · rintro ⟨m, hm, hmem⟩
      obtain ⟨⟨b, e'⟩, hb, heq⟩ := List.mem_map.mp hmem
      obtain ⟨rfl, rfl⟩ := Prod.mk.inj heq
      obtain ⟨items, hat, h⟩ := (ih m hm).mp hb
      refine ⟨items, ?_, h⟩
      rw [Address.under, at?, member?, Keyed.find?_eq_some_of_mem hkeys.nodup hm]
      exact hat
    · rintro ⟨items, hat, h⟩
      obtain ⟨keys, index⟩ := a
      cases keys with
      | nil => cases hat
      | cons key keys =>
        obtain ⟨node, hnode, hat⟩ := Option.bind_eq_some_iff.mp hat
        have hm := Keyed.mem_of_find? hnode
        refine ⟨(key, node), hm, List.mem_map.mpr ⟨(⟨keys, index⟩, e), ?_, rfl⟩⟩
        exact (ih _ hm).mpr ⟨items, hat, h⟩

/-- **The elements come in order** of their addresses. -/
theorem Ordered.pairwise_elements {j : Json} (h : j.Ordered) :
    (j.elements.map (·.1)).Pairwise Address.Before := by
  induction h with
  | null => exact .nil
  | bool b => exact .nil
  | number n => exact .nil
  | string s => exact .nil
  | @array items hitems ih =>
    rw [elements, List.map_map]
    have hindex : (items.zipIdx.map (·.2)).Pairwise (· < ·) := by
      rw [List.zipIdx_map_snd]
      exact List.pairwise_lt_range'
    exact List.pairwise_map.mpr (((List.pairwise_map.mp hindex).drop).imp fun h ↦ .inr ⟨rfl, h⟩)
  | @object members hkeys hmembers ih =>
    rw [elements, elementsBelow_eq, List.map_flatMap, List.pairwise_flatMap]
    constructor
    · intro m hm
      rw [List.map_map]
      have hunder := List.Pairwise.map (Address.under m.1) (fun _ _ h ↦ h.under m.1) (ih m hm)
      rwa [List.map_map] at hunder
    · refine (List.pairwise_map.mp hkeys).imp fun {m m'} hlt a ha b hb ↦ ?_
      obtain ⟨e, he, rfl⟩ := List.mem_map.mp ha
      obtain ⟨e', he', rfl⟩ := List.mem_map.mp hb
      obtain ⟨-, -, rfl⟩ := List.mem_map.mp he
      obtain ⟨-, -, rfl⟩ := List.mem_map.mp he'
      exact Address.before_under_of_lt hlt _ _

end Json

namespace Manifest

/-! ## What is listed -/

/-- The path of a file from the names that lead to it. Empty names in front leave no trace. -/
def pathOf (names : List String) : String := "/".intercalate (names.dropWhile (·.isEmpty))

/-- The URL that an element of a file names. -/
inductive Names (path : String) : Json → String → Prop where
  /-- A text is a URL, and one slash in front of it does not count. -/
  | url (url : String) (more : List Json) :
      Names path (.array (.string url :: more)) (TestName.withoutSlash url)
  /-- Null stands for the path of the file. -/
  | path (more : List Json) : Names path (.array (.null :: more)) path

/-- A value that may stand in a tree of tests. -/
inductive IsNode : Json → Prop where
  | directory (members : List (String × Json)) : IsNode (.object members)
  /-- The elements of a file, from the second on, are arrays that start with a text or null. -/
  | file {elements : List Json} (h : ∀ e ∈ elements.drop 1, ∃ more,
      e = .array (.null :: more) ∨ ∃ url, e = .array (.string url :: more)) :
      IsNode (.array elements)

/-- A tree of tests: a directory from which only directories and files are reached. -/
structure IsTree (tree : Json) : Prop where
  directory : ∃ members, tree = .object members
  nodes : ∀ keys node, tree.at? keys = some node → IsNode node

/-- The items of a manifest list a test under a URL, at an address whose first key is the kind. -/
def Lists (items : List (String × Json)) (a : Address) (url : String) (entry : Entry) : Prop :=
  ∃ names elements element, a.keys = Named.name entry.kind :: names ∧
    entry.path = pathOf names ∧ (Json.object items).at? a.keys = some (.array elements) ∧
    0 < a.index ∧ elements[a.index]? = some element ∧ Names entry.path element url

/-! ## Paths and URLs -/

theorem foldl_below_of_ne {path : String} (hpath : path ≠ "") (names : List String) :
    names.foldl Path.below path = "/".intercalate (path :: names) := by
  induction names generalizing path with
  | nil => rfl
  | cons name names ih =>
    have hbelow : Path.below path name = path ++ "/" ++ name := if_neg (by simpa using hpath)
    rw [List.foldl_cons, hbelow, ih (by simp)]
    rfl

/-- The path that is put together on the way to a file is the one of its names. -/
theorem foldl_below_eq (names : List String) : names.foldl Path.below "" = pathOf names := by
  induction names with
  | nil => rfl
  | cons name names ih =>
    have hbelow : Path.below "" name = name := if_pos rfl
    rw [List.foldl_cons, hbelow, pathOf]
    by_cases hname : name = ""
    · rw [hname, ih, List.dropWhile_cons_of_pos rfl, pathOf]
    · rw [foldl_below_of_ne hname, List.dropWhile_cons_of_neg (by simpa using hname)]

theorem url?_eq_some_iff {path url : String} {e : Json} :
    url? path e = some url ↔ Names path e url := by
  constructor
  · intro h
    rw [url?.eq_def] at h
    split at h
    · exact Option.some.inj h ▸ .url _ _
    · exact Option.some.inj h ▸ .path _
    · cases h
  · intro h
    cases h with
    | url => rfl
    | path => rfl

/-- Whether an element names a URL does not depend on its file. -/
theorem isSome_url?_iff {path : String} {e : Json} :
    (url? path e).isSome ↔ ∃ more,
      e = .array (.null :: more) ∨ ∃ url, e = .array (.string url :: more) := by
  rw [Option.isSome_iff_exists]
  constructor
  · rintro ⟨url, h⟩
    cases url?_eq_some_iff.mp h with
    | url url more => exact ⟨more, .inr ⟨url, rfl⟩⟩
    | path more => exact ⟨more, .inl rfl⟩
  · rintro ⟨more, rfl | ⟨url, rfl⟩⟩
    · exact ⟨_, rfl⟩
    · exact ⟨_, rfl⟩

/-! ## What is read of a tree -/

/-- The test of an element at an address below a path. -/
def testOf? (kind : TestKind) (path : String) (e : Address × Json) : Option (String × Entry) :=
  let file := e.1.keys.foldl Path.below path
  (url? file e.2).map fun url ↦ (url, ⟨kind, file⟩)

/-- A value from which only directories and files are reached. -/
inductive Branching : Json → Prop where
  | directory {members : List (String × Json)} (h : ∀ m ∈ members, Branching m.2) :
      Branching (.object members)
  | file (elements : List Json) : Branching (.array elements)

theorem branching_object_iff {members : List (String × Json)} :
    Branching (.object members) ↔ ∀ m ∈ members, Branching m.2 := by
  refine ⟨fun h ↦ ?_, .directory⟩
  cases h with
  | directory h => exact h

/-- The elements of a file in their order. -/
theorem fileTests?_eq (kind : TestKind) (path : String) (elements : List Json) :
    fileTests? kind path (elements.drop 1) =
      (Json.array elements).elements.mapM (testOf? kind path) := by
  have hdrop : elements.drop 1 = (elements.zipIdx.drop 1).map Prod.fst := by
    rw [List.map_drop, List.zipIdx_map_fst]
  rw [fileTests?, hdrop, Json.elements, List.mapM_map, List.mapM_map]
  rfl

mutual

/-- **What is read of a node** is what its elements say, if only directories and files are
reached. -/
theorem nodeTests?_eq_some_iff {kind : TestKind} {path : String} {tests : List (String × Entry)} :
    (node : Json) → (nodeTests? kind path node = some tests ↔
      Branching node ∧ node.elements.mapM (testOf? kind path) = some tests)
  | .null => iff_of_false nofun fun h ↦ nomatch h.1
  | .bool _ => iff_of_false nofun fun h ↦ nomatch h.1
  | .number _ => iff_of_false nofun fun h ↦ nomatch h.1
  | .string _ => iff_of_false nofun fun h ↦ nomatch h.1
  | .array elements => by
    rw [nodeTests?, fileTests?_eq]
    exact (and_iff_right (.file elements)).symm
  | .object members => by
    rw [nodeTests?, treeTests?_eq_some_iff members, branching_object_iff, Json.elements]

theorem treeTests?_eq_some_iff {kind : TestKind} {path : String} {tests : List (String × Entry)} :
    (members : List (String × Json)) → (treeTests? kind path members = some tests ↔
      (∀ m ∈ members, Branching m.2) ∧
        (Json.elementsBelow members).mapM (testOf? kind path) = some tests)
  | [] => by simp [treeTests?, Json.elementsBelow, pure]
  | (name, node) :: rest => by
    rw [treeTests?, List.forall_mem_cons, Json.elementsBelow, List.mapM_append, List.mapM_map]
    simp only [Option.bind_eq_some_iff, Option.map_eq_some_iff, nodeTests?_eq_some_iff node,
      treeTests?_eq_some_iff rest, Option.bind_eq_bind, Option.pure_def, Option.some.injEq]
    have hunder : (testOf? kind path ∘ fun e : Address × Json ↦ (e.1.under name, e.2)) =
        testOf? kind (Path.below path name) := rfl
    rw [hunder]
    constructor
    · rintro ⟨here, ⟨hnode, hhere⟩, later, ⟨hrest, hlater⟩, happend⟩
      exact ⟨⟨hnode, hrest⟩, here, hhere, later, hlater, happend⟩
    · rintro ⟨⟨hnode, hrest⟩, here, hhere, later, hlater, happend⟩
      exact ⟨here, ⟨hnode, hhere⟩, later, ⟨hrest, hlater⟩, happend⟩

end

/-! ## What is read of the items of a manifest -/

/-- The items under the names of kinds. -/
def kindsOf (items : List (String × Json)) : List (String × Json) :=
  items.filter fun m ↦ (Named.ofName? (α := TestKind) m.1).isSome

/-- The test of an element of the items, whose first key is the name of its kind. -/
def itemOf? : Address × Json → Option (String × Entry)
  | (⟨[], _⟩, _) => none
  | (⟨name :: keys, index⟩, e) =>
    (Named.ofName? (α := TestKind) name).bind fun kind ↦ testOf? kind "" (⟨keys, index⟩, e)

/-- **What is read of the items of a manifest** is what the elements under the names of kinds say,
if there only directories and files are reached. -/
theorem itemTests?_eq_some_iff {items : List (String × Json)} {tests : List (String × Entry)} :
    itemTests? items = some tests ↔
      (∀ m ∈ kindsOf items, (∃ members, m.2 = .object members) ∧ Branching m.2) ∧
        (Json.elementsBelow (kindsOf items)).mapM itemOf? = some tests := by
  induction items generalizing tests with
  | nil => simp [itemTests?, kindsOf, Json.elementsBelow, pure]
  | cons item items ih =>
    obtain ⟨name, tree⟩ := item
    rw [itemTests?]
    cases hkind : Named.ofName? (α := TestKind) name with
    | none =>
      have hskip : kindsOf ((name, tree) :: items) = kindsOf items :=
        List.filter_cons_of_neg (by simp [hkind])
      rw [hskip]
      exact ih
    | some kind =>
      have hkeep : kindsOf ((name, tree) :: items) = (name, tree) :: kindsOf items :=
        List.filter_cons_of_pos (by simp [hkind])
      have hunder : (itemOf? ∘ fun e : Address × Json ↦ (e.1.under name, e.2)) =
          testOf? kind "" := by
        funext e
        show (Named.ofName? (α := TestKind) name).bind _ = _
        rw [hkind]
        rfl
      rw [hkeep, List.forall_mem_cons, Json.elementsBelow, List.mapM_append, List.mapM_map, hunder]
      dsimp only
      split
      · rename_i members
        simp only [Option.bind_eq_some_iff, Option.map_eq_some_iff, treeTests?_eq_some_iff, ih,
          Option.bind_eq_bind, Option.pure_def, Option.some.injEq, branching_object_iff,
          Json.elements]
        constructor
        · rintro ⟨here, ⟨hnode, hhere⟩, later, ⟨hrest, hlater⟩, happend⟩
          exact ⟨⟨⟨⟨members, rfl⟩, hnode⟩, hrest⟩, here, hhere, later, hlater, happend⟩
        · rintro ⟨⟨⟨-, hnode⟩, hrest⟩, here, hhere, later, hlater, happend⟩
          exact ⟨here, ⟨hnode, hhere⟩, later, ⟨hrest, hlater⟩, happend⟩
      · rename_i hnot
        refine iff_of_false nofun ?_
        rintro ⟨⟨⟨⟨members, rfl⟩, -⟩, -⟩, -⟩
        exact hnot members rfl

theorem itemOf?_eq_some_iff {a : Address} {e : Json} {url : String} {entry : Entry} :
    itemOf? (a, e) = some (url, entry) ↔ ∃ names, a.keys = Named.name entry.kind :: names ∧
      entry.path = pathOf names ∧ Names entry.path e url := by
  obtain ⟨keys, index⟩ := a
  obtain ⟨kind, path⟩ := entry
  cases keys with
  | nil => exact iff_of_false nofun fun ⟨_, h, _⟩ ↦ nomatch h
  | cons name keys =>
    simp only [itemOf?, testOf?, foldl_below_eq, Option.bind_eq_some_iff, Option.map_eq_some_iff,
      Named.ofName?_eq_some_iff, url?_eq_some_iff, Prod.mk.injEq, Entry.mk.injEq, List.cons.injEq]
    constructor
    · rintro ⟨kind, rfl, url, hurl, rfl, rfl, rfl⟩
      exact ⟨keys, ⟨rfl, rfl⟩, rfl, hurl⟩
    · rintro ⟨names, ⟨rfl, rfl⟩, rfl, hurl⟩
      exact ⟨kind, rfl, url, hurl, rfl, rfl, rfl⟩

/-! ## All that is listed -/

variable {items : List (String × Json)}

/-- The tests of the items with their addresses. -/
def listing (items : List (String × Json)) : List (Address × String × Entry) :=
  (Json.elementsBelow (kindsOf items)).filterMap fun e ↦ (itemOf? e).map fun test ↦ (e.1, test)

theorem find?_kindsOf (name : String) (items : List (String × Json)) :
    Keyed.find? name (kindsOf items) =
      if (Named.ofName? (α := TestKind) name).isSome then Keyed.find? name items else none := by
  induction items with
  | nil => simp [kindsOf]
  | cons item items ih =>
    rw [kindsOf, List.filter_cons]
    by_cases hname : item.1 = name
    · subst hname
      split
      · rw [Keyed.find?, Keyed.find?, if_pos rfl, if_pos rfl]
      · rename_i hunknown
        rw [← kindsOf, ih, if_neg hunknown]
    · rw [Keyed.find?, if_neg hname, ← ih]
      split
      · rw [← kindsOf, Keyed.find?, if_neg hname]
      · rw [← kindsOf]

theorem ordered_kindsOf (h : (Json.object items).Ordered) :
    (Json.object (kindsOf items)).Ordered := by
  cases h with
  | object hkeys hmembers =>
    exact .object (hkeys.sublist (List.filter_sublist.map _)) fun m hm ↦
      hmembers m (List.mem_of_mem_filter hm)

/-- **All that is listed**, and nothing else. -/
theorem mem_listing (h : (Json.object items).Ordered) {a : Address} {url : String} {entry : Entry} :
    (a, url, entry) ∈ listing items ↔ Lists items a url entry := by
  have hlisting : (a, url, entry) ∈ listing items ↔
      ∃ e, (a, e) ∈ (Json.object (kindsOf items)).elements ∧
        itemOf? (a, e) = some (url, entry) := by
    rw [listing, List.mem_filterMap, Json.elements]
    constructor
    · rintro ⟨⟨a', e⟩, hmem, htest⟩
      obtain ⟨test, htest, heq⟩ := Option.map_eq_some_iff.mp htest
      obtain ⟨rfl, rfl⟩ := Prod.mk.inj heq
      exact ⟨e, hmem, htest⟩
    · rintro ⟨e, hmem, htest⟩
      exact ⟨(a, e), hmem, by rw [htest]; rfl⟩
  have hat {names : List String} (hkeys : a.keys = Named.name entry.kind :: names) :
      (Json.object (kindsOf items)).at? a.keys = (Json.object items).at? a.keys := by
    rw [hkeys, Json.at?, Json.at?, Json.member?, Json.member?, find?_kindsOf, Named.ofName?_name]
    rfl
  rw [hlisting, Lists]
  simp only [(ordered_kindsOf h).mem_elements, itemOf?_eq_some_iff]
  constructor
  · rintro ⟨element, ⟨elements, hreach, hindex, helement⟩, names, hkeys, hpath, hurl⟩
    exact ⟨names, elements, element, hkeys, hpath, (hat hkeys).symm.trans hreach, hindex, helement,
      hurl⟩
  · rintro ⟨names, elements, element, hkeys, hpath, hreach, hindex, helement, hurl⟩
    exact ⟨element, ⟨elements, (hat hkeys).trans hreach, hindex, helement⟩, names, hkeys, hpath,
      hurl⟩

/-- **It is listed in order** of the addresses. -/
theorem pairwise_listing (h : (Json.object items).Ordered) :
    (listing items).Pairwise fun l l' ↦ l.1.Before l'.1 := by
  have helements := (ordered_kindsOf h).pairwise_elements
  rw [Json.elements] at helements
  refine List.Pairwise.filterMap _ (fun e e' hbefore l hl l' hl' ↦ ?_)
    (List.pairwise_map.mp helements)
  obtain ⟨test, -, rfl⟩ := Option.map_eq_some_iff.mp hl
  obtain ⟨test', -, rfl⟩ := Option.map_eq_some_iff.mp hl'
  exact hbefore

/-- What is read is what is listed. -/
theorem map_listing {tests : List (String × Entry)} (h : itemTests? items = some tests) :
    (listing items).map (·.2) = tests := by
  rw [← (Answer.mapM_eq_some_iff_filterMap.mp (itemTests?_eq_some_iff.mp h).2).2, listing,
    List.map_filterMap]
  refine List.filterMap_congr fun e _ ↦ ?_
  cases itemOf? e <;> rfl

/-! ## Which items can be read -/

theorem Branching.at? {j node : Json} (h : Branching j) {keys : List String}
    (hat : j.at? keys = some node) : Branching node := by
  induction keys generalizing j with
  | nil => exact Option.some.inj hat ▸ h
  | cons key keys ih =>
    obtain ⟨next, hnext, hrest⟩ := Option.bind_eq_some_iff.mp hat
    cases h with
    | directory h => exact ih (h _ (Keyed.mem_of_find? hnext)) hrest
    | file elements => cases hnext

/-- Only directories and files are reached if all that is reached may stand in a tree. -/
theorem branching_of_nodes {j : Json} (hordered : j.Ordered)
    (h : ∀ keys node, j.at? keys = some node → IsNode node) : Branching j := by
  induction hordered with
  | null => cases h [] _ rfl
  | bool b => cases h [] _ rfl
  | number n => cases h [] _ rfl
  | string s => cases h [] _ rfl
  | @array elements => exact .file elements
  | @object members hkeys hmembers ih =>
    refine .directory fun m hm ↦ ih m hm fun keys node hat ↦ h (m.1 :: keys) node ?_
    rw [Json.at?, Json.member?, Keyed.find?_eq_some_of_mem hkeys.nodup hm]
    exact hat

/-- **Which values are trees**: those of which all elements name URLs, and from which only
directories and files are reached. -/
theorem isTree_iff {j : Json} (h : j.Ordered) :
    IsTree j ↔ ((∃ members, j = .object members) ∧ Branching j) ∧
      ∀ e ∈ j.elements, (url? "" e.2).isSome := by
  simp only [isSome_url?_iff]
  constructor
  · rintro ⟨hdirectory, hnodes⟩
    refine ⟨⟨hdirectory, branching_of_nodes h hnodes⟩, fun e he ↦ ?_⟩
    obtain ⟨elements, hat, hindex, helement⟩ := h.mem_elements.mp he
    cases hnodes _ _ hat with
    | file hall =>
      refine hall e.2 (List.mem_iff_getElem?.mpr ⟨e.1.index - 1, ?_⟩)
      rwa [List.getElem?_drop, Nat.add_sub_cancel' hindex]
  · rintro ⟨⟨hdirectory, hbranching⟩, hall⟩
    refine ⟨hdirectory, fun keys node hat ↦ ?_⟩
    cases hbranching.at? hat with
    | directory => exact .directory _
    | file elements =>
      refine .file fun e he ↦ ?_
      obtain ⟨i, hi⟩ := List.mem_iff_getElem?.mp he
      rw [List.getElem?_drop] at hi
      exact hall (⟨keys, 1 + i⟩, e) (h.mem_elements.mpr
        ⟨elements, hat, Nat.add_pos_left Nat.one_pos i, hi⟩)

/-- Whether an element of the items says something depends on the element alone. -/
theorem isSome_itemOf?_iff {name : String} (h : (Named.ofName? (α := TestKind) name).isSome)
    (e : Address × Json) :
    (itemOf? (e.1.under name, e.2)).isSome ↔ (url? "" e.2).isSome := by
  obtain ⟨kind, hkind⟩ := Option.isSome_iff_exists.mp h
  have hitem : itemOf? (e.1.under name, e.2) = testOf? kind "" e := by
    show (Named.ofName? (α := TestKind) name).bind _ = _
    rw [hkind]
    rfl
  rw [hitem, testOf?, Option.isSome_map, isSome_url?_iff, isSome_url?_iff]

/-- **Which items can be read**: those with a tree under the name of each kind that is there. -/
theorem exists_itemTests?_iff (h : (Json.object items).Ordered) :
    (∃ tests, itemTests? items = some tests) ↔
      ∀ (kind : TestKind) tree, Keyed.find? (Named.name kind) items = some tree → IsTree tree := by
  cases h with
  | object hkeys hmembers =>
    have hread : (∃ tests, itemTests? items = some tests) ↔
        ∀ m ∈ kindsOf items, IsTree m.2 := by
      simp only [itemTests?_eq_some_iff, Answer.mapM_eq_some_iff_filterMap, exists_and_left,
        exists_eq', and_true, Json.elementsBelow_eq, List.forall_mem_flatMap, List.forall_mem_map]
      rw [← forall₂_and]
      refine forall₂_congr fun m hm ↦ ?_
      obtain ⟨hm, hkind⟩ := List.mem_filter.mp hm
      rw [isTree_iff (hmembers m hm)]
      exact and_congr_right' (forall₂_congr fun e _ ↦ isSome_itemOf?_iff hkind e)
    rw [hread]
    constructor
    · intro hall kind tree htree
      exact hall (Named.name kind, tree) (List.mem_filter.mpr
        ⟨Keyed.mem_of_find? htree, by rw [Named.ofName?_name]; rfl⟩)
    · intro hall m hm
      obtain ⟨hm, hkind⟩ := List.mem_filter.mp hm
      obtain ⟨kind, hkind⟩ := Option.isSome_iff_exists.mp hkind
      refine hall kind m.2 ?_
      rw [Named.ofName?_eq_some_iff.mp hkind]
      exact Keyed.find?_eq_some_of_mem hkeys.nodup hm

/-- **Items under other names do not matter.** -/
theorem itemTests?_congr {items' : List (String × Json)} (h : (Json.object items).Ordered)
    (h' : (Json.object items').Ordered)
    (hsame : ∀ kind : TestKind,
      Keyed.find? (Named.name kind) items' = Keyed.find? (Named.name kind) items) :
    itemTests? items' = itemTests? items := by
  have hkinds : kindsOf items' = kindsOf items := by
    cases ordered_kindsOf h with
    | object hkeys =>
      cases ordered_kindsOf h' with
      | object hkeys' =>
        refine hkeys'.ext hkeys fun name ↦ ?_
        rw [find?_kindsOf, find?_kindsOf]
        split
        · rename_i hkind
          obtain ⟨kind, hkind⟩ := Option.isSome_iff_exists.mp hkind
          rw [← Named.ofName?_eq_some_iff.mp hkind]
          exact hsame kind
        · rfl
  refine Option.ext fun tests ↦ ?_
  rw [itemTests?_eq_some_iff, itemTests?_eq_some_iff, hkinds]

end Manifest

end WebTestRun
