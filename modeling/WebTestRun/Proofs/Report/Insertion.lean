import WebTestRun.Proofs.File.Path
import WebTestRun.Proofs.Report.Trie

/-!
# Putting leaves in place

A leaf can be put into a trie in place, with directories made on the way down before it is known
whether the leaf can be put at all. Nothing is left of an attempt that fails: from the first
directory that is made on, there is nothing that could be in the way. So putting leaves in place is
putting them into a copy, and giving the copy up when that fails.

* `Trie.place` — a leaf put in place, and `Tight.place_eq` — the same as `Trie.insert`.
* `Trie.find?` — what is at the end of a path.
* `Tight.hasRoom_iff` — when there is room for a leaf, `Tight.placed` — what comes of putting one.
* `Trie.Built` — the tries that leaves were put into, `place_of_built` — what one more leaf does.
-/

set_option autoImplicit false

namespace WebTestRun

/-! ## Entries that are there already -/

namespace Keyed

variable {α : Type} {k : String} {a b : α} {l : List (String × α)}

/-- An entry that is there can be inserted again. -/
theorem Ordered.insert_eq_self (h : Ordered l) (hfind : find? k l = some a) : insert k a l = l := by
  refine (ordered_insert k a h).ext h fun q ↦ ?_
  rw [find?_insert]
  split
  · rename_i hq
    rw [← hq, hfind]
  · rfl

/-- Of two entries that are inserted under one key the later counts. -/
theorem Ordered.insert_insert (h : Ordered l) : insert k a (insert k b l) = insert k a l := by
  refine (ordered_insert k a (ordered_insert k b h)).ext (ordered_insert k a h) fun q ↦ ?_
  rw [find?_insert, find?_insert, find?_insert]
  split <;> rfl

end Keyed

namespace Trie

variable {children : Children} {l : Leaf} {t : Trie}

/-! ## In place -/

/-- Nodes after a leaf was put below them in place, and the component where that failed, if it did.
Where there is nothing yet a directory is made. -/
def placeAt (l : Leaf) : List String → Children → Children × Option String
  | [], children => (children, none)
  | [name], children =>
    match Keyed.find? name children with
    | some (.directory _) => (children, some name)
    | _ => (Keyed.insert name (.leaf l) children, none)
  | name :: rest, children =>
    let grown :=
      if Keyed.has name children then children else Keyed.insert name (.directory []) children
    match Keyed.find? name grown with
    | some (.directory below) =>
      let (below, fault) := placeAt l rest below
      (Keyed.insert name (.directory below) grown, fault)
    | _ => (grown, some name)

/-- A leaf is put at a path in place. What was made on the way down stays there, whatever comes of
it. -/
def place (t : Trie) (path : String) (l : Leaf) : Trie × Except Conflict Unit :=
  match placeAt l (Path.segments path) t.children with
  | (children, none) => (⟨children⟩, .ok ())
  | (children, some component) => (⟨children⟩, .error ⟨path, component⟩)

/-- Nothing is found where there is nothing. -/
theorem getAt?_empty (q : List String) : getAt? q [] = none := by
  cases q with
  | nil => rfl
  | cons k q => rw [getAt?_cons, Keyed.find?_nil, Option.bind_none]

/-- There is always room where there is nothing yet. -/
theorem exists_insertAt_nil {path : List String} (hpath : path ≠ []) (l : Leaf) :
    ∃ after, insertAt l path [] = .ok after := by
  have hspec := insertAt_spec (l := l) hpath .nil
  cases hinsert : insertAt l path [] with
  | ok after => exact ⟨after, rfl⟩
  | error name =>
    rw [hinsert] at hspec
    obtain ⟨q, m, hm, -⟩ := hspec
    rw [getAt?_empty] at hm
    cases hm

/-- **In place a leaf is put as into a copy**, which is given up if there is no room for the
leaf. -/
theorem placeAt_eq {path : List String} (h : Children.Tight children) :
    placeAt l path children =
      match insertAt l path children with
      | .ok after => (after, none)
      | .error name => (children, some name) := by
  induction path, children using insertAt.induct with
  | case1 => rfl
  | case2 name children below hfind => rw [placeAt, insertAt, hfind]
  | case3 name children hfind =>
    rw [insertAt_singleton hfind, placeAt]
    split
    · rename_i below hbelow
      exact absurd hbelow (hfind below)
    · rfl
  | case4 name rest children hrest m hfind =>
    rw [placeAt, insertAt, Keyed.has, hfind]
    · simp only [Option.isSome_some, if_true, hfind]
    · exact hrest
    · exact hrest
  | case5 name rest children hrest below hfind ih =>
    have hbelow : Children.Tight below := by
      cases h.find? hfind with
      | directory hne hkeys hbelow => exact ⟨hkeys, hbelow⟩
    rw [placeAt, insertAt, Keyed.has, hfind]
    · simp only [Option.isSome_some, if_true, hfind, ih hbelow]
      cases insertAt l rest below with
      | ok after => rfl
      | error e => simp only [Except.map, h.keys.insert_eq_self hfind]
    · exact hrest
    · exact hrest
  | case6 name rest children hrest hfind ih =>
    -- The new directory is empty, so the leaf can be put below it.
    obtain ⟨after, hafter⟩ := exists_insertAt_nil hrest l
    rw [placeAt, insertAt, Keyed.has, hfind]
    · simp only [Option.isSome_none, Bool.false_eq_true, if_false, Keyed.find?_insert, if_true,
        ih .nil, hafter, Except.map, h.keys.insert_insert]
    · exact hrest
    · exact hrest

/-- **Putting a leaf in place** comes to the same as putting it into a copy. -/
theorem Children.Tight.place_eq (h : Children.Tight t.children) (path : String) (l : Leaf) :
    t.place path l =
      match t.insert path l with
      | .ok after => (after, .ok ())
      | .error conflict => (t, .error conflict) := by
  rw [place, Trie.insert, placeAt_eq h]
  cases insertAt l (Path.segments path) t.children <;> rfl

/-! ## What is at the end of a path -/

/-- What is at the end of a path that starts at a node. -/
def Node.follow? : Node → List String → Option Node
  | node, [] => some node
  | .leaf _, _ :: _ => none
  | .directory children, name :: rest =>
    (Keyed.find? name children).bind fun node ↦ node.follow? rest

/-- What is at the end of a path. -/
def find? (t : Trie) (path : String) : Option Node :=
  (Node.directory t.children).follow? (Path.segments path)

/-- The way to a leaf goes through what is at the end of its first part. -/
theorem Node.at?_append (node : Node) (path rest : List String) :
    node.at? (path ++ rest) = (node.follow? path).bind fun reached ↦ reached.at? rest := by
  induction path generalizing node with
  | nil => cases node <;> rfl
  | cons name path ih =>
    cases node with
    | leaf m => rfl
    | directory children =>
      rw [List.cons_append, at?, getAt?_cons, follow?]
      cases Keyed.find? name children with
      | none => rfl
      | some node => exact ih node

theorem Node.Tight.follow? {node reached : Node} (h : node.Tight) {path : List String}
    (hfollow : node.follow? path = some reached) : reached.Tight := by
  induction path generalizing node with
  | nil =>
    obtain rfl : node = reached := by cases node <;> exact Option.some.inj hfollow
    exact h
  | cons name path ih =>
    cases h with
    | leaf m => cases hfollow
    | directory hne hkeys hbelow =>
      obtain ⟨node, hnode, hfollow⟩ := Option.bind_eq_some_iff.mp hfollow
      exact ih (hbelow _ (Keyed.mem_of_find? hnode)) hfollow

theorem Children.Tight.follow? (h : Children.Tight children) {path : List String} {node : Node}
    (hpath : path ≠ []) (hfollow : (Node.directory children).follow? path = some node) :
    node.Tight := by
  cases path with
  | nil => exact absurd rfl hpath
  | cons name path =>
    obtain ⟨first, hfirst, hfollow⟩ := Option.bind_eq_some_iff.mp hfollow
    exact (h.find? hfirst).follow? hfollow

/-! ## Room for a leaf -/

/-- The first components of a path are a path too, and the others are what comes after it. -/
theorem exists_append_slash {path : String} {names rest : List String}
    (hpath : Path.segments path = names ++ rest) (hnames : names ≠ []) (hrest : rest ≠ []) :
    ∃ before after, Path.segments before = names ∧ path = before ++ "/" ++ after := by
  have hslash : ∀ name ∈ names ++ rest, '/' ∉ name.toList := by
    intro name hname
    rw [← hpath] at hname
    exact Path.slash_notMem_of_mem_segments hname
  obtain ⟨hbefore, hafter⟩ := List.forall_mem_append.mp hslash
  refine ⟨"/".intercalate names, "/".intercalate rest, Path.segments_intercalate hnames hbefore,
    Path.segments_injective ?_⟩
  rw [Path.segments_append_slash, Path.segments_intercalate hnames hbefore,
    Path.segments_intercalate hrest hafter, hpath]

/-- A leaf can be at a path: there is none on the way there, and the path is not that of a
directory. -/
structure HasRoom (t : Trie) (path : String) : Prop where
  /-- No leaf is on the way. -/
  way : ∀ before after, path = before ++ "/" ++ after → t.get? before = none
  /-- No directory is there. -/
  place : ∀ below, t.find? path ≠ some (.directory below)

/-- Where there is room for a leaf, the path meets that of no leaf. -/
theorem HasRoom.not_meets {path : String} (h : t.HasRoom path) {q : List String} {m : Leaf}
    (hm : getAt? q t.children = some m) : ¬ Meets q (Path.segments path) := by
  rintro ⟨hne, ⟨rest, hrest⟩ | ⟨rest, hrest⟩⟩
  · -- The leaf is on the way.
    have hq : q ≠ [] := by
      rintro rfl
      cases hm
    have hnil : rest ≠ [] := by
      rintro rfl
      exact hne (by rw [← hrest, List.append_nil])
    obtain ⟨before, after, hbefore, hpath⟩ := exists_append_slash hrest.symm hq hnil
    have hnone := h.way before after hpath
    rw [get?, hbefore, hm] at hnone
    cases hnone
  · -- The leaf is below the path.
    have hnil : rest ≠ [] := by
      rintro rfl
      exact hne (by rw [← hrest, List.append_nil])
    rw [← hrest] at hm
    have hat := Node.at?_append (.directory t.children) (Path.segments path) rest
    rw [Node.at?, hm] at hat
    obtain ⟨node, hnode, hleaf⟩ := Option.bind_eq_some_iff.mp hat.symm
    cases node with
    | leaf m' =>
      cases rest with
      | nil => exact hnil rfl
      | cons name rest => cases hleaf
    | directory below => exact h.place below hnode

/-- There is room for a leaf at a path that meets that of no leaf, unless directories are empty. -/
theorem Children.Tight.hasRoom (h : Children.Tight t.children) {path : String}
    (hmeets : ∀ q m, getAt? q t.children = some m → ¬ Meets q (Path.segments path)) :
    t.HasRoom path := by
  refine ⟨fun before after hpath ↦ ?_, fun below hbelow ↦ ?_⟩
  · cases hget : t.get? before with
    | none => rfl
    | some m =>
      have hsegments : Path.segments path = Path.segments before ++ Path.segments after := by
        rw [hpath, Path.segments_append_slash]
      refine absurd ⟨fun heq ↦ ?_, .inl ⟨_, hsegments.symm⟩⟩ (hmeets _ m hget)
      rw [heq, List.self_eq_append_right] at hsegments
      exact Path.segments_ne_nil after hsegments
  · obtain ⟨rest, m, hm⟩ := (h.follow? (Path.segments_ne_nil path) hbelow).exists_at?
    have hat := Node.at?_append (.directory t.children) (Path.segments path) rest
    rw [Trie.find?] at hbelow
    rw [hbelow, Option.bind_some, hm] at hat
    refine hmeets _ m hat ⟨fun heq ↦ ?_, .inr ⟨rest, rfl⟩⟩
    rw [List.append_right_eq_self] at heq
    rw [heq] at hm
    cases hm

/-- **There is room for a leaf** at a path that meets that of no leaf. -/
theorem Children.Tight.hasRoom_iff (h : Children.Tight t.children) {path : String} :
    t.HasRoom path ↔ ∀ q m, getAt? q t.children = some m → ¬ Meets q (Path.segments path) :=
  ⟨fun hroom _ _ ↦ hroom.not_meets, h.hasRoom⟩

/-- **A leaf that is put in place** is there if there is room for it, and leaves nothing behind if
there is none. -/
theorem Children.Tight.placed (h : Children.Tight t.children) (path : String) (l : Leaf) :
    (t.HasRoom path ∧ (t.place path l).2 = .ok () ∧
      Inserted l (Path.segments path) t.children (t.place path l).1.children) ∨
    (¬ t.HasRoom path ∧ (∃ conflict, (t.place path l).2 = .error conflict) ∧
      (t.place path l).1 = t) := by
  have hspec := insertAt_spec (l := l) (Path.segments_ne_nil path) h
  rw [h.place_eq, Trie.insert, h.hasRoom_iff]
  cases hinsert : insertAt l (Path.segments path) t.children with
  | ok after =>
    rw [hinsert] at hspec
    refine .inl ⟨fun q m hm hmeets ↦ ?_, rfl, hspec⟩
    have hold := hspec.getAt? q
    have hnew := hspec.getAt? (Path.segments path)
    rw [if_neg hmeets.1, hm] at hold
    rw [if_pos rfl] at hnew
    exact not_meets_of_getAt? hold hnew hmeets
  | error name =>
    rw [hinsert] at hspec
    obtain ⟨q, m, hm, hmeets⟩ := hspec
    exact .inr ⟨fun hroom ↦ hroom q m hm hmeets, ⟨_, rfl⟩, rfl⟩

/-! ## Tries that leaves were put into -/

/-- Tries that come of putting leaves at paths of some sort, whether or not there was room for
them. -/
inductive Built (sort : String → Prop) : Trie → Prop where
  | empty : Built sort {}
  | place {t : Trie} (h : Built sort t) {path : String} (hpath : sort path) (l : Leaf) :
    Built sort (t.place path l).1

variable {sort : String → Prop}

/-- **There are no empty directories** in a trie that leaves were put into. -/
theorem Built.tight (h : t.Built sort) : Children.Tight t.children := by
  induction h with
  | empty => exact .nil
  | @place t h path hpath l ih =>
    rcases ih.placed path l with ⟨-, -, hplaced⟩ | ⟨-, -, hsame⟩
    · exact hplaced.tight
    · rw [hsame]
      exact ih

/-- Leaves are at paths where they were put. -/
theorem Built.exists_of_getAt? (h : t.Built sort) {q : List String}
    (hq : getAt? q t.children = some l) : ∃ path, sort path ∧ Path.segments path = q := by
  induction h generalizing l with
  | empty =>
    rw [getAt?_empty] at hq
    cases hq
  | @place t h path hpath m ih =>
    rcases h.tight.placed path m with ⟨-, -, hplaced⟩ | ⟨-, -, hsame⟩
    · rw [hplaced.getAt?] at hq
      split at hq
      · rename_i heq
        exact ⟨path, hpath, heq.symm⟩
      · exact ih hq
    · rw [hsame] at hq
      exact ih hq

/-- **One leaf more.** In a trie that leaves were put into:

* a leaf can be put at a path exactly if no leaf is on the way there and no directory is there;
* then it is at its path, and what was at any other path still is;
* else the trie stays as it is, with no directory left behind.

That is so if the leaf is put in place, with directories made on the way down, and if it is put into
a copy. -/
theorem place_of_built (h : t.Built fun _ ↦ True) (path : String) (l : Leaf) :
    ((t.place path l).2 = .ok () ↔
      (∀ before after, path = before ++ "/" ++ after → t.get? before = none) ∧
        ∀ below, t.find? path ≠ some (.directory below)) ∧
    ((t.place path l).2 = .ok () →
      ∀ q, (t.place path l).1.get? q = if q = path then some l else t.get? q) ∧
    ((t.place path l).2 ≠ .ok () → (t.place path l).1 = t) ∧
    t.insert path l = (t.place path l).2.map fun _ ↦ (t.place path l).1 := by
  have hinsert : t.insert path l = (t.place path l).2.map fun _ ↦ (t.place path l).1 := by
    rw [h.tight.place_eq]
    cases t.insert path l <;> rfl
  rcases h.tight.placed path l with ⟨hroom, hok, hplaced⟩ | ⟨hroom, ⟨conflict, herror⟩, hsame⟩
  · refine ⟨iff_of_true hok ⟨hroom.way, hroom.place⟩, fun _ q ↦ ?_, fun hne ↦ absurd hok hne,
      hinsert⟩
    rw [get?, hplaced.getAt?]
    by_cases hq : q = path
    · rw [if_pos hq, if_pos (congrArg Path.segments hq)]
    · rw [if_neg hq, if_neg fun heq ↦ hq (Path.segments_injective heq)]
      rfl
  · have hne : (t.place path l).2 ≠ .ok () := by
      rw [herror]
      exact nofun
    exact ⟨iff_of_false hne fun ⟨hway, hplace⟩ ↦ hroom ⟨hway, hplace⟩, fun hok ↦ absurd hok hne,
      fun _ ↦ hsame, hinsert⟩

/-- What is said about a test that passed. -/
def passed : Leaf := { expected := "PASS", actual := "PASS" }

/-- A trie with a leaf in a directory. -/
def sampleTrie : Trie := (place {} "a/b" passed).1

theorem place_of_built_sample :
    sampleTrie.Built (fun _ ↦ True) ∧
      (sampleTrie.place "a" passed).1 = sampleTrie ∧
      (sampleTrie.place "a/c" passed).2 = .ok () := by
  have hbuilt : sampleTrie.Built fun _ ↦ True := Built.empty.place trivial _
  obtain ⟨-, -, hsame, -⟩ := place_of_built hbuilt "a" passed
  exact ⟨hbuilt, hsame (by decide +kernel), by decide +kernel⟩

end Trie

end WebTestRun
