import WebTestRun.Proofs.Report.Insertion
import WebTestRun.Proofs.TestName.Suite
import WebTestRun.Proofs.Text.Bytes

/-!
# Listing leaves

Leaves are listed with their paths, which are put together on the way down: the first component is
taken as it is, and every further one comes after a slash. So the path of a leaf that starts with a
slash would lose it, and it is only without such paths that the leaves which are listed are those
that are found.

* `Trie.entriesBelow` — the leaves with the components of their paths, which are found there
  (`Tight.mem_entriesBelow`) and come in order (`Tight.pairwise_entriesBelow`).
* `leavesBelow_eq` — the paths that are listed are put together from components, and
  `foldl_below_segments` — that gives the path whose components they are.
* `leaves_of_built` — what is listed for a trie that leaves were put into.
-/

set_option autoImplicit false

namespace WebTestRun

namespace Trie

variable {children : Children} {l : Leaf} {t : Trie}

/-! ## Leaves and components -/

mutual

/-- The leaves of a node, with the components that lead there. -/
def Node.entries : Node → List (List String × Leaf)
  | .leaf l => [([], l)]
  | .directory children => entriesBelow children

/-- The leaves of nodes, with the components that lead there. -/
def entriesBelow : List (String × Node) → List (List String × Leaf)
  | [] => []
  | (name, node) :: rest => (node.entries.map fun e ↦ (name :: e.1, e.2)) ++ entriesBelow rest

end

theorem entriesBelow_eq (children : Children) :
    entriesBelow children =
      children.flatMap fun c ↦ c.2.entries.map fun e ↦ (c.1 :: e.1, e.2) := by
  induction children with
  | nil => rw [entriesBelow, List.flatMap_nil]
  | cons c children ih => rw [entriesBelow, ih, List.flatMap_cons]

mutual

theorem Node.leaves_eq (path : String) : (node : Node) →
    node.leaves path = node.entries.map fun e ↦ (e.1.foldl Path.below path, e.2)
  | .leaf l => by rw [Node.leaves, Node.entries, List.map_singleton, List.foldl_nil]
  | .directory children => by rw [Node.leaves, Node.entries, leavesBelow_eq path children]

/-- **The leaves that are listed** have the paths that are put together from components. -/
theorem leavesBelow_eq (path : String) : (children : List (String × Node)) →
    leavesBelow path children =
      (entriesBelow children).map fun e ↦ (e.1.foldl Path.below path, e.2)
  | [] => by rw [leavesBelow, entriesBelow, List.map_nil]
  | (name, node) :: rest => by
    rw [leavesBelow, entriesBelow, Node.leaves_eq (Path.below path name) node,
      leavesBelow_eq path rest, List.map_append, List.map_map]
    rfl

end

/-- A leaf is found where it is listed. -/
theorem Node.Tight.mem_entries {node : Node} (h : node.Tight) {q : List String} :
    (q, l) ∈ node.entries ↔ node.at? q = some l := by
  induction h generalizing q with
  | leaf m =>
    rw [entries, List.mem_singleton, Prod.mk.injEq]
    cases q with
    | nil => simp [at?, eq_comm]
    | cons k q => simp [at?]
  | @directory children hne hkeys hbelow ih =>
    rw [entries, entriesBelow_eq, List.mem_flatMap, at?]
    constructor
    · rintro ⟨c, hc, hmem⟩
      obtain ⟨⟨rest, m⟩, hrest, heq⟩ := List.mem_map.mp hmem
      obtain ⟨rfl, rfl⟩ := Prod.mk.inj heq
      rw [getAt?_cons, Keyed.find?_eq_some_of_mem hkeys.nodup hc]
      exact (ih c hc).mp hrest
    · intro hget
      cases q with
      | nil => cases hget
      | cons k q =>
        rw [getAt?_cons] at hget
        obtain ⟨node, hnode, hat⟩ := Option.bind_eq_some_iff.mp hget
        have hc := Keyed.mem_of_find? hnode
        exact ⟨_, hc, List.mem_map.mpr ⟨_, (ih _ hc).mpr hat, rfl⟩⟩

/-- **The leaves of a node come in order** of the components that lead there: those below one
component are together, and the components are in order. -/
theorem Node.Tight.pairwise_entries {node : Node} (h : node.Tight) :
    (node.entries.map (·.1)).Pairwise (· < ·) := by
  induction h with
  | leaf m => exact List.pairwise_singleton _ _
  | @directory children hne hkeys hbelow ih =>
    rw [entries, entriesBelow_eq, List.map_flatMap, List.pairwise_flatMap]
    constructor
    · intro c hc
      rw [List.map_map]
      have hcons := List.Pairwise.map (c.1 :: ·) (fun _ _ hlt ↦ List.cons_lt_cons_self.mpr hlt)
        (ih c hc)
      rwa [List.map_map] at hcons
    · refine (List.pairwise_map.mp hkeys).imp fun {c d} hlt q hq q' hq' ↦ ?_
      obtain ⟨e, he, rfl⟩ := List.mem_map.mp hq
      obtain ⟨e', he', rfl⟩ := List.mem_map.mp hq'
      obtain ⟨-, -, rfl⟩ := List.mem_map.mp he
      obtain ⟨-, -, rfl⟩ := List.mem_map.mp he'
      exact List.cons_lt_cons_iff.mpr (.inl hlt)

theorem Children.Tight.mem_entriesBelow (h : Children.Tight children) {q : List String} :
    (q, l) ∈ entriesBelow children ↔ getAt? q children = some l := by
  cases children with
  | nil => simp [entriesBelow, getAt?_empty]
  | cons c children =>
    have hnode := Node.Tight.directory (List.cons_ne_nil c children) h.keys h.below
    have hmem := hnode.mem_entries (l := l) (q := q)
    rwa [Node.entries, Node.at?] at hmem

theorem Children.Tight.pairwise_entriesBelow (h : Children.Tight children) :
    ((entriesBelow children).map (·.1)).Pairwise (· < ·) := by
  cases children with
  | nil => simp [entriesBelow]
  | cons c children =>
    have hnode := Node.Tight.directory (List.cons_ne_nil c children) h.keys h.below
    have hpairwise := hnode.pairwise_entries
    rwa [Node.entries] at hpairwise

/-! ## Paths put together -/

theorem below_ne_empty {path : String} (hpath : path ≠ "") (name : String) :
    Path.below path name ≠ "" := by
  rw [Path.below, if_neg (by simpa using hpath)]
  simp

/-- Names that come after a path are further components. -/
theorem segments_foldl_below {path : String} (hpath : path ≠ "") {names : List String}
    (hnames : ∀ name ∈ names, '/' ∉ name.toList) :
    Path.segments (names.foldl Path.below path) = Path.segments path ++ names := by
  induction names generalizing path with
  | nil => rw [List.foldl_nil, List.append_nil]
  | cons name names ih =>
    obtain ⟨hname, hnames⟩ := List.forall_mem_cons.mp hnames
    have hbelow : Path.segments (Path.below path name) = Path.segments path ++ [name] := by
      rw [Path.below, if_neg (by simpa using hpath), Path.segments_append_slash]
      exact congrArg _ (Path.segments_of_slash_notMem hname)
    rw [List.foldl_cons, ih (below_ne_empty hpath name) hnames, hbelow, List.append_assoc,
      List.singleton_append]

/-- **A path is put together from its components**, if it does not start with a slash. -/
theorem foldl_below_segments {path : String} (h : ¬ ['/'] <+: path.toList) :
    (Path.segments path).foldl Path.below "" = path := by
  obtain ⟨first, rest, hpath⟩ := List.exists_cons_of_ne_nil (Path.segments_ne_nil path)
  have hslash : ∀ name ∈ first :: rest, '/' ∉ name.toList := by
    intro name hname
    rw [← hpath] at hname
    exact Path.slash_notMem_of_mem_segments hname
  obtain ⟨hfirst, hslash⟩ := List.forall_mem_cons.mp hslash
  have hsegments : Path.segments first = [first] := Path.segments_of_slash_notMem hfirst
  have hbelow : (Path.segments path).foldl Path.below "" = rest.foldl Path.below first := by
    rw [hpath, List.foldl_cons, Path.below, if_pos (by simp)]
  rw [hbelow]
  apply Path.segments_injective
  by_cases hempty : first = ""
  · -- More components would come after a slash.
    cases rest with
    | nil => rw [List.foldl_nil, hsegments, hpath]
    | cons name rest =>
      obtain ⟨before, after, hbefore, rfl⟩ := exists_append_slash
        (hpath.trans List.singleton_append.symm) (List.cons_ne_nil _ _) (List.cons_ne_nil _ _)
      obtain rfl : before = first := Path.segments_injective (hbefore.trans hsegments.symm)
      refine absurd ?_ h
      rw [hempty]
      simp
  · rw [segments_foldl_below hempty hslash, hsegments, hpath, List.singleton_append]

/-! ## What is listed -/

/-- A leaf is found at the path that is put together from its components. -/
theorem Built.get?_foldl_below (h : t.Built fun path ↦ ¬ ['/'] <+: path.toList) {q : List String}
    (hq : (q, l) ∈ entriesBelow t.children) :
    Path.segments (q.foldl Path.below "") = q ∧ t.get? (q.foldl Path.below "") = some l := by
  have hget := h.tight.mem_entriesBelow.mp hq
  obtain ⟨path, hpath, rfl⟩ := h.exists_of_getAt? hget
  rw [foldl_below_segments hpath]
  exact ⟨rfl, hget⟩

/-- **What is listed.** For a trie that leaves were put into, at paths that do not start with a
slash as no name of a test does:

* the leaves that are listed under a path are those that are found there;
* no path is listed twice;
* the paths come in increasing order of their components, which are compared byte by byte. -/
theorem leaves_of_built (h : t.Built fun path ↦ ¬ ['/'] <+: path.toList) :
    (∀ path l, (path, l) ∈ t.leaves ↔ t.get? path = some l) ∧
    (t.leaves.map (·.1)).Nodup ∧
    (t.leaves.map fun e ↦ (Path.segments e.1).map Text.bytes).Pairwise (· < ·) := by
  have hleaves : t.leaves = (entriesBelow t.children).map fun e ↦ (e.1.foldl Path.below "", e.2) :=
    leavesBelow_eq "" t.children
  have horder : (t.leaves.map fun e ↦ (Path.segments e.1).map Text.bytes).Pairwise (· < ·) := by
    have hsegments : t.leaves.map (fun e ↦ Path.segments e.1) =
        (entriesBelow t.children).map (·.1) := by
      rw [hleaves, List.map_map]
      exact List.map_congr_left fun e he ↦ (h.get?_foldl_below he).1
    have hbytes := List.Pairwise.map (List.map Text.bytes)
      (fun _ _ hlt ↦ List.map_lt (fun _ _ ↦ Text.bytes_lt) hlt) h.tight.pairwise_entriesBelow
    rwa [← hsegments, List.map_map] at hbytes
  refine ⟨fun path l ↦ ?_, ?_, horder⟩
  · rw [hleaves, List.mem_map]
    constructor
    · rintro ⟨⟨q, m⟩, hmem, heq⟩
      obtain ⟨rfl, rfl⟩ := Prod.mk.inj heq
      exact (h.get?_foldl_below hmem).2
    · intro hget
      obtain ⟨path', hpath', hsegments⟩ := h.exists_of_getAt? hget
      obtain rfl := Path.segments_injective hsegments
      exact ⟨_, h.tight.mem_entriesBelow.mpr hget, by rw [foldl_below_segments hpath']⟩
  · refine List.pairwise_map.mpr ((List.pairwise_map.mp horder).imp fun {d e} hlt heq ↦ ?_)
    rw [heq] at hlt
    exact List.lt_irrefl _ hlt

/-- A trie with the leaves of a test under a suite and outside. -/
def suiteTrie : Trie :=
  ((place {} (TestName.full "a.html" (some "vsync")) passed).1.place (TestName.full "a.html" none)
    passed).1

theorem leaves_of_built_sample :
    suiteTrie.Built (fun path ↦ ¬ ['/'] <+: path.toList) ∧
      (suiteTrie.leaves.map (·.1)).Nodup ∧ ("external/wpt/a.html", passed) ∈ suiteTrie.leaves := by
  have hbuilt : suiteTrie.Built fun path ↦ ¬ ['/'] <+: path.toList :=
    (Built.empty.place (TestName.not_slash_prefix_full _ _) _).place
      (TestName.not_slash_prefix_full _ _) _
  obtain ⟨hmem, hnodup, -⟩ := leaves_of_built hbuilt
  exact ⟨hbuilt, hnodup, (hmem _ _).mpr rfl⟩

end Trie

end WebTestRun
