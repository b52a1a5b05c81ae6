import WebTestRun.Proofs.Report.Leaves
import WebTestRun.Proofs.Report.Placement

/-!
# The regressions alone

A report on the regressions alone keeps their leaves and nothing else: every other leaf goes, and
with the last leaf below a directory the directory goes too, however deep it is. Directories that
were empty before go as well, so nothing is left that could go a second time.

* `Trie.Ordered` — the components are in order at every depth, as they are in every trie that
  leaves were put into (`Children.Tight.ordered`) and in every one that was read
  (`ordered_of_read?`).
* `leavesBelow_regressionsOf`, `Node.Ordered.at?_regressions?`, `Node.Ordered.tight` — what is
  kept, as it is listed and as it is found, and the directories around it.
* `addTests_spec` — where the leaves of a history are if no test was left out.
* `regressions_alone` — what is left of a trie, and how much of that of a report.
-/

set_option autoImplicit false

namespace WebTestRun

namespace Trie

/-! ## Components in order -/

/-- The components below a node are in order, at every depth. There may be empty directories. -/
inductive Node.Ordered : Node → Prop where
  | leaf (l : Leaf) : Ordered (.leaf l)
  | directory {children : Children} (hkeys : Keyed.Ordered children)
      (hbelow : ∀ c ∈ children, Ordered c.2) : Ordered (.directory children)

/-- The components of a trie are in order, at every depth. -/
def Ordered (t : Trie) : Prop := (Node.directory t.children).Ordered

variable {children : Children} {node kept : Node} {t : Trie}

theorem Node.Tight.ordered (h : node.Tight) : node.Ordered := by
  induction h with
  | leaf l => exact .leaf l
  | directory _ hkeys _ ih => exact .directory hkeys ih

/-- The components are in order in every trie that leaves were put into. -/
theorem Children.Tight.ordered (h : Children.Tight t.children) : t.Ordered :=
  .directory h.keys fun c hc ↦ (h.below c hc).ordered

mutual

theorem Node.ordered_of_node? : ∀ {d : Document} {node : Node}, node? d = some node → node.Ordered
  | d, node, h => by
    unfold node? at h
    split at h
    · exact Option.some.inj h ▸ .leaf _
    · split at h
      · obtain ⟨children, hchildren, rfl⟩ := Option.map_eq_some_iff.mp h
        obtain ⟨hkeys, hbelow⟩ := ordered_of_children? hchildren
        exact .directory hkeys hbelow
      · cases h

theorem ordered_of_children? : ∀ {members : List (Option String × Document)} {children : Children},
    children? members = some children →
      Keyed.Ordered children ∧ ∀ c ∈ children, c.2.Ordered
  | [], children, h => by
    rw [children?] at h
    exact Option.some.inj h ▸ ⟨.nil, nofun⟩
  | (name, d) :: rest, children, h => by
    rw [children?] at h
    obtain ⟨name, -, h⟩ := Option.bind_eq_some_iff.mp h
    obtain ⟨node, hnode, h⟩ := Option.bind_eq_some_iff.mp h
    obtain ⟨later, hlater, rfl⟩ := Option.map_eq_some_iff.mp h
    obtain ⟨hkeys, hbelow⟩ := ordered_of_children? hlater
    split
    · exact ⟨hkeys, hbelow⟩
    · refine ⟨Keyed.ordered_insert _ _ hkeys, fun c hc ↦ ?_⟩
      rcases Keyed.mem_of_mem_insert hc with rfl | hc
      · exact Node.ordered_of_node? hnode
      · exact hbelow c hc

end

/-- The components are in order in every trie that was read. -/
theorem ordered_of_read? {d : Document} (h : read? d = some t) : t.Ordered := by
  unfold read? at h
  split at h
  · obtain ⟨children, hchildren, rfl⟩ := Option.map_eq_some_iff.mp h
    obtain ⟨hkeys, hbelow⟩ := ordered_of_children? hchildren
    exact .directory hkeys hbelow
  · cases h

/-! ## What is kept -/

theorem regressionsOf_cons (c : String × Node) (rest : Children) :
    regressionsOf (c :: rest) =
      (c.2.regressions?.map fun kept ↦ (c.1, kept)).toList ++ regressionsOf rest := by
  rw [regressionsOf]
  cases c.2.regressions? <;> rfl

mutual

theorem Node.leaves_regressions? (path : String) : (node : Node) →
    (node.regressions?.toList.flatMap fun kept ↦ kept.leaves path) =
      (node.leaves path).filter fun e ↦ e.2.isRegression
  | .leaf l => by
    rw [Node.regressions?, Node.leaves, List.filter_singleton]
    cases l.isRegression <;> rfl
  | .directory children => by
    rw [Node.regressions?, Node.leaves, ← leavesBelow_regressionsOf path children]
    cases regressionsOf children <;> simp [leavesBelow, Node.leaves]

/-- **The leaves that are listed** are those of the regressions, in the same order. -/
theorem leavesBelow_regressionsOf (path : String) : (children : List (String × Node)) →
    leavesBelow path (regressionsOf children) =
      (leavesBelow path children).filter fun e ↦ e.2.isRegression
  | [] => rfl
  | (name, node) :: rest => by
    rw [regressionsOf_cons, leavesBelow, List.filter_append,
      ← Node.leaves_regressions? (Path.below path name) node, ← leavesBelow_regressionsOf path rest]
    cases node.regressions? <;> simp [leavesBelow]

end

theorem mem_regressionsOf {c : String × Node} :
    c ∈ regressionsOf children ↔ ∃ node, (c.1, node) ∈ children ∧ node.regressions? = some c.2 := by
  induction children with
  | nil => simp [regressionsOf]
  | cons d rest ih =>
    rw [regressionsOf_cons, List.mem_append, ih]
    constructor
    · rintro (hc | ⟨node, hmem, hnode⟩)
      · obtain ⟨kept, hkept, rfl⟩ := Option.map_eq_some_iff.mp (Option.mem_toList.mp hc)
        exact ⟨d.2, List.mem_cons_self, hkept⟩
      · exact ⟨node, List.mem_cons_of_mem d hmem, hnode⟩
    · rintro ⟨node, hmem, hnode⟩
      rcases List.mem_cons.mp hmem with rfl | hmem
      · exact .inl (by simp [hnode])
      · exact .inr ⟨node, hmem, hnode⟩

theorem keys_regressionsOf_sublist (children : Children) :
    (Keyed.keys (regressionsOf children)).Sublist (Keyed.keys children) := by
  induction children with
  | nil => exact .slnil
  | cons c rest ih =>
    rw [regressionsOf_cons, Keyed.keys, Keyed.keys, List.map_append, List.map_cons]
    cases c.2.regressions? with
    | none => exact ih.cons c.1
    | some kept => exact ih.cons_cons c.1

/-- With distinct keys, what is found is what is kept of what was found. -/
theorem find?_regressionsOf (h : (Keyed.keys children).Nodup) (k : String) :
    Keyed.find? k (regressionsOf children) =
      (Keyed.find? k children).bind Node.regressions? := by
  induction children with
  | nil => rfl
  | cons c rest ih =>
    rw [Keyed.keys, List.map_cons, List.nodup_cons] at h
    rw [regressionsOf_cons, Keyed.find?_append, ih h.2, Keyed.find?]
    by_cases hk : c.1 = k
    · -- There is no second node under the key.
      have hnone : Keyed.find? k rest = none := Keyed.find?_eq_none_iff.mpr (hk ▸ h.1)
      rw [if_pos hk, hnone, Option.bind_some]
      cases c.2.regressions? <;> simp [Keyed.find?, hk]
    · rw [if_neg hk]
      cases c.2.regressions? <;> simp [Keyed.find?, hk]

/-- **What is found** below a node is what was found, if it is a regression. -/
theorem Node.Ordered.at?_regressions? (h : node.Ordered) (path : List String) :
    (node.regressions?.bind fun kept ↦ kept.at? path) =
      (node.at? path).filter (·.isRegression) := by
  induction path generalizing node with
  | nil =>
    cases h with
    | leaf l =>
      rw [regressions?, at?, Option.filter_some]
      cases l.isRegression <;> rfl
    | @directory children _ _ =>
      rw [regressions?, at?, getAt?_nil]
      cases regressionsOf children <;> rfl
  | cons k path ih =>
    cases h with
    | leaf l =>
      rw [regressions?, at?]
      cases l.isRegression <;> rfl
    | @directory children hkeys hbelow =>
      have hkept : (regressions? (.directory children)).bind (fun kept ↦ kept.at? (k :: path)) =
          getAt? (k :: path) (regressionsOf children) := by
        rw [regressions?]
        cases regressionsOf children with
        | nil => exact (getAt?_empty _).symm
        | cons c rest => rfl
      rw [hkept, at?, getAt?_cons, getAt?_cons, find?_regressionsOf hkeys.nodup]
      cases hfind : Keyed.find? k children with
      | none => rfl
      | some node => exact ih (hbelow _ (Keyed.mem_of_find? hfind))

/-- **No directory is empty** in what is kept. -/
theorem Node.Ordered.tight (h : node.Ordered) (hkept : node.regressions? = some kept) :
    kept.Tight := by
  induction h generalizing kept with
  | leaf l =>
    rw [regressions?] at hkept
    split at hkept
    · exact Option.some.inj hkept ▸ .leaf l
    · cases hkept
  | @directory children hkeys _ ih =>
    rw [regressions?] at hkept
    split at hkept
    · cases hkept
    · rename_i hne
      obtain rfl := Option.some.inj hkept
      refine .directory (by simpa using hne)
        (List.Pairwise.sublist (keys_regressionsOf_sublist children) hkeys) fun c hc ↦ ?_
      obtain ⟨node, hmem, hnode⟩ := mem_regressionsOf.mp hc
      exact ih _ hmem hnode

/-- What is kept of a trie has no empty directories. -/
theorem Ordered.tight (h : t.Ordered) : Children.Tight t.regressions.children := by
  cases h with
  | directory hkeys hbelow =>
    refine ⟨List.Pairwise.sublist (keys_regressionsOf_sublist _) hkeys, fun c hc ↦ ?_⟩
    obtain ⟨node, hmem, hnode⟩ := mem_regressionsOf.mp hc
    exact (hbelow _ hmem).tight hnode

/-- What is found in what is kept of a trie. -/
theorem Ordered.getAt?_regressions (h : t.Ordered) (path : List String) :
    getAt? path t.regressions.children =
      (getAt? path t.children).filter (·.isRegression) := by
  have hat := Node.Ordered.at?_regressions? h path
  rw [Node.at?] at hat
  rw [← hat, Node.regressions?, regressions]
  cases regressionsOf t.children with
  | nil => exact getAt?_empty path
  | cons c rest => rfl

/-- **Nothing goes a second time**: a trie without empty directories is known by its leaves, and
those that are left are regressions. -/
theorem Ordered.regressions_regressions (h : t.Ordered) :
    t.regressions.regressions = t.regressions := by
  have hordered : t.regressions.Ordered := h.tight.ordered
  have hsame : t.regressions.regressions.children = t.regressions.children := by
    refine hordered.tight.eq_of_getAt? h.tight fun path ↦ ?_
    rw [hordered.getAt?_regressions, h.getAt?_regressions, Option.filter_filter]
    simp only [Bool.and_self]
  exact congrArg Trie.mk hsame

end Trie

/-! ## Reports -/

namespace Report

open Trie (getAt? entriesBelow)

variable {h : History} {shard : Option Nat} {t : Trie}

/-- One test more: its leaf is put into the trie without a word, or it is left out with one. -/
theorem addTest_spec (htight : Trie.Children.Tight t.children) {test : String}
    {attempts : List Attempt} {l : Leaf} (hleaf : leaf? h shard test attempts = some l) :
    (Trie.Inserted l (Path.segments test) t.children (addTest h shard t test attempts).1.children ∧
      (addTest h shard t test attempts).2 = []) ∨
    ((addTest h shard t test attempts).1 = t ∧ (addTest h shard t test attempts).2 ≠ []) := by
  have hspec := Trie.insertAt_spec (l := l) (Path.segments_ne_nil test) htight
  rw [addTest, hleaf]
  dsimp only
  rw [Trie.insert]
  cases hinsert : Trie.insertAt l (Path.segments test) t.children with
  | ok children =>
    rw [hinsert] at hspec
    exact .inl ⟨hspec, rfl⟩
  | error e => exact .inr ⟨rfl, List.cons_ne_nil _ _⟩

/-- **Where the leaves of several tests are**, if none of them was left out: each at its own
path. -/
theorem addTests_spec (htight : Trie.Children.Tight t.children)
    {more : List (String × List Attempt)} (hnodup : (Keyed.keys more).Nodup)
    (hattempts : ∀ d ∈ more, d.2 ≠ []) (hsilent : (addTests h shard t more).2 = []) :
    Trie.Children.Tight (addTests h shard t more).1.children ∧
    (∀ d ∈ more, (addTests h shard t more).1.get? d.1 = leaf? h shard d.1 d.2) ∧
    ∀ path, (∀ n ∈ Keyed.keys more, path ≠ Path.segments n) →
      getAt? path (addTests h shard t more).1.children = getAt? path t.children := by
  induction more generalizing t with
  | nil => exact ⟨htight, nofun, fun _ _ ↦ rfl⟩
  | cons d more ih =>
    obtain ⟨hd, hmore⟩ := List.forall_mem_cons.mp hattempts
    rw [Keyed.keys, List.map_cons, List.nodup_cons] at hnodup
    obtain ⟨l, hleaf⟩ := exists_leaf? h shard d.1 hd
    rw [addTests] at hsilent ⊢
    obtain ⟨hone, hrest⟩ := List.append_eq_nil_iff.mp hsilent
    rcases addTest_spec htight hleaf with ⟨hinserted, -⟩ | ⟨-, hword⟩
    · obtain ⟨htight', hleaves, hothers⟩ := ih hinserted.tight hnodup.2 hmore hrest
      refine ⟨htight', List.forall_mem_cons.mpr ⟨?_, hleaves⟩, fun path hpath ↦ ?_⟩
      · have hpath : ∀ n ∈ Keyed.keys more, Path.segments d.1 ≠ Path.segments n :=
          fun n hn heq ↦ hnodup.1 (Path.segments_injective heq ▸ hn)
        have hthere := hothers _ hpath
        rw [hinserted.getAt?, if_pos rfl, ← hleaf] at hthere
        exact hthere
      · obtain ⟨hne, hpath⟩ := List.forall_mem_cons.mp hpath
        refine (hothers path hpath).trans ?_
        rw [hinserted.getAt?, if_neg hne]
    · exact absurd hone hword

theorem isRegression_of_leaf? {test : String} {attempts : List Attempt} :
    (leaf? h shard test attempts).any (·.isRegression) =
      History.endsWith Attempt.isRegression attempts := by
  rw [leaf?, History.endsWith]
  cases attempts with
  | nil => rfl
  | cons first rest =>
    rw [List.head?_cons, List.getLast?_cons]
    rfl

/-- **There are as many regressions in a trie as in its history**, if no test was left out. -/
theorem countP_entriesBelow_of_silent (hsound : h.Sound) (c : Context)
    (hsilent : (ofHistory h c).2 = []) :
    ((entriesBelow (ofHistory h c).1.tests.children).countP fun e ↦ e.2.isRegression) =
      h.regressions := by
  have hshows := shows_ofHistory hsound c
  have htight := hshows.tight
  have hleaves : ∀ d ∈ h.tests, (ofHistory h c).1.tests.get? d.1 = leaf? h c.shard d.1 d.2 :=
    (addTests_spec .nil hsound.nodup hsound.attempts hsilent).2.1
  -- The paths of the leaves are those of the tests, each of them once.
  have hpaths : ((entriesBelow (ofHistory h c).1.tests.children).map (·.1)).Perm
      (h.tests.map fun d ↦ Path.segments d.1) := by
    refine (List.perm_ext_iff_of_nodup ?_ ?_).mpr fun path ↦ ?_
    · exact htight.pairwise_entriesBelow.imp fun {p q} (hlt : p < q) (heq : p = q) ↦
        List.lt_irrefl q (heq ▸ hlt)
    · have hnodup := hsound.nodup.map Path.segments_injective
      rwa [Keyed.keys, List.map_map] at hnodup
    · constructor
      · intro hpath
        obtain ⟨⟨path, l⟩, hmem, rfl⟩ := List.mem_map.mp hpath
        obtain ⟨d, hd, hsegments, -⟩ := hshows.leaf path l (htight.mem_entriesBelow.mp hmem)
        exact List.mem_map.mpr ⟨d, hd, hsegments.symm⟩
      · intro hpath
        obtain ⟨d, hd, rfl⟩ := List.mem_map.mp hpath
        obtain ⟨l, hleaf⟩ := exists_leaf? h c.shard d.1 (hsound.attempts d hd)
        have hget := (hleaves d hd).trans hleaf
        exact List.mem_map.mpr ⟨(_, l), htight.mem_entriesBelow.mpr hget, rfl⟩
  have hentries : ((entriesBelow (ofHistory h c).1.tests.children).countP
        fun e ↦ e.2.isRegression) =
      ((entriesBelow (ofHistory h c).1.tests.children).map (·.1)).countP fun path ↦
        (getAt? path (ofHistory h c).1.tests.children).any (·.isRegression) := by
    rw [List.countP_map]
    refine List.countP_congr fun e he ↦ ?_
    rw [Function.comp_apply, htight.mem_entriesBelow.mp he, Option.any_some]
  rw [hentries, hpaths.countP_eq, List.countP_map, History.regressions]
  refine List.countP_congr fun d hd ↦ ?_
  have hget := hleaves d hd
  rw [← isRegression_of_leaf?, ← hget]
  rfl

/-- **Only the regressions are left.** Of a trie with its components in order:

* the leaves that are left are those of the regressions, in the order in which they were listed;
* a leaf is found at a path exactly if it was found there and is one of a regression;
* no directory is empty, at any depth;
* there is nothing more to take away.

So a report that leaves out no test of its history because of its path has as many leaves left as
there are tests whose last attempt is a regression. -/
theorem regressions_alone :
    (∀ t : Trie, t.Ordered →
      t.regressions.leaves = t.leaves.filter (fun e ↦ e.2.isRegression) ∧
      (∀ path l, t.regressions.get? path = some l ↔
        t.get? path = some l ∧ l.isRegression = true) ∧
      Trie.Children.Tight t.regressions.children ∧
      t.regressions.regressions = t.regressions) ∧
    ∀ (h : History) (c : Context), h.Sound → (ofHistory h c).2 = [] →
      (ofHistory h c).1.failing.tests.leaves.length = (ofHistory h c).1.regressions := by
  refine ⟨fun t ht ↦ ⟨Trie.leavesBelow_regressionsOf "" t.children, fun path l ↦ ?_, ht.tight,
    ht.regressions_regressions⟩, fun h c hsound hsilent ↦ ?_⟩
  · rw [Trie.get?, ht.getAt?_regressions, Option.filter_eq_some_iff]
    rfl
  · have hleaves : (ofHistory h c).1.failing.tests.leaves =
        (ofHistory h c).1.tests.leaves.filter fun e ↦ e.2.isRegression :=
      Trie.leavesBelow_regressionsOf "" _
    have hlisted : (ofHistory h c).1.tests.leaves =
        (entriesBelow (ofHistory h c).1.tests.children).map _ := Trie.leavesBelow_eq "" _
    rw [hleaves, hlisted, ← List.countP_eq_length_filter, List.countP_map]
    exact countP_entriesBelow_of_silent hsound c hsilent

/-- What is said about a test that regressed. -/
def regressed : Leaf := { expected := "PASS", actual := "FAIL", isRegression := true }

/-- A trie with a regression beside a test that passed, a directory without regressions, and one
without tests. -/
def mixedTrie : Trie where
  children :=
    [("a", .directory [("x", .leaf Trie.passed), ("y", .leaf regressed)]),
     ("b", .directory [("c", .directory [("z", .leaf Trie.passed)])]),
     ("d", .directory [])]

/-- Two tests. The second attempt at one of them is a regression. -/
def regressedHistory : History :=
  ((History.push {} (sampleAttempt "a/y")).push (sampleAttempt "b")).push
    { sampleAttempt "a/y" with verdict := .failure }

theorem regressions_alone_sample :
    mixedTrie.Ordered ∧ mixedTrie.regressions.leaves = [("a/y", regressed)] ∧
      mixedTrie.regressions.get? "a/y" = some regressed ∧
      regressedHistory.Sound ∧ (ofHistory regressedHistory sampleContext).2 = [] ∧
      (ofHistory regressedHistory sampleContext).1.failing.tests.leaves.length = 1 := by
  have hordered : mixedTrie.Ordered := Trie.ordered_of_read? (d := .ofJson mixedTrie.json) rfl
  have hsound : regressedHistory.Sound := ((History.sound_empty.push _).push _).push _
  have hsilent : (ofHistory regressedHistory sampleContext).2 = [] := rfl
  obtain ⟨hleaves, hget, -, -⟩ := regressions_alone.1 mixedTrie hordered
  exact ⟨hordered, hleaves, (hget _ _).mpr ⟨rfl, rfl⟩, hsound, hsilent,
    regressions_alone.2 regressedHistory sampleContext hsound hsilent⟩

end Report

end WebTestRun
