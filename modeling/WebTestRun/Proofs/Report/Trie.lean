import Mathlib.Data.List.Basic
import WebTestRun.Proofs.Collection.Keyed
import WebTestRun.Proofs.File.Path
import WebTestRun.Report.Trie

/-!
# What a trie holds

A trie is known by its leaves: the leaves at all paths tell what a node is, as long as there are no
empty directories. Putting a leaf at a path changes that path only, and fails exactly if the path
meets that of a leaf, so that one goes on where the other ends.

* `Trie.Meets` — two paths that cannot both be of leaves.
* `Trie.Tight` — no directory is empty, and components are in order.
* `insertAt_spec` — what putting a leaf does.
* `Tight.eq_of_getAt?` — a trie is known by its leaves.
-/

set_option autoImplicit false

namespace WebTestRun

namespace Trie

/-! ## Paths -/

/-- One path goes on where the other ends. -/
def Meets (p q : List String) : Prop := p ≠ q ∧ (p <+: q ∨ q <+: p)

instance (p q : List String) : Decidable (Meets p q) := inferInstanceAs (Decidable (_ ∧ _))

theorem Meets.symm {p q : List String} (h : Meets p q) : Meets q p := ⟨h.1.symm, h.2.symm⟩

theorem Meets.cons {p q : List String} (h : Meets p q) (k : String) : Meets (k :: p) (k :: q) :=
  ⟨fun heq ↦ h.1 (List.cons.inj heq).2,
    h.2.imp (fun hp ↦ List.cons_prefix_cons.mpr ⟨rfl, hp⟩)
      fun hq ↦ List.cons_prefix_cons.mpr ⟨rfl, hq⟩⟩

theorem meets_singleton {k : String} {q : List String} (h : q ≠ []) : Meets [k] (k :: q) :=
  ⟨fun heq ↦ h (List.cons.inj heq).2.symm, .inl ⟨q, rfl⟩⟩

/-! ## Leaves below nodes -/

/-- The leaf below a node. -/
def Node.at? : Node → List String → Option Leaf
  | .leaf l, [] => some l
  | .leaf _, _ :: _ => none
  | .directory children, path => getAt? path children

theorem getAt?_nil (children : Children) : getAt? [] children = none := rfl

theorem getAt?_cons (k : String) (path : List String) (children : Children) :
    getAt? (k :: path) children = (Keyed.find? k children).bind fun node ↦ node.at? path := by
  cases path with
  | nil =>
    rw [getAt?]
    cases Keyed.find? k children with
    | none => rfl
    | some node => cases node <;> rfl
  | cons j path =>
    rw [getAt?]
    · cases Keyed.find? k children with
      | none => rfl
      | some node => cases node <;> rfl
    · simp

/-- **No leaf lies below another.** -/
theorem eq_of_isBelow {p q : List String} {children : Children} {l m : Leaf} (h : p <+: q)
    (hp : getAt? p children = some l) (hq : getAt? q children = some m) : p = q := by
  induction p generalizing q children with
  | nil => cases hp
  | cons k p ih =>
    obtain ⟨rest, rfl⟩ := h
    rw [List.cons_append, getAt?_cons] at hq
    rw [getAt?_cons] at hp
    obtain ⟨node, hnode, hq⟩ := Option.bind_eq_some_iff.mp hq
    rw [hnode, Option.bind_some] at hp
    cases node with
    | directory below => rw [List.cons_append, ← ih ⟨rest, rfl⟩ hp hq]
    | leaf leaf =>
      -- A leaf is at one path only.
      cases p with
      | cons j p => cases hp
      | nil =>
        cases rest with
        | cons j rest => cases hq
        | nil => rfl

theorem not_meets_of_getAt? {p q : List String} {children : Children} {l m : Leaf}
    (hp : getAt? p children = some l) (hq : getAt? q children = some m) : ¬ Meets p q := by
  rintro ⟨hne, hprefix | hprefix⟩
  · exact hne (eq_of_isBelow hprefix hp hq)
  · exact hne (eq_of_isBelow hprefix hq hp).symm

/-! ## Tries without empty directories -/

/-- No directory in a node is empty, and components are in order. -/
inductive Node.Tight : Node → Prop where
  | leaf (l : Leaf) : Tight (.leaf l)
  | directory {children : Children} (hne : children ≠ []) (hkeys : Keyed.Ordered children)
    (hbelow : ∀ c ∈ children, Tight c.2) : Tight (.directory children)

/-- No directory below is empty, and components are in order. -/
structure Children.Tight (children : Children) : Prop where
  /-- The components are in order. -/
  keys : Keyed.Ordered children
  /-- So is all that is below them. -/
  below : ∀ c ∈ children, c.2.Tight

theorem Children.Tight.nil : Children.Tight [] := ⟨.nil, nofun⟩

variable {children children' : Children} {l : Leaf} {k : String}

theorem Children.Tight.find? (h : Children.Tight children) {node : Node}
    (hnode : Keyed.find? k children = some node) : node.Tight :=
  h.below _ (Keyed.mem_of_find? hnode)

/-- There is a leaf below every node. -/
theorem Node.Tight.exists_at? {node : Node} (h : node.Tight) :
    ∃ path l, node.at? path = some l := by
  induction h with
  | leaf l => exact ⟨[], l, rfl⟩
  | @directory children hne hkeys hbelow ih =>
    obtain ⟨⟨k, node⟩, rest, rfl⟩ := List.exists_cons_of_ne_nil hne
    obtain ⟨path, l, hl⟩ := ih (k, node) List.mem_cons_self
    refine ⟨k :: path, l, ?_⟩
    rw [at?, getAt?_cons, Keyed.find?, if_pos rfl]
    exact hl

/-- Something below a node of a trie shows in the trie. -/
theorem exists_getAt?_of_find? (h : Children.Tight children) {node : Node}
    (hnode : Keyed.find? k children = some node) :
    ∃ path l, getAt? (k :: path) children = some l := by
  obtain ⟨path, l, hl⟩ := (h.find? hnode).exists_at?
  refine ⟨path, l, ?_⟩
  rw [getAt?_cons, hnode]
  exact hl

/-! ## Putting a leaf -/

theorem Children.Tight.insert (h : Children.Tight children) (k : String) {node : Node}
    (hnode : node.Tight) : Children.Tight (Keyed.insert k node children) where
  keys := Keyed.ordered_insert k node h.keys
  below c hc := by
    rcases Keyed.mem_of_mem_insert hc with rfl | hc
    · exact hnode
    · exact h.below c hc

theorem insert_ne_nil (k : String) (node : Node) (children : Children) :
    Keyed.insert k node children ≠ [] := by
  intro h
  have hfind := Keyed.find?_insert k k node children
  rw [h, if_pos rfl] at hfind
  cases hfind

/-- Nodes that hold one leaf more. -/
structure Inserted (l : Leaf) (path : List String) (children after : Children) : Prop where
  /-- There are no empty directories. -/
  tight : Children.Tight after
  /-- There is something. -/
  ne_nil : after ≠ []
  /-- The leaf is at its path, and every other path leads where it led. -/
  getAt? : ∀ q, Trie.getAt? q after = if q = path then some l else Trie.getAt? q children

/-- What an attempt to put a leaf comes to: the leaf is there, or its path meets that of another. -/
def PutsLeaf (l : Leaf) (path : List String) (children : Children) :
    Except String Children → Prop
  | .ok after => Inserted l path children after
  | .error _ => ∃ q m, getAt? q children = some m ∧ Meets q path

/-- A leaf is put below a directory, or below a component where there is nothing yet. -/
theorem PutsLeaf.below {path : List String} {below : Children} {r : Except String Children}
    (htight : Children.Tight children)
    (hbelow : ∀ q, getAt? (k :: q) children = getAt? q below)
    (hr : PutsLeaf l path below r) :
    PutsLeaf l (k :: path) children
      (r.map fun below ↦ Keyed.insert k (.directory below) children) := by
  cases r with
  | error e =>
    obtain ⟨q, m, hq, hmeets⟩ := hr
    exact ⟨k :: q, m, (hbelow q).trans hq, hmeets.cons k⟩
  | ok after =>
    refine ⟨htight.insert k (.directory hr.ne_nil hr.tight.keys hr.tight.below),
      insert_ne_nil _ _ _, fun q ↦ ?_⟩
    cases q with
    | nil => rw [if_neg (by simp), getAt?_nil, getAt?_nil]
    | cons j q =>
      rw [getAt?_cons, Keyed.find?_insert]
      by_cases hj : k = j
      · subst hj
        rw [if_pos rfl, Option.bind_some, Node.at?, hr.getAt?, hbelow]
        simp
      · rw [if_neg hj, ← getAt?_cons, if_neg fun heq ↦ hj (List.cons.inj heq).1.symm]

/-- There is room for a leaf where there is no directory. -/
theorem insertAt_singleton (hfind : ∀ below, Keyed.find? k children ≠ some (.directory below)) :
    insertAt l [k] children = .ok (Keyed.insert k (.leaf l) children) := by
  rw [insertAt]
  split
  · rename_i below hbelow
    exact absurd hbelow (hfind below)
  · rfl

/-- **Putting a leaf at a path** changes that path only, and it fails exactly if the path meets that
of a leaf. -/
theorem insertAt_spec {path : List String} (hpath : path ≠ []) (h : Children.Tight children) :
    PutsLeaf l path children (insertAt l path children) := by
  induction path, children using insertAt.induct with
  | case1 => exact absurd rfl hpath
  | case2 name children below hfind =>
    -- The path ends where others go on.
    obtain ⟨q, m, hm⟩ := exists_getAt?_of_find? h hfind
    rw [insertAt, hfind]
    refine ⟨name :: q, m, hm, (meets_singleton ?_).symm⟩
    rintro rfl
    rw [getAt?_cons, hfind, Option.bind_some, Node.at?, getAt?_nil] at hm
    cases hm
  | case3 name children hfind =>
    rw [insertAt_singleton hfind]
    refine ⟨h.insert name (.leaf l), insert_ne_nil _ _ _, fun q ↦ ?_⟩
    cases q with
    | nil => rw [if_neg (by simp), getAt?_nil, getAt?_nil]
    | cons j q =>
      rw [getAt?_cons, Keyed.find?_insert]
      by_cases hj : name = j
      · subst hj
        rw [if_pos rfl, Option.bind_some]
        cases q with
        | nil => rw [if_pos rfl, Node.at?]
        | cons i q =>
          rw [if_neg (by simp), Node.at?, getAt?_cons]
          cases hnode : Keyed.find? name children with
          | none => rfl
          | some node =>
            cases node with
            | leaf m => rfl
            | directory below => exact absurd hnode (hfind below)
      · rw [if_neg hj, ← getAt?_cons, if_neg fun heq ↦ hj (List.cons.inj heq).1.symm]
  | case4 name rest children hrest m hfind =>
    -- The path goes on where a leaf is.
    rw [insertAt, hfind]
    · refine ⟨[name], m, ?_, meets_singleton fun hnil ↦ hrest hnil⟩
      rw [getAt?_cons, hfind]
      rfl
    · exact hrest
  | case5 name rest children hrest below hfind ih =>
    rw [insertAt, hfind]
    · have hbelow : Children.Tight below := by
        cases h.find? hfind with
        | directory hne hkeys hbelow => exact ⟨hkeys, hbelow⟩
      refine (ih (fun hnil ↦ hrest hnil) hbelow).below h fun q ↦ ?_
      rw [getAt?_cons, hfind]
      rfl
    · exact hrest
  | case6 name rest children hrest hfind ih =>
    rw [insertAt, hfind]
    · refine (ih (fun hnil ↦ hrest hnil) .nil).below h fun q ↦ ?_
      rw [getAt?_cons, hfind, Option.bind_none]
      cases q with
      | nil => rfl
      | cons j q => rw [getAt?_cons, Keyed.find?_nil, Option.bind_none]
    · exact hrest

/-! ## Tries with the same leaves -/

theorem children_ext (h : Children.Tight children) (h' : Children.Tight children')
    (hnodes : ∀ c ∈ children, ∀ node : Node, node.Tight →
      (∀ path, c.2.at? path = node.at? path) → c.2 = node)
    (hsame : ∀ path, getAt? path children = getAt? path children') : children = children' := by
  refine h.keys.ext h'.keys fun k ↦ ?_
  have hbelow (path : List String) := hsame (k :: path)
  simp only [getAt?_cons] at hbelow
  cases hfind : Keyed.find? k children with
  | none =>
    cases hfind' : Keyed.find? k children' with
    | none => rfl
    | some node =>
      obtain ⟨path, l, hl⟩ := (h'.find? hfind').exists_at?
      have hpath := hbelow path
      rw [hfind, hfind', Option.bind_none, Option.bind_some, hl] at hpath
      cases hpath
  | some node =>
    cases hfind' : Keyed.find? k children' with
    | none =>
      obtain ⟨path, l, hl⟩ := (h.find? hfind).exists_at?
      have hpath := hbelow path
      rw [hfind, hfind', Option.bind_none, Option.bind_some, hl] at hpath
      cases hpath
    | some node' =>
      simp only [hfind, hfind', Option.bind_some] at hbelow
      exact congrArg some (hnodes _ (Keyed.mem_of_find? hfind) node' (h'.find? hfind') hbelow)

theorem Node.Tight.ext {node node' : Node} (h : node.Tight) (h' : node'.Tight)
    (hsame : ∀ path, node.at? path = node'.at? path) : node = node' := by
  induction h generalizing node' with
  | leaf l =>
    have hpath := hsame []
    cases h' with
    | leaf m =>
      rw [at?, at?] at hpath
      rw [Option.some.inj hpath]
    | directory => cases hpath
  | @directory children hne hkeys hbelow ih =>
    cases h' with
    | leaf m => cases hsame []
    | @directory children' hne' hkeys' hbelow' =>
      rw [children_ext ⟨hkeys, hbelow⟩ ⟨hkeys', hbelow'⟩
        (fun c hc node hnode hpaths ↦ ih c hc hnode hpaths) hsame]

/-- **A trie without empty directories is known by its leaves.** -/
theorem Children.Tight.eq_of_getAt? (h : Children.Tight children) (h' : Children.Tight children')
    (hsame : ∀ path, getAt? path children = getAt? path children') : children = children' :=
  children_ext h h' (fun c hc _ hnode hpaths ↦ (h.below c hc).ext hnode hpaths) hsame

end Trie

end WebTestRun
