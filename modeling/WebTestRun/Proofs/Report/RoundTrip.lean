import WebTestRun.Proofs.Json.Reordered
import WebTestRun.Report.Basic

/-!
# Reports that are written and read again

A report is read back from its value as it was written, however deep its trie is and in whatever
order the members of the objects in the value come. In the value a leaf and a directory are both
objects. They are told apart all the same: what is under a component is an object, and no field of
a leaf that must be given is one, so a directory is never read as a leaf, whatever its components
are called. Numbers are taken as they are; how their digits are written is no part of this.

* `Leaf.Fits`, `Trie.Node.Fits`, `Report.Fits` — what the fields can hold.
* `Leaf.Fits.recovers`, `Trie.Node.Fits.recovers` — leaves and directories are read back.
* `Trie.leaf?_eq_none_of_directory` — no directory is read as a leaf.
* `Report.reads_back` — reports are read back.
-/

set_option autoImplicit false

namespace WebTestRun

open Document (Recovers)
open Json (Same)
open Answer (bind_of_eq_some)

/-! ## Leaves -/

namespace Leaf

/-- A leaf that holds what its fields can hold. -/
structure Fits (l : Leaf) : Prop where
  /-- A channel has eight bits. -/
  stats : ∀ s ∈ l.imageStats, s.maxDifference ≤ 255
  /-- The kinds of artifacts are in order. -/
  artifacts : Keyed.Ordered l.artifacts

variable {α : Type} {f : Fields} {members : List (String × Json)} {k : String}
  {read? : Document → Option α}

theorem recovers_stats {s : ImageStats} (h : s.maxDifference ≤ 255) :
    Recovers stats? (statsJson s) s := by
  intro j hsame
  have hnames : (Keyed.keys [("maxDifference", Json.ofNat s.maxDifference),
      ("maxPixels", Json.ofNat s.maxPixels)]).Sublist ["maxDifference", "maxPixels"] := .refl _
  obtain ⟨f, hf, hgive⟩ := Document.exists_fields_of_same hnames (by decide) hsame
  obtain ⟨d, hd, hdifference⟩ := hgive.required (k := "maxDifference") rfl
    (Document.recovers_natural s.maxDifference)
  obtain ⟨p, hp, hpixels⟩ := hgive.required (k := "maxPixels") rfl
    (Document.recovers_natural s.maxPixels)
  have hwidth : ¬ 255 < s.maxDifference := Nat.not_lt.mpr h
  simp only [stats?, hf, hd, hdifference, hp, hpixels, Option.bind_eq_bind, Option.bind_some,
    if_neg hwidth]
  rfl

/-- **Entries under texts are read back** in order, each reader getting back its own. -/
theorem recovers_members {w : α → Json} {es : List (String × α)} (hnodup : (Keyed.keys es).Nodup)
    (hread : ∀ e ∈ es, Recovers read? (w e.2) e.2) :
    Recovers (members? read?) (.object (es.map fun e ↦ (e.1, w e.2))) (Keyed.ofList es) := by
  intro j hsame
  obtain ⟨members, rfl⟩ := hsame.exists_object
  obtain ⟨es', hperm, hreads⟩ := Document.exists_reads_of_same hnodup hsame hread
  have hlist : (Document.ofMembers members).mapM (fun (m : Option String × Document) ↦
      m.1.bind fun k ↦ (read? m.2).map fun a ↦ (k, a)) = some es' := by
    rw [Document.ofMembers_eq_map, Answer.mapM_eq_some_iff, List.forall₂_map_left_iff]
    refine hreads.imp fun m e hm ↦ ?_
    rw [Option.bind_some, hm.1, hm.2]
    rfl
  rw [Document.ofJson, members?, hlist, Option.map_some,
    Keyed.ofList_perm hperm ((hperm.map _).nodup_iff.mpr hnodup)]

theorem recovers_artifacts {artifacts : List (String × List String)}
    (h : Keyed.Ordered artifacts) :
    Recovers (members? (Document.list? Document.text?)) (artifactsJson artifacts) artifacts := by
  have hpaths (paths : List String) :
      Recovers (Document.list? Document.text?) (.array (paths.map .string)) paths :=
    Document.recovers_list (List.forall₂_map_left_iff.mpr
      (List.forall₂_same.mpr fun s _ ↦ Document.recovers_text s))
  have hread : Recovers (members? (Document.list? Document.text?)) (artifactsJson artifacts)
      (Keyed.ofList artifacts) :=
    recovers_members (w := fun paths : List String ↦ .array (paths.map .string)) h.nodup
      fun e _ ↦ hpaths e.2
  rwa [h.ofList_eq_self] at hread

/-! ### Members that may be left out -/

@[simp] theorem find?_flag (k q : String) (b : Bool) : Keyed.find? k (flag q b) =
    if q = k then (if b then some (.bool true) else none) else none := by
  cases b <;> simp [flag, Keyed.find?]

@[simp] theorem find?_some? (k q : String) (w : α → Json) (a : Option α) :
    Keyed.find? k (some? q w a) = if q = k then a.map w else none := by
  cases a <;> simp [some?, Keyed.find?]

theorem valueOr_eq_some {absent a : α} (h : f.Give members)
    (habsent : Keyed.find? k members = none → a = absent)
    (hread : ∀ j, Keyed.find? k members = some j → Recovers read? j a) :
    f.valueOr k absent read? = some a := by
  cases hk : Keyed.find? k members with
  | none => rw [Fields.valueOr, h.none hk, habsent hk]
  | some j =>
    obtain ⟨d, hd, hread⟩ := h.required hk (hread j hk)
    rw [Fields.valueOr, show f.optional k = some d from hd]
    exact hread

/-- A flag that is left out is read as false. -/
theorem valueOr_flag {b : Bool} (h : f.Give members)
    (hk : Keyed.find? k members = if b then some (.bool true) else none) :
    f.valueOr k false Document.boolean? = some b := by
  refine valueOr_eq_some h ?_ ?_ <;> rw [hk] <;> cases b
  · simp
  · simp
  · simp
  · rintro j ⟨⟩
    exact Document.recovers_boolean true

/-- A value that is left out is read as absent. -/
theorem valueOr_some? {w : α → Json} {a : Option α} (h : f.Give members)
    (hk : Keyed.find? k members = a.map w) (hread : ∀ x ∈ a, Recovers read? (w x) x)
    (hnull : ∀ x, w x ≠ .null) :
    f.valueOr k none (Document.orNull? read?) = some a := by
  refine valueOr_eq_some h ?_ ?_ <;> rw [hk] <;> cases a with
  | none => simp
  | some x => ?_
  · simp
  · rintro j ⟨⟩
    exact (hread x rfl).orNull (hnull x)

@[simp] theorem find?_unless (k q : String) (c : Prop) [Decidable c] (j : Json) :
    Keyed.find? k (if c then [] else [(q, j)]) =
      if q = k then (if c then none else some j) else none := by
  by_cases hc : c <;> simp [hc, Keyed.find?]

/-! ### The record -/

theorem keys_members (l : Leaf) : (Keyed.keys l.members).Sublist names := by
  have hflag (k : String) (b : Bool) : (Keyed.keys (flag k b)).Sublist [k] := by
    cases b
    · exact List.nil_sublist [k]
    · exact .refl [k]
  have hsome {α : Type} (k : String) (w : α → Json) (a : Option α) :
      (Keyed.keys (some? k w a)).Sublist [k] := by
    cases a
    · exact List.nil_sublist [k]
    · exact .refl [k]
  have hartifacts : (Keyed.keys (if l.artifacts.isEmpty then []
      else [("artifacts", artifactsJson l.artifacts)])).Sublist ["artifacts"] := by
    split
    · exact List.nil_sublist _
    · exact .refl _
  have hfirst : ["expected", "actual", "shard"].Sublist ["expected", "actual", "shard"] := .refl _
  rw [members, Keyed.keys]
  simp only [List.map_append]
  exact (((((((hfirst.append (hflag _ _)).append (hsome _ _ _)).append (hflag _ _)).append
    (hflag _ _)).append (hflag _ _)).append (hsome _ _ _)).append hartifacts).append (hflag _ _)

/-- **A leaf is read back.** -/
theorem Fits.recovers {l : Leaf} (h : l.Fits) : Recovers ofDocument? l.json l := by
  intro j hsame
  obtain ⟨f, hf, hgive⟩ := Document.exists_fields_of_same l.keys_members (by decide) hsame
  obtain ⟨expected, hexpected, hexpected'⟩ := hgive.required (k := "expected") rfl
    (Document.recovers_text l.expected)
  obtain ⟨actual, hactual, hactual'⟩ := hgive.required (k := "actual") rfl
    (Document.recovers_text l.actual)
  have hshard : f.valueOr "shard" none (Document.orNull? Document.natural?) = some l.shard := by
    obtain ⟨j, hj, hread⟩ : ∃ j, Keyed.find? "shard" l.members = some j ∧
        Recovers (Document.orNull? Document.natural?) j l.shard := by
      refine ⟨_, rfl, ?_⟩
      cases l.shard with
      | none => exact Document.recovers_null _
      | some n => exact (Document.recovers_natural n).orNull (by simp [Json.ofNat])
    refine valueOr_eq_some hgive ?_ ?_ <;> rw [hj]
    · simp
    · rintro _ ⟨⟩
      exact hread
  have hflaky : f.valueOr "is_flaky" false Document.boolean? = some l.isFlaky :=
    valueOr_flag hgive
      (by simp [members, Keyed.find?_append, Keyed.find?])
  have htime : f.valueOr "time" none (Document.orNull? Document.real?) = some l.time :=
    valueOr_some? hgive (w := fun x ↦ .number (.real x))
      (by simp [members, Keyed.find?_append, Keyed.find?])
      (fun x _ ↦ Document.recovers_real x) (by simp)
  have hslow : f.valueOr "is_slow_test" false Document.boolean? = some l.isSlow :=
    valueOr_flag hgive
      (by simp [members, Keyed.find?_append, Keyed.find?])
  have hunexpected : f.valueOr "is_unexpected" false Document.boolean? = some l.isUnexpected :=
    valueOr_flag hgive
      (by simp [members, Keyed.find?_append, Keyed.find?])
  have hregression : f.valueOr "is_regression" false Document.boolean? = some l.isRegression :=
    valueOr_flag hgive
      (by simp [members, Keyed.find?_append, Keyed.find?])
  have hstats : f.valueOr "image_diff_stats" none (Document.orNull? stats?) = some l.imageStats :=
    valueOr_some? hgive (w := statsJson)
      (by simp [members, Keyed.find?_append, Keyed.find?])
      (fun s hs ↦ recovers_stats (h.stats s hs)) (by simp [statsJson])
  have hartifacts : f.valueOr "artifacts" [] (members? (Document.list? Document.text?)) =
      some l.artifacts := by
    have hmember : Keyed.find? "artifacts" l.members =
        if l.artifacts = [] then none else some (artifactsJson l.artifacts) := by
      simp [members, Keyed.find?_append, Keyed.find?]
    refine valueOr_eq_some hgive ?_ ?_ <;> rw [hmember] <;> split
    · rename_i hnone
      exact fun _ ↦ hnone
    · simp
    · simp
    · rintro j ⟨⟩
      exact recovers_artifacts h.artifacts
  have hstderr : f.valueOr "has_stderr" false Document.boolean? = some l.hasStderr :=
    valueOr_flag hgive
      (by simp [members, Keyed.find?_append, Keyed.find?])
  unfold ofDocument?
  exact (bind_of_eq_some hf _).trans <| (bind_of_eq_some hexpected _).trans <|
    (bind_of_eq_some hexpected' _).trans <| (bind_of_eq_some hactual _).trans <|
    (bind_of_eq_some hactual' _).trans <| (bind_of_eq_some hshard _).trans <|
    (bind_of_eq_some hflaky _).trans <| (bind_of_eq_some htime _).trans <|
    (bind_of_eq_some hslow _).trans <| (bind_of_eq_some hunexpected _).trans <|
    (bind_of_eq_some hregression _).trans <| (bind_of_eq_some hstats _).trans <|
    (bind_of_eq_some hartifacts _).trans <| bind_of_eq_some hstderr _

end Leaf

/-! ## Tries -/

namespace Trie

/-- A node that holds what its fields can hold: the components are in order. -/
inductive Node.Fits : Node → Prop where
  | leaf {l : Leaf} (h : l.Fits) : Fits (.leaf l)
  | directory {children : Children} (hkeys : Keyed.Ordered children)
    (hbelow : ∀ c ∈ children, Fits c.2) : Fits (.directory children)

/-- A trie that holds what its fields can hold. -/
structure Fits (t : Trie) : Prop where
  /-- The components are in order. -/
  keys : Keyed.Ordered t.children
  /-- So are all below. -/
  below : ∀ c ∈ t.children, c.2.Fits

theorem childrenJson_eq_map (children : Children) :
    childrenJson children = children.map fun c ↦ (c.1, c.2.json) := by
  induction children with
  | nil => rfl
  | cons c children ih => rw [childrenJson, ih, List.map_cons]

theorem Node.exists_object (n : Node) : ∃ members, n.json = .object members := by
  cases n with
  | leaf l => exact ⟨_, rfl⟩
  | directory children => exact ⟨_, rfl⟩

/-- **No directory is read as a leaf.** What stands under a component is an object, and a leaf has
a text among its fields that must be given. -/
theorem leaf?_eq_none_of_directory {children : Children} {members : List (String × Json)}
    (hkeys : Keyed.Ordered children)
    (hsame : (Json.object (childrenJson children)).Same (.object members)) :
    Leaf.ofDocument? (.object (Document.ofMembers members)) = none := by
  have hobject : ∀ d, (some "expected", d) ∈ Document.ofMembers members →
      d.text? = none := by
    intro d hd
    rw [Document.ofMembers_eq_map] at hd
    obtain ⟨m, hm, heq⟩ := List.mem_map.mp hd
    obtain ⟨-, rfl⟩ := Prod.mk.inj heq
    rw [childrenJson_eq_map] at hsame
    obtain ⟨j, hj, hsame⟩ := hsame.exists_of_mem (by rw [Keyed.keys_map]; exact hkeys.nodup) hm
    rw [Keyed.find?_map, Option.map_eq_some_iff] at hj
    obtain ⟨node, -, rfl⟩ := hj
    obtain ⟨written, hwritten⟩ := node.exists_object
    rw [hwritten] at hsame
    obtain ⟨below, hbelow⟩ := hsame.exists_object
    rw [hbelow]
    rfl
  cases hgiven : Document.namedFields? Leaf.names (Document.ofMembers members) with
  | none =>
    rw [Leaf.ofDocument?, Document.fields?, hgiven]
    rfl
  | some given =>
    have hfields : Document.fields? Leaf.names (.object (Document.ofMembers members)) =
        some ⟨given, true⟩ := by
      rw [Document.fields?, hgiven]
      rfl
    refine (bind_of_eq_some hfields _).trans ?_
    cases hexpected : Fields.required? ⟨given, true⟩ "expected" with
    | none => rfl
    | some d =>
      refine (bind_of_eq_some rfl _).trans ?_
      rw [hobject d (Document.mem_of_namedFields? hgiven (Keyed.mem_of_find? hexpected))]
      rfl

theorem node?_of_leaf? {d : Document} {l : Leaf} (h : Leaf.ofDocument? d = some l) :
    node? d = some (.leaf l) := by
  unfold node?
  rw [h]

theorem node?_of_leaf?_eq_none {members : List (Option String × Document)}
    (h : Leaf.ofDocument? (.object members) = none) :
    node? (.object members) = (children? members).map .directory := by
  unfold node?
  rw [h]

theorem children?_of_reads {members : List (String × Json)} {es : Children}
    (h : List.Forall₂ (Document.Reads node?) members es) (hnodup : (Keyed.keys es).Nodup) :
    ∃ read, children? (Document.ofMembers members) = some read ∧ Keyed.Ordered read ∧
      ∀ k, Keyed.find? k read = Keyed.find? k es := by
  induction h with
  | nil => exact ⟨[], rfl, .nil, fun _ ↦ rfl⟩
  | @cons m e members es hm _ ih =>
    rw [Keyed.keys, List.map_cons, List.nodup_cons] at hnodup
    obtain ⟨read, hread, hordered, hfind⟩ := ih hnodup.2
    have hnew : Keyed.has e.1 read = false := by
      rw [Keyed.has, hfind, Keyed.find?_eq_none_iff.mpr hnodup.1]
      rfl
    refine ⟨Keyed.insert e.1 e.2 read, ?_, Keyed.ordered_insert e.1 e.2 hordered, fun k ↦ ?_⟩
    · rw [Document.ofMembers, children?, Option.bind_some, hm.2, Option.bind_some, hread,
        Option.map_some, hm.1, hnew]
      rfl
    · rw [Keyed.find?_insert, hfind, Keyed.find?]

theorem recovers_children {children : Children} (hkeys : Keyed.Ordered children)
    (hread : ∀ c ∈ children, Recovers node? c.2.json c.2) {members : List (String × Json)}
    (hsame : (Json.object (childrenJson children)).Same (.object members)) :
    children? (Document.ofMembers members) = some children := by
  rw [childrenJson_eq_map] at hsame
  obtain ⟨es, hperm, hreads⟩ := Document.exists_reads_of_same hkeys.nodup hsame hread
  have hnodup : (Keyed.keys es).Nodup := (hperm.map _).nodup_iff.mpr hkeys.nodup
  obtain ⟨read, hread, hordered, hfind⟩ := children?_of_reads hreads hnodup
  rw [hread, hordered.ext hkeys fun k ↦ by rw [hfind, Keyed.find?_perm hperm hnodup]]

/-- **Nodes are read back**: leaves as leaves and directories as directories. -/
theorem Node.Fits.recovers {n : Node} (h : n.Fits) : Recovers node? n.json n := by
  induction h with
  | leaf h => exact fun j hsame ↦ node?_of_leaf? (h.recovers j hsame)
  | @directory children hkeys _ ih =>
    intro j hsame
    obtain ⟨members, rfl⟩ := Same.exists_object hsame
    rw [Document.ofJson, node?_of_leaf?_eq_none (leaf?_eq_none_of_directory hkeys hsame),
      recovers_children hkeys ih hsame]
    rfl

theorem Fits.recovers {t : Trie} (h : t.Fits) : Recovers read? t.json t := by
  intro j hsame
  obtain ⟨members, rfl⟩ := Same.exists_object hsame
  rw [Document.ofJson, read?, recovers_children h.keys (fun c hc ↦ (h.below c hc).recovers) hsame]
  rfl

end Trie

/-! ## Reports -/

namespace Report

/-- A report that holds what its fields can hold. -/
structure Fits (r : Report) : Prop where
  /-- The version has 32 bits. -/
  version : r.version < Width.limit32
  /-- The time has 64 bits. -/
  seconds : Width.IsSigned64 r.secondsSinceEpoch
  /-- The verdicts that are counted are in order. -/
  counts : (r.counts.map (·.1)).Sublist Listed.all
  /-- The trie holds what it can. -/
  tests : r.tests.Fits

/-- Counts under the names of verdicts. -/
def named (counts : List (Verdict × Nat)) : List (String × Nat) :=
  counts.map fun c ↦ (Named.name c.1, c.2)

theorem keys_named (counts : List (Verdict × Nat)) :
    Keyed.keys (named counts) = (counts.map (·.1)).map Named.name := by
  rw [Keyed.keys, named, List.map_map, List.map_map]
  rfl

theorem nodup_keys_named {counts : List (Verdict × Nat)} (h : (counts.map (·.1)).Nodup) :
    (Keyed.keys (named counts)).Nodup := by
  rw [keys_named]
  exact h.map fun a b ↦ Named.name_injective a b

/-- Counts in the order of the verdicts are found by going through the verdicts. -/
theorem filterMap_named {vs : List Verdict} (hvs : vs.Nodup) {counts : List (Verdict × Nat)}
    (h : (counts.map (·.1)).Sublist vs) :
    vs.filterMap (fun v ↦ (Keyed.find? (Named.name v) (named counts)).map fun n ↦ (v, n)) =
      counts := by
  induction vs generalizing counts with
  | nil =>
    rw [List.map_eq_nil_iff.mp (List.sublist_nil.mp h)]
    rfl
  | cons v vs ih =>
    rw [List.nodup_cons] at hvs
    rcases List.sublist_cons_iff.mp h with h | ⟨rest, hcounts, h⟩
    · have hnone : Keyed.find? (Named.name v) (named counts) = none := by
        rw [Keyed.find?_eq_none_iff, keys_named, List.mem_map]
        rintro ⟨u, hu, hname⟩
        exact hvs.1 (Named.name_injective u v hname ▸ h.subset hu)
      rw [List.filterMap_cons, hnone, Option.map_none, ih hvs.2 h]
    · obtain ⟨⟨u, n⟩, counts, rfl, rfl, rfl⟩ := List.map_eq_cons_iff.mp hcounts
      have hfirst : Keyed.find? (Named.name u) (named ((u, n) :: counts)) = some n := if_pos rfl
      have hothers : ∀ w ∈ vs, ((Keyed.find? (Named.name w) (named ((u, n) :: counts))).map
          fun n ↦ (w, n)) = (Keyed.find? (Named.name w) (named counts)).map fun n ↦ (w, n) := by
        intro w hw
        have hne : Named.name u ≠ Named.name w :=
          fun hname ↦ hvs.1 (Named.name_injective u w hname ▸ hw)
        rw [show Keyed.find? (Named.name w) (named ((u, n) :: counts)) =
          Keyed.find? (Named.name w) (named counts) from if_neg hne]
      rw [List.filterMap_cons, hfirst, Option.map_some, List.filterMap_congr hothers, ih hvs.2 h]

theorem recovers_counts {counts : List (Verdict × Nat)}
    (h : (counts.map (·.1)).Sublist Listed.all) :
    Recovers counts? (.object (counts.map fun c ↦ (Named.name c.1, .ofNat c.2))) counts := by
  have hvs : (Listed.all : List Verdict).Nodup := by decide
  have hnodup := nodup_keys_named (hvs.sublist h)
  have hmembers : Recovers (Leaf.members? Document.natural?)
      (.object (counts.map fun c ↦ (Named.name c.1, .ofNat c.2)))
      (Keyed.ofList (named counts)) := by
    have hread := Leaf.recovers_members (w := Json.ofNat) hnodup
      fun e _ ↦ Document.recovers_natural e.2
    rwa [named, List.map_map] at hread
  have hnames : ((Keyed.ofList (named counts)).all
      fun m ↦ (Named.ofName? (α := Verdict) m.1).isSome) = true := by
    refine List.all_eq_true.mpr fun m hm ↦ ?_
    obtain ⟨c, -, rfl⟩ := List.mem_map.mp (Keyed.mem_of_mem_ofList hm)
    rw [Named.ofName?_name]
    rfl
  intro j hsame
  rw [counts?, hmembers j hsame, Option.bind_eq_bind, Option.bind_some, if_pos hnames]
  simp only [Keyed.find?_ofList hnodup, filterMap_named hvs h]
  rfl

/-- **A report is read back** from every value that differs from its own in the order of members
only. -/
theorem Fits.recovers {r : Report} (h : r.Fits) :
    Recovers (readWith? Trie.read?) r.json r := by
  intro j hsame
  have hnames : (Keyed.keys r.members).Sublist names := .refl names
  obtain ⟨f, hf, hgive⟩ := Document.exists_fields_of_same hnames (by decide) hsame
  obtain ⟨version, hversion, hversion'⟩ := hgive.required (k := "version") rfl
    (Document.recovers_natural r.version)
  obtain ⟨interrupted, hinterrupted, hinterrupted'⟩ := hgive.required (k := "interrupted") rfl
    (Document.recovers_boolean r.interrupted)
  obtain ⟨delimiter, hdelimiter, hdelimiter'⟩ := hgive.required (k := "path_delimiter") rfl
    (Document.recovers_text r.pathDelimiter)
  obtain ⟨seconds, hseconds, hseconds'⟩ := hgive.required (k := "seconds_since_epoch") rfl
    (Document.recovers_signed h.seconds)
  obtain ⟨dir, hdir, hdir'⟩ := hgive.required (k := "layout_tests_dir") rfl
    (Document.recovers_text r.layoutTestsDir)
  obtain ⟨counts, hcounts, hcounts'⟩ := hgive.required (k := "num_failures_by_type") rfl
    (recovers_counts h.counts)
  obtain ⟨passes, hpasses, hpasses'⟩ := hgive.required (k := "num_passes") rfl
    (Document.recovers_natural r.passes)
  obtain ⟨regressions, hregressions, hregressions'⟩ := hgive.required (k := "num_regressions") rfl
    (Document.recovers_natural r.regressions)
  obtain ⟨skipped, hskipped, hskipped'⟩ := hgive.required (k := "skipped") rfl
    (Document.recovers_natural r.skipped)
  obtain ⟨tests, htests, htests'⟩ := hgive.required (k := "tests") rfl h.tests.recovers
  obtain ⟨flag, hflag, hflag'⟩ := hgive.nullable (k := "flag_name") rfl
    (Document.recovers_textOrNull r.flagName)
  have hversion32 : ¬ Width.limit32 ≤ r.version := Nat.not_le.mpr h.version
  have hnatural {name : String} {d : Document} {n : Nat} (hd : f.required? name = some d)
      (hn : d.natural? = some n) : (f.required? name >>= Document.natural?) = some n :=
    (bind_of_eq_some hd _).trans hn
  unfold readWith?
  refine (bind_of_eq_some hf _).trans <| (bind_of_eq_some (hnatural hversion hversion') _).trans ?_
  rw [if_neg hversion32]
  exact (bind_of_eq_some hinterrupted _).trans <| (bind_of_eq_some hinterrupted' _).trans <|
    (bind_of_eq_some hdelimiter _).trans <| (bind_of_eq_some hdelimiter' _).trans <|
    (bind_of_eq_some hseconds _).trans <| (bind_of_eq_some hseconds' _).trans <|
    (bind_of_eq_some hdir _).trans <| (bind_of_eq_some hdir' _).trans <|
    (bind_of_eq_some hflag _).trans <| (bind_of_eq_some hflag' _).trans <|
    (bind_of_eq_some hcounts _).trans <| (bind_of_eq_some hcounts' _).trans <|
    (bind_of_eq_some (hnatural hpasses hpasses') _).trans <|
    (bind_of_eq_some (hnatural hregressions hregressions') _).trans <|
    (bind_of_eq_some (hnatural hskipped hskipped') _).trans <|
    (bind_of_eq_some htests _).trans <| bind_of_eq_some htests' _

/-- **Reports are read back.** What is read from the value of a report is that report, and so it
is if members of objects in the value change places: leaves and directories are told apart, and
what was left out has its value again. -/
theorem reads_back (r : Report) (h : r.Fits) :
    ofJson? r.json = some r ∧ ∀ j, r.json.Same j → ofJson? j = some r :=
  ⟨h.recovers _ (Same.refl _), fun j hsame ↦ h.recovers j hsame⟩

/-- A leaf with as little in it as there can be. -/
def bareLeaf : Leaf := { expected := "PASS", actual := "" }

/-- A leaf with more in it. -/
def fullLeaf : Leaf where
  expected := "PASS"
  actual := "FAIL PASS"
  shard := some 1
  isFlaky := true
  imageStats := some ⟨255, 7⟩
  artifacts := [("crash_log", []), ("stderr", ["b", "a"])]

/-- A trie with directories and leaves under the names of fields of a leaf. -/
def oddTrie : Trie where
  children := [
    ("actual", .directory []),
    ("expected", .directory [("actual", .leaf bareLeaf), ("expected", .leaf fullLeaf)])]

/-- A report on it. -/
def oddReport : Report where
  version := currentVersion
  interrupted := true
  pathDelimiter := "/"
  secondsSinceEpoch := -1
  layoutTestsDir := ""
  flagName := none
  counts := [(.pass, 0), (.crash, 2)]
  passes := 1
  regressions := 0
  skipped := 0
  tests := oddTrie

theorem reads_back_sample : oddReport.Fits ∧ ofJson? oddReport.json = some oddReport := by
  have hleaves : ∀ c ∈ [("actual", Trie.Node.leaf bareLeaf), ("expected", .leaf fullLeaf)],
      c.2.Fits := by
    refine List.forall_mem_cons.mpr ⟨.leaf ⟨nofun, .nil⟩, List.forall_mem_singleton.mpr ?_⟩
    exact .leaf ⟨by decide, show List.Pairwise _ _ by decide⟩
  have htests : oddTrie.Fits := by
    refine ⟨show List.Pairwise _ _ by decide, ?_⟩
    refine List.forall_mem_cons.mpr ⟨.directory .nil nofun, List.forall_mem_singleton.mpr ?_⟩
    exact .directory (show List.Pairwise _ _ by decide) hleaves
  have hfits : oddReport.Fits := ⟨by decide, by decide, by decide, htests⟩
  exact ⟨hfits, (reads_back oddReport hfits).1⟩

end Report

end WebTestRun
