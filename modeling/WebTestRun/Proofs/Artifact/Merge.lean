import Mathlib.Data.List.Induction
import WebTestRun.Artifact.Map
import WebTestRun.Proofs.Collection.Keyed

/-!
# Records of artifacts put together

However paths are recorded and records are merged, a record lists some paths under each kind, none
of them twice. It is known by these lists, so what holds of merged records is a matter of lists: the
paths of one come first, and those of the other that it lacks come after them.

* `extended` — a list with the paths of another that it lacks, and `extended_assoc`.
* `Map.Built` — the records that there can be, `Map.Sound` — what holds of their lists.
* `Map.Sound.ext` — records with the same lists are equal.
* `Map.Sound.paths_merge` — the lists of merged records.
* `Map.merge_laws` — all of it.
-/

set_option autoImplicit false

namespace WebTestRun.Artifact

/-! ## Lists of paths -/

/-- The paths of a list, and after them those of another that it lacks. -/
def extended (old more : List String) : List String := old ++ more.filter fun p ↦ p ∉ old

section Extended

variable {old more : List String}

@[simp] theorem extended_nil (old : List String) : extended old [] = old := List.append_nil old

@[simp] theorem nil_extended (more : List String) : extended [] more = more := by
  simp [extended]

theorem mem_extended {p : String} : p ∈ extended old more ↔ p ∈ old ∨ p ∈ more := by
  rw [extended, List.mem_append, List.mem_filter, decide_eq_true_iff]
  tauto

theorem extended_of_subset (h : more ⊆ old) : extended old more = old := by
  have hnone : (more.filter fun p ↦ p ∉ old) = [] :=
    List.filter_eq_nil_iff.mpr fun p hp ↦ by simpa using h hp
  rw [extended, hnone, List.append_nil]

theorem extended_assoc (old more most : List String) :
    extended (extended old more) most = extended old (extended more most) := by
  have hlacks (p : String) : decide (p ∉ extended old more) =
      (decide (p ∉ old) && decide (p ∉ more)) := by
    rw [Bool.eq_iff_iff, Bool.and_eq_true, decide_eq_true_iff, decide_eq_true_iff,
      decide_eq_true_iff, mem_extended, not_or]
  calc extended (extended old more) most
      = old ++ ((more.filter fun p ↦ p ∉ old) ++
          most.filter fun p ↦ p ∉ extended old more) := List.append_assoc _ _ _
    _ = old ++ ((more.filter fun p ↦ p ∉ old) ++
          (most.filter fun p ↦ p ∉ more).filter fun p ↦ p ∉ old) := by
        rw [List.filter_filter, List.filter_congr fun p _ ↦ hlacks p]
    _ = extended old (extended more most) := by
        rw [extended, extended, List.filter_append]

/-- One path more is one path more in the end. -/
theorem extended_concat {p : String} (h : p ∉ more) :
    extended old (more ++ [p]) =
      if p ∈ extended old more then extended old more else extended old more ++ [p] := by
  have hmem : p ∈ extended old more ↔ p ∈ old := by
    rw [mem_extended, or_iff_left h]
  have hconcat : extended old (more ++ [p]) =
      extended old more ++ [p].filter fun p ↦ p ∉ old := by
    rw [extended, List.filter_append, ← List.append_assoc, extended]
  rw [hconcat]
  by_cases hold : p ∈ old
  · rw [List.filter_cons_of_neg (by simpa using hold), if_pos (hmem.mpr hold)]
    exact List.append_nil _
  · rw [List.filter_cons_of_pos (by simpa using hold), if_neg (mt hmem.mp hold)]
    rfl

end Extended

namespace Map

/-! ## Records that there can be -/

/-- A record that paths are put into, and other records. -/
inductive Built : Map → Prop where
  | empty : Built {}
  | add {m : Map} (h : Built m) (id path : String) : Built (m.add id path)
  | merge {m other : Map} (h : Built m) (hother : Built other) : Built (m.merge other)

/-- Each kind stands once, in order, with a list of paths that is not empty and holds none
twice. -/
structure Sound (m : Map) : Prop where
  /-- The kinds are in order. -/
  ordered : Keyed.Ordered m.entries
  /-- What is listed under them. -/
  listed {id : String} {paths : List String} (h : m.get? id = some paths) :
    paths ≠ [] ∧ paths.Nodup

variable {m other : Map}

theorem Sound.empty : Sound {} := ⟨.nil, nofun⟩

theorem Sound.nodup_paths (h : m.Sound) (id : String) : (m.paths id).Nodup := by
  rw [paths]
  cases hget : m.get? id with
  | none => exact List.nodup_nil
  | some paths => exact (h.listed hget).2

theorem Sound.add (h : m.Sound) (id path : String) : (m.add id path).Sound where
  ordered := Keyed.ordered_insert _ _ h.ordered
  listed {q paths} hget := by
    rw [get?_add] at hget
    split at hget
    · obtain rfl := Option.some.inj hget
      have hnodup := h.nodup_paths id
      split
      · rename_i hmem
        exact ⟨List.ne_nil_of_mem hmem, hnodup⟩
      · rename_i hnew
        exact ⟨List.concat_ne_nil _ _, Keyed.nodup_concat_iff.mpr ⟨hnew, hnodup⟩⟩
    · exact h.listed hget

theorem Sound.addAll (h : m.Sound) (id : String) (paths : List String) :
    (m.addAll id paths).Sound := by
  induction paths generalizing m with
  | nil => exact h
  | cons path paths ih => exact ih (h.add id path)

theorem Sound.merge (h : m.Sound) (other : Map) : (m.merge other).Sound := by
  rw [Map.merge]
  induction other.entries generalizing m with
  | nil => exact h
  | cons e entries ih => exact ih (h.addAll e.1 e.2)

/-- **Every record that there can be is sound.** -/
theorem Built.sound (h : m.Built) : m.Sound := by
  induction h with
  | empty => exact .empty
  | add _ id path ih => exact ih.add id path
  | merge _ _ ih _ => exact ih.merge _

/-- What is recorded under a kind follows from its paths. -/
theorem Sound.get?_eq (h : m.Sound) (id : String) :
    m.get? id = if m.paths id = [] then none else some (m.paths id) := by
  rw [paths]
  cases hget : m.get? id with
  | none => rfl
  | some paths => rw [Option.getD_some, if_neg (h.listed hget).1]

/-- **Records with the same paths under each kind are equal.** -/
theorem Sound.ext (h : m.Sound) (hother : other.Sound)
    (hpaths : ∀ id, m.paths id = other.paths id) : m = other := by
  have hentries : m.entries = other.entries := by
    refine h.ordered.ext hother.ordered fun id ↦ ?_
    rw [← get?, ← get?, h.get?_eq, hother.get?_eq, hpaths]
  cases m
  cases other
  exact congrArg Map.mk hentries

/-! ## Paths put together -/

theorem paths_addAll (m : Map) (id q : String) {paths : List String} (h : paths.Nodup) :
    (m.addAll id paths).paths q =
      if id = q then extended (m.paths id) paths else m.paths q := by
  induction paths using List.reverseRecOn with
  | nil =>
    rw [extended_nil, addAll, List.foldl_nil]
    split
    · rename_i hid
      rw [hid]
    · rfl
  | append_singleton paths path ih =>
    obtain ⟨hnew, hnodup⟩ := Keyed.nodup_concat_iff.mp h
    have hconcat : m.addAll id (paths ++ [path]) = (m.addAll id paths).add id path :=
      List.foldl_concat _ _ _ _
    rw [hconcat, paths_add]
    by_cases hid : id = q
    · subst hid
      rw [if_pos rfl] at ih ⊢
      rw [ih hnodup, if_pos rfl, extended_concat hnew]
    · rw [if_neg hid, if_neg hid, ih hnodup, if_neg hid]

/-- **Under each kind a merged record lists the paths of the first record, and then those of the
second that the first lacks.** -/
theorem Sound.paths_merge (m : Map) (h : other.Sound) (id : String) :
    (m.merge other).paths id = extended (m.paths id) (other.paths id) := by
  have hentries (entries : List (String × List String)) (hkeys : (Keyed.keys entries).Nodup)
      (hpaths : ∀ e ∈ entries, e.2.Nodup) (m : Map) :
      (entries.foldl (fun m e ↦ m.addAll e.1 e.2) m).paths id =
        extended (m.paths id) ((Keyed.find? id entries).getD []) := by
    induction entries generalizing m with
    | nil => exact (extended_nil _).symm
    | cons e entries ih =>
      obtain ⟨he, hpaths⟩ := List.forall_mem_cons.mp hpaths
      rw [Keyed.keys, List.map_cons, List.nodup_cons] at hkeys
      rw [List.foldl_cons, ih hkeys.2 hpaths, paths_addAll m e.1 id he, Keyed.find?]
      split
      · rename_i hid
        subst hid
        rw [Keyed.find?_eq_none_iff.mpr hkeys.1, Option.getD_none, extended_nil,
          Option.getD_some]
      · rfl
  refine hentries other.entries h.ordered.nodup (fun e he ↦ ?_) m
  exact (h.listed (Keyed.find?_eq_some_of_mem h.ordered.nodup he)).2

/-! ## Laws -/

/-- **Records of artifacts are an idempotent monoid of ordered sets of paths.** -/
theorem merge_laws {a b c : Map} (ha : a.Built) (hb : b.Built) (hc : c.Built) :
    (∀ id paths, a.get? id = some paths → paths ≠ [] ∧ paths.Nodup) ∧
      (∀ id path, path ∈ a.paths id → a.add id path = a) ∧
      (a.merge b).merge c = a.merge (b.merge c) ∧
      a.merge {} = a ∧ merge {} a = a ∧ a.merge a = a ∧
      ∀ id, (a.merge b).paths id = a.paths id ++ (b.paths id).filter fun p ↦ p ∉ a.paths id := by
  have hsound := ha.sound
  refine ⟨fun id paths ↦ hsound.listed, fun id path hpath ↦ ?_, ?_, rfl, ?_, ?_,
    hb.sound.paths_merge a⟩
  · refine (hsound.add id path).ext hsound fun q ↦ ?_
    rw [paths_add, if_pos hpath]
    split
    · rename_i hid
      rw [hid]
    · rfl
  · have hmerged := (hsound.merge b).merge c
    refine hmerged.ext (hsound.merge _) fun id ↦ ?_
    rw [hc.sound.paths_merge, hb.sound.paths_merge, (hb.sound.merge c).paths_merge,
      hc.sound.paths_merge, extended_assoc]
  · refine (Sound.empty.merge a).ext hsound fun id ↦ ?_
    rw [hsound.paths_merge]
    exact nil_extended _
  · refine (hsound.merge a).ext hsound fun id ↦ ?_
    rw [hsound.paths_merge, extended_of_subset (List.Subset.refl _)]

/-- A path of each of two kinds, the same two paths in the other order, and one path more. -/
theorem merge_laws_sample :
    let a : Map := ((({} : Map).add "stderr" "x").add "crash_log" "y").add "stderr" "z"
    let b : Map := (({} : Map).add "stderr" "z").add "stderr" "x"
    let c : Map := ({} : Map).add "stderr" "w"
    a.Built ∧ b.Built ∧ c.Built ∧ a.paths "stderr" = ["x", "z"] ∧
      a.add "stderr" "x" = a ∧ (a.merge b).merge c = a.merge (b.merge c) ∧ a.merge a = a ∧
      (b.merge a).paths "stderr" = ["z", "x"] ++ ["x", "z"].filter fun p ↦ p ∉ ["z", "x"] := by
  intro a b c
  have ha : a.Built := ((Built.empty.add _ _).add _ _).add _ _
  have hb : b.Built := (Built.empty.add _ _).add _ _
  have hc : c.Built := Built.empty.add _ _
  have hmem : "x" ∈ a.paths "stderr" := by decide +kernel
  obtain ⟨-, hadd, hassoc, -, -, hself, -⟩ := merge_laws ha hb hc
  obtain ⟨-, -, -, -, -, -, hpaths⟩ := merge_laws hb ha hc
  exact ⟨ha, hb, hc, by decide +kernel, hadd "stderr" "x" hmem, hassoc, hself, hpaths "stderr"⟩

end Map

end WebTestRun.Artifact
