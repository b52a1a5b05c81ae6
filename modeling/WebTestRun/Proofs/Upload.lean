import Mathlib.Data.List.Nodup
import WebTestRun.Proofs.Artifact.Merge
import WebTestRun.Proofs.Artifact.Written
import WebTestRun.Proofs.Decimal.Digits
import WebTestRun.Upload

/-!
# Artifacts in records

The record of an attempt holds a file for each path that was recorded, under a key of its own. The
key is the kind of the artifact, from the second path on with a number after a hyphen. No kind of
artifact has a hyphen, so no two paths share a key, and none takes the place of another.

* `Extraction.Leaves` — what an attempt may leave, and `extract_leaves` that it does.
* `Upload.key_inj` — a key tells the kind and the number.
* `Upload.nodup_keyedPaths` — no key comes twice.
* `Upload.ofAttempt_artifacts` — the record of an attempt holds all of its files.
-/

set_option autoImplicit false

namespace WebTestRun

namespace Extraction

/-! ## What an attempt leaves -/

variable (x : Extraction) (iteration : Nat)

/-- Recorded artifacts of some kinds. -/
structure Leaves (among : List FileKind) (m : Artifact.Map) : Prop where
  /-- They came one by one. -/
  built : m.Built
  /-- They are of these kinds. -/
  kind {id : String} (h : id ∈ m.ids) : ∃ k ∈ among, k.id = id

variable {among : List FileKind} {test : String}

theorem Leaves.add {m : Artifact.Map} (h : Leaves among m) {k : FileKind} (hk : k ∈ among)
    (path : String) : Leaves among (m.add k.id path) where
  built := h.built.add k.id path
  kind {id} hid := by
    have hget : (Artifact.Map.get? (m.add k.id path) id).isSome := Keyed.mem_keys_iff.mp hid
    rw [Artifact.Map.get?_add] at hget
    split at hget
    · rename_i heq
      exact ⟨k, hk, heq⟩
    · exact h.kind (Keyed.mem_keys_iff.mpr hget)

theorem create_leaves {w : Writing} (h : Leaves among w.recorded) {k : FileKind} (hk : k ∈ among)
    (subpath : String) (contents : ByteArray) :
    Leaves among (x.create iteration k.id subpath contents w).recorded := by
  unfold create Artifact.Store.create
  dsimp only
  generalize Artifact.writeFile _ _ _ = written
  obtain ⟨files, answer⟩ := written
  cases answer with
  | ok u => exact h.add hk _
  | error e => exact h

theorem perform_leaves {w : Writing} (h : Leaves among w.recorded) {s : Write}
    (hs : s.Fits among test) : Leaves among (x.perform iteration w s).recorded := by
  cases s with
  | artifact id subpath contents =>
    obtain ⟨k, hk, rfl, -⟩ := hs
    exact x.create_leaves iteration h hk subpath contents
  | baseline other subpath text =>
    rw [perform, reset_recorded]
    exact h
  | note log => exact h

theorem performAll_leaves {w : Writing} (h : Leaves among w.recorded) {steps : List Write}
    (hsteps : AllFit among test steps) :
    Leaves among (x.performAll iteration w steps).recorded := by
  induction steps generalizing w with
  | nil => exact h
  | cons s steps ih =>
    obtain ⟨hs, hsteps⟩ := List.forall_mem_cons.mp hsteps
    exact ih (x.perform_leaves iteration h hs) hsteps

/-- **An attempt leaves artifacts of the kinds that there are**, whether or not each could be
written. -/
theorem extract_leaves {x : Extraction} {files : FileTree} {iteration : Nat} {a : Attempt}
    {screenshots : List Screenshot} {crashLog : List String} {r : Attempt × Writing}
    (h : x.extract files iteration a screenshots crashLog = .ok r) :
    Leaves kinds r.1.artifacts := by
  obtain ⟨steps, stats, hplan, hleft⟩ := exists_plan_of_extract h
  rw [hleft]
  exact x.performAll_leaves iteration ⟨.empty, fun h ↦ absurd h List.not_mem_nil⟩
    (x.plan_fits iteration a screenshots crashLog _ hplan)

theorem hyphen_notMem_kinds : ∀ k ∈ kinds, '-' ∉ k.id.toList := by
  decide

end Extraction

namespace Upload

open Artifact (Map)

/-! ## Keys -/

theorem toList_key (id : String) {n : Nat} (h : n ≠ 0) :
    (key id n).toList = id.toList ++ '-' :: Nat.toDigits 10 n := by
  have hnumber : (toString n).toList = Nat.toDigits 10 n := Nat.toList_repr
  rw [key, if_neg h, String.toList_append, String.toList_append, hnumber, List.append_assoc]
  rfl

/-- **A key tells the kind and the number**, if no kind has a hyphen. -/
theorem key_inj {id id' : String} {n n' : Nat} (hid : '-' ∉ id.toList) (hid' : '-' ∉ id'.toList) :
    key id n = key id' n' ↔ id = id' ∧ n = n' := by
  refine ⟨fun h ↦ ?_, by rintro ⟨rfl, rfl⟩; rfl⟩
  have hlist := congrArg String.toList h
  rcases eq_or_ne n 0 with rfl | hn <;> rcases eq_or_ne n' 0 with rfl | hn'
  · exact ⟨h, rfl⟩
  · rw [toList_key id' hn'] at hlist
    exact absurd (hlist ▸ List.mem_append_right _ List.mem_cons_self) hid
  · rw [toList_key id hn] at hlist
    exact absurd (hlist ▸ List.mem_append_right _ List.mem_cons_self) hid'
  · rw [toList_key id hn, toList_key id' hn',
      List.append_cons_inj_of_notMem hid (Decimal.notMem_toDigits (by decide) n)] at hlist
    exact ⟨String.toList_inj.mp hlist.1, Decimal.toDigits_injective hlist.2.2⟩

/-! ## Recorded paths -/

variable {m : Map}

theorem mem_keyedPaths {e : String × String} (hm : m.Sound) :
    e ∈ keyedPaths m ↔ ∃ id n path, (m.paths id)[n]? = some path ∧ e = (key id n, path) := by
  simp only [keyedPaths, List.mem_flatMap, List.mem_map]
  constructor
  · rintro ⟨⟨id, paths⟩, hentry, ⟨path, n⟩, hpath, rfl⟩
    have hpaths : m.paths id = paths := by
      rw [Map.paths, Map.get?, Keyed.find?_eq_some_of_mem hm.ordered.nodup hentry, Option.getD_some]
    exact ⟨id, n, path, hpaths ▸ List.mem_zipIdx_iff_getElem?.mp hpath, rfl⟩
  · rintro ⟨id, n, path, hpath, rfl⟩
    cases hget : m.get? id with
    | none =>
      rw [Map.paths, hget] at hpath
      cases hpath
    | some paths =>
      rw [Map.paths, hget] at hpath
      exact ⟨(id, paths), Keyed.mem_of_find? hget, (path, n),
        List.mem_zipIdx_iff_getElem?.mpr hpath, rfl⟩

theorem length_keyedPaths (m : Map) :
    (keyedPaths m).length = (m.entries.flatMap (·.2)).length := by
  simp only [keyedPaths, List.length_flatMap, List.length_map, List.length_zipIdx]

/-- **No key comes twice.** -/
theorem nodup_keyedPaths (hm : m.Sound) (hids : ∀ id ∈ m.ids, '-' ∉ id.toList) :
    (Keyed.keys (keyedPaths m)).Nodup := by
  have hkeys : Keyed.keys (keyedPaths m) =
      m.entries.flatMap fun e ↦ (List.range e.2.length).map (key e.1) := by
    rw [Keyed.keys, keyedPaths, List.map_flatMap]
    refine List.flatMap_congr fun e _ ↦ ?_
    rw [List.range_eq_range', ← List.zipIdx_map_snd, List.map_map, List.map_map]
    rfl
  have hkind {e : String × List String} (he : e ∈ m.entries) : '-' ∉ e.1.toList :=
    hids e.1 (List.mem_map_of_mem he)
  rw [hkeys, List.nodup_flatMap]
  constructor
  · intro e he
    refine (List.nodup_map_iff_inj_on List.nodup_range).mpr fun n _ n' _ h ↦ ?_
    exact ((key_inj (hkind he) (hkind he)).mp h).2
  · have hdistinct : m.entries.Pairwise fun e e' ↦ e.1 ≠ e'.1 :=
      List.pairwise_map.mp hm.ordered.nodup
    refine hdistinct.imp_of_mem fun he he' hne k hk hk' ↦ hne ?_
    obtain ⟨n, -, rfl⟩ := List.mem_map.mp hk
    obtain ⟨n', -, heq⟩ := List.mem_map.mp hk'
    exact ((key_inj (hkind he') (hkind he)).mp heq).1.symm

/-! ## Records -/

/-- **The record of artifacts holds a file for each recorded path**, under its key, and nothing
else. -/
theorem artifactsRecord_eq (root : String) (hm : m.Sound) (hids : ∀ id ∈ m.ids, '-' ∉ id.toList) :
    ∃ members, artifactsRecord root m = .object members ∧ Keyed.Ordered members ∧
      members.length = (m.entries.flatMap (·.2)).length ∧
      ∀ e, e ∈ members ↔ ∃ id n path, (m.paths id)[n]? = some path ∧
        e = (key id n, fileRecord (Path.join root path)) := by
  set files := (keyedPaths m).map fun p ↦ (p.1, fileRecord (Path.join root p.2)) with hfiles
  have hnodup : (Keyed.keys files).Nodup := by
    rw [hfiles, Keyed.keys_map fun path ↦ fileRecord (Path.join root path)]
    exact nodup_keyedPaths hm hids
  have hperm := Keyed.perm_ofList hnodup
  refine ⟨Keyed.ofList files, rfl, Keyed.ordered_ofList files, ?_, fun e ↦ ?_⟩
  · rw [hperm.length_eq, hfiles, List.length_map, length_keyedPaths]
  · rw [hperm.mem_iff, hfiles, List.mem_map]
    constructor
    · rintro ⟨p, hp, rfl⟩
      obtain ⟨id, n, path, hpath, rfl⟩ := (mem_keyedPaths hm).mp hp
      exact ⟨id, n, path, hpath, rfl⟩
    · rintro ⟨id, n, path, hpath, rfl⟩
      exact ⟨_, (mem_keyedPaths hm).mpr ⟨id, n, path, hpath, rfl⟩, rfl⟩

theorem member?_ofAttempt (namePrefix root : String) (summary : Option String) (a : Attempt) :
    ((ofAttempt namePrefix root summary a).member? "testResult").bind (Json.member? "artifacts") =
      some (artifactsRecord root a.artifacts) := by
  cases summary <;> rfl

/-- **A record drops no artifact.** What an attempt leaves has kinds without hyphens. If there are
no hyphens in the kinds, the artifacts of a record have a key for each path of each kind: the kind,
with the number of the path after a hyphen if it is not the first. All keys are distinct, and under
each of them is an object whose only member is the path from the given directory. There is nothing
else. -/
theorem ofAttempt_artifacts :
    (∀ (x : Extraction) (files : FileTree) (iteration : Nat) (a : Attempt)
      (screenshots : List Screenshot) (crashLog : List String) (r : Attempt × Extraction.Writing),
      x.extract files iteration a screenshots crashLog = .ok r →
        r.1.artifacts.Built ∧ ∀ id ∈ r.1.artifacts.ids, '-' ∉ id.toList) ∧
    ∀ (namePrefix root : String) (summary : Option String) (a : Attempt),
      a.artifacts.Built → (∀ id ∈ a.artifacts.ids, '-' ∉ id.toList) →
        let numbered (id : String) (n : Nat) := if n = 0 then id else id ++ "-" ++ toString n
        (∀ id ∈ a.artifacts.ids, ∀ id' ∈ a.artifacts.ids, ∀ n n',
          numbered id n = numbered id' n' → id = id' ∧ n = n') ∧
        ∃ members,
          ((ofAttempt namePrefix root summary a).member? "testResult").bind
            (Json.member? "artifacts") = some (.object members) ∧
          (Keyed.keys members).Nodup ∧
          members.length = (a.artifacts.entries.flatMap (·.2)).length ∧
          ∀ e, e ∈ members ↔ ∃ id n path, (a.artifacts.paths id)[n]? = some path ∧
            e = (numbered id n, .object [("filePath", .string (Path.join root path))]) := by
  constructor
  · intro x files iteration a screenshots crashLog r h
    have hleaves := Extraction.extract_leaves h
    refine ⟨hleaves.built, fun id hid ↦ ?_⟩
    obtain ⟨k, hk, rfl⟩ := hleaves.kind hid
    exact Extraction.hyphen_notMem_kinds k hk
  · intro namePrefix root summary a hbuilt hids numbered
    refine ⟨fun id hid id' hid' n n' h ↦ (key_inj (hids id hid) (hids id' hid')).mp h, ?_⟩
    obtain ⟨members, hmembers, hordered, hlength, hmem⟩ :=
      artifactsRecord_eq root hbuilt.sound hids
    refine ⟨members, ?_, hordered.nodup, hlength, hmem⟩
    rw [member?_ofAttempt, hmembers]

/-- An attempt with two crash logs and a log. -/
def logged : Attempt where
  name := "external/wpt/dom/a.html"
  kind := .testharness
  filePath := "external/wpt/dom/a.html"
  started := 1000
  expected := .ofList [.pass]
  baselineText := none
  verdict := .timeout
  took := 1500
  outcomes := {}
  messages := []
  hasStderr := true
  artifacts := ((({} : Map).add "crash_log" "r/a-crash-log.txt").add "stderr" "r/a-stderr.txt").add
    "crash_log" "r/retry_1/a-crash-log.txt"

theorem ofAttempt_artifacts_logged : ∃ members,
    ((ofAttempt "" "/out" none logged).member? "testResult").bind (Json.member? "artifacts") =
      some (.object members) ∧
    members.length = 3 ∧
    ("crash_log-1", .object [("filePath", .string "/out/r/retry_1/a-crash-log.txt")]) ∈
      members := by
  have hbuilt : logged.artifacts.Built := ((Map.Built.empty.add _ _).add _ _).add _ _
  have hids : ∀ id ∈ logged.artifacts.ids, '-' ∉ id.toList := by decide +kernel
  obtain ⟨-, members, hmembers, -, hlength, hmem⟩ :=
    ofAttempt_artifacts.2 "" "/out" none logged hbuilt hids
  refine ⟨members, hmembers, ?_, (hmem _).mpr ?_⟩
  · rw [hlength]
    decide +kernel
  · have hjoin : Path.join "/out" "r/retry_1/a-crash-log.txt" =
        "/out/r/retry_1/a-crash-log.txt" := by decide +kernel
    exact ⟨"crash_log", 1, "r/retry_1/a-crash-log.txt", by decide +kernel, by rw [hjoin]; rfl⟩

end Upload

end WebTestRun
