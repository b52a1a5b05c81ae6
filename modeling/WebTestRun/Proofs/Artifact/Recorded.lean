import WebTestRun.Proofs.Artifact.Place
import WebTestRun.Proofs.File.Resolved

/-!
# Recorded paths lead to files

An attempt creates artifacts one after the other, and some of them may not be written. What it
records are the paths of those that were, and each of their files holds what was written there last.
A recorded path starts with the name of the directory of artifacts, below the parent of that
directory. This leads to the file, unless the directory has no name: `..` at its end, or the root.

* `Creation`, `Made` — a call that creates an artifact, and what an attempt has made.
* `Store.makeOne`, `Store.make` — one call, and one after the other.
* `Made.Sound` — what is recorded and what the files hold: `Made.Sound.makeOne`,
  `Store.make_sound`.
* `Store.place_recorded` — a recorded path leads to the place of its file.
* `Store.recorded_leads_to_file` — when a recorded path leads to its file.
-/

set_option autoImplicit false

namespace WebTestRun.Artifact

open WebTestRun.Path (resolved)

/-- A call that creates an artifact. -/
structure Creation where
  /-- What it is recorded under. -/
  id : String
  /-- Its path below the directory of artifacts, or of the retry. -/
  subpath : String
  /-- What it holds. -/
  contents : ByteArray

/-- What an attempt has made so far. -/
structure Made where
  /-- The files. -/
  files : FileTree
  /-- The recorded paths. -/
  recorded : Map := {}
  /-- The calls that wrote their file, in order. -/
  written : List Creation := []

namespace Store

/-- One artifact more, if it can be written. -/
def makeOne (s : Store) (iteration : Nat) (m : Made) (c : Creation) : Made :=
  match s.create iteration m.files m.recorded c.id c.subpath c.contents with
  | (files, .ok recorded) => ⟨files, recorded, m.written ++ [c]⟩
  | (files, .error _) => { m with files }

/-- The artifacts of an attempt, one after the other. -/
def make (s : Store) (iteration : Nat) (files : FileTree) (calls : List Creation) : Made :=
  calls.foldl (s.makeOne iteration) { files }

/-! ## One call -/

/-- What one call does: it records its file and counts if it could write it, and else it leaves no
more than directories. -/
theorem makeOne_cases (s : Store) (iteration : Nat) (m : Made) (c : Creation) :
    ((writeFile m.files (s.file iteration c.subpath) c.contents).2.isOk = true ∧
      s.makeOne iteration m c =
        ⟨(writeFile m.files (s.file iteration c.subpath) c.contents).1,
          m.recorded.add c.id (s.recorded iteration c.subpath), m.written ++ [c]⟩) ∨
    (m.files.AddsDirectories (s.makeOne iteration m c).files ∧
      (s.makeOne iteration m c).recorded = m.recorded ∧
      (s.makeOne iteration m c).written = m.written) := by
  obtain ⟨between, hadds, hspec⟩ :=
    writeFile_spec m.files (s.file iteration c.subpath) c.contents
  unfold makeOne create
  unfold file at hspec ⊢
  generalize writeFile m.files (Path.join s.dir (relative iteration c.subpath)) c.contents =
    written at hspec ⊢
  obtain ⟨files, answer⟩ := written
  cases answer with
  | ok u => exact .inl ⟨rfl, rfl⟩
  | error e =>
    dsimp only [Except.map]
    rcases hspec with ⟨-, hfiles⟩ | ⟨hok, -⟩
    · obtain rfl : files = between := hfiles
      exact .inr ⟨hadds, rfl, rfl⟩
    · cases hok

end Store

/-! ## What is recorded and what the files hold -/

/-- The files of two calls are at one place, seen from a working directory. -/
def Store.SamePlace (s : Store) (here : List String) (iteration : Nat) (c c' : Creation) : Prop :=
  Path.place here (s.file iteration c.subpath) = Path.place here (s.file iteration c'.subpath)

theorem Store.SamePlace.refl {s : Store} {here : List String} {iteration : Nat} (c : Creation) :
    s.SamePlace here iteration c c := rfl

/-- What is recorded are the calls that wrote their file, and each of their files holds what was
written at its place last. -/
structure Made.Sound (s : Store) (iteration : Nat) (m : Made) : Prop where
  recorded (id path : String) : path ∈ m.recorded.paths id ↔
    ∃ c ∈ m.written, c.id = id ∧ path = s.recorded iteration c.subpath
  holds (c : Creation) (hc : c ∈ m.written) : ∃ before last after,
    m.written = before ++ last :: after ∧ s.SamePlace m.files.here iteration last c ∧
      (∀ c' ∈ after, ¬s.SamePlace m.files.here iteration c' c) ∧
        m.files.read (s.file iteration c.subpath) = .ok last.contents

variable {s : Store} {iteration : Nat} {m : Made}

/-- **One call keeps the record and the files in step**, whether or not it can write its file. -/
theorem Made.Sound.makeOne (h : m.Sound s iteration) (c : Creation) :
    (s.makeOne iteration m c).Sound s iteration := by
  rcases s.makeOne_cases iteration m c with ⟨hok, hmade⟩ | ⟨hadds, hrecorded, hwritten⟩
  · have hnew := read_writeFile hok
    rw [hmade]
    refine ⟨fun id path ↦ ?_, fun c' hc' ↦ ?_⟩
    · rw [Extraction.mem_paths_add, h.recorded]
      simp only [List.mem_append, List.mem_singleton, or_and_right, exists_or, exists_eq_left]
    · dsimp only at hc' ⊢
      rcases List.mem_append.mp hc' with hold | hself
      · obtain ⟨before, last, after, hsplit, hlast, hafter, hread⟩ := h.holds c' hold
        rw [read_writeFile_eq hread, writeFile_here]
        by_cases hplace : s.SamePlace m.files.here iteration c c'
        · refine ⟨m.written, c, [], rfl, hplace, by simp, ?_⟩
          rw [if_pos ⟨hok, Eq.symm hplace⟩]
        · refine ⟨before, last, after ++ [c], by rw [hsplit]; simp, hlast, ?_, ?_⟩
          · exact List.forall_mem_append.mpr ⟨hafter, List.forall_mem_singleton.mpr hplace⟩
          · rw [if_neg fun hsame ↦ hplace hsame.2.symm]
      · obtain rfl := List.mem_singleton.mp hself
        exact ⟨m.written, c', [], rfl, .refl c', by simp, hnew⟩
  · refine ⟨fun id path ↦ ?_, fun c' hc' ↦ ?_⟩
    · rw [hrecorded, hwritten, h.recorded]
    · rw [hwritten] at hc' ⊢
      rw [hadds.here]
      obtain ⟨before, last, after, hsplit, hlast, hafter, hread⟩ := h.holds c' hc'
      exact ⟨before, last, after, hsplit, hlast, hafter, hadds.read hread⟩

/-- **All calls of an attempt keep the record and the files in step.** -/
theorem Store.make_sound (s : Store) (iteration : Nat) (files : FileTree)
    (calls : List Creation) : (s.make iteration files calls).Sound s iteration := by
  have hrun {m : Made} (h : m.Sound s iteration) :
      (calls.foldl (s.makeOne iteration) m).Sound s iteration := by
    induction calls generalizing m with
    | nil => exact h
    | cons c calls ih =>
      rw [List.foldl_cons]
      exact ih (h.makeOne c)
  refine hrun ⟨fun id path ↦ ?_, fun c hc ↦ ?_⟩
  · exact ⟨fun hpath ↦ (List.not_mem_nil hpath).elim, fun ⟨c, hc, _⟩ ↦ (List.not_mem_nil hc).elim⟩
  · cases hc

/-- The calls that write their file are among all. -/
theorem Store.written_make (s : Store) (iteration : Nat) (files : FileTree)
    (calls : List Creation) : (s.make iteration files calls).written.Sublist calls := by
  have hrun (m : Made) : ∃ more, more.Sublist calls ∧
      (calls.foldl (s.makeOne iteration) m).written = m.written ++ more := by
    induction calls generalizing m with
    | nil => exact ⟨[], .refl _, by simp⟩
    | cons c calls ih =>
      obtain ⟨more, hmore, hwritten⟩ := ih (s.makeOne iteration m c)
      rw [List.foldl_cons, hwritten]
      rcases s.makeOne_cases iteration m c with ⟨-, hmade⟩ | ⟨-, -, hsame⟩
      · exact ⟨c :: more, hmore.cons_cons c, by rw [hmade]; simp⟩
      · exact ⟨more, hmore.cons c, by rw [hsame]⟩
  obtain ⟨more, hmore, hwritten⟩ := hrun { files }
  rw [make, hwritten]
  exact hmore

/-! ## Where recorded paths lead -/

variable {subpath : String}

/-- **A recorded path leads to its file** from the parent of the directory of artifacts. -/
theorem Store.resolved_recorded (h : Path.isAbsolute subpath = false) (hup : ¬Path.EndsUp s.dir)
    (hroot : ¬Path.IsRoot s.dir) :
    resolved (Path.join s.outputRoot (s.recorded iteration subpath)) =
      resolved (s.file iteration subpath) :=
  Path.resolved_join_parent (isAbsolute_relative h iteration) hup hroot

/-- So the recorded path leads to the place of its file, whatever the working directory. -/
theorem Store.place_recorded (here : List String) (h : Path.isAbsolute subpath = false)
    (hup : ¬Path.EndsUp s.dir) (hroot : ¬Path.IsRoot s.dir) :
    Path.place here (Path.join s.outputRoot (s.recorded iteration subpath)) =
      Path.place here (s.file iteration subpath) :=
  Path.place_eq_of_resolved (Store.resolved_recorded h hup hroot) here

/-- **A recorded path leads elsewhere** if the directory of artifacts has no name. -/
theorem Store.resolved_recorded_ne (h : Path.isAbsolute subpath = false)
    (hdir : Path.IsRoot s.dir ∨ Path.EndsUp s.dir ∧ Path.isAbsolute s.dir = false) :
    resolved (Path.join s.outputRoot (s.recorded iteration subpath)) ≠
      resolved (s.file iteration subpath) :=
  Path.resolved_join_parent_ne (isAbsolute_relative h iteration) hdir

/-- **What an attempt records of its artifacts leads to their files**, whatever calls create them
and whichever of these can write. A path is recorded under an identifier exactly if a call with that
identifier wrote its file, and the file holds what was written at its place last. From the parent of
the directory of artifacts the recorded path leads to the file, unless the directory is the root or
its path ends with two dots. There it leads elsewhere, if the directory is the root or is told from
the working directory. -/
theorem Store.recorded_leads_to_file (s : Store) (iteration : Nat) (files : FileTree)
    (calls : List Creation) (hcalls : ∀ c ∈ calls, Path.isAbsolute c.subpath = false) :
    let made := s.make iteration files calls
    made.written.Sublist calls ∧ made.Sound s iteration ∧
      (¬Path.EndsUp s.dir → ¬Path.IsRoot s.dir → ∀ c ∈ calls,
        resolved (Path.join s.outputRoot (s.recorded iteration c.subpath)) =
          resolved (s.file iteration c.subpath)) ∧
      (Path.IsRoot s.dir ∨ Path.EndsUp s.dir ∧ Path.isAbsolute s.dir = false → ∀ c ∈ calls,
        resolved (Path.join s.outputRoot (s.recorded iteration c.subpath)) ≠
          resolved (s.file iteration c.subpath)) := by
  refine ⟨s.written_make iteration files calls, s.make_sound iteration files calls, ?_, ?_⟩
  · exact fun hup hroot c hc ↦ Store.resolved_recorded (hcalls c hc) hup hroot
  · exact fun hdir c hc ↦ Store.resolved_recorded_ne (hcalls c hc) hdir

/-- The log of a retry. Nothing can be written below it, and so nothing more is recorded. -/
def sampleCalls : List Creation :=
  [⟨"stderr", "b-stderr.txt", "x".toUTF8⟩, ⟨"stderr", "b-stderr.txt/c", "y".toUTF8⟩]

theorem Store.recorded_leads_to_file_sample :
    let s : Store := ⟨"o/./a/"⟩
    (∀ c ∈ sampleCalls, Path.isAbsolute c.subpath = false) ∧ s.outputRoot = "o" ∧
      (s.make 1 {} sampleCalls).recorded.entries = [("stderr", ["a/retry_1/b-stderr.txt"])] ∧
      (s.make 1 {} sampleCalls).Sound s 1 ∧
      ∀ c ∈ sampleCalls, resolved (Path.join s.outputRoot (s.recorded 1 c.subpath)) =
        resolved (s.file 1 c.subpath) := by
  intro s
  have hcalls : ∀ c ∈ sampleCalls, Path.isAbsolute c.subpath = false := by decide +kernel
  obtain ⟨-, hsound, hleads, -⟩ := recorded_leads_to_file s 1 {} sampleCalls hcalls
  exact ⟨hcalls, by decide +kernel, by decide +kernel, hsound,
    hleads (by decide +kernel) (by decide +kernel)⟩

/-- In the directory above `o` an artifact is recorded as if it was in `o`. -/
theorem Store.exists_recorded_elsewhere :
    ¬∀ (s : Store) (iteration : Nat) (files : FileTree) (calls : List Creation),
      (∀ c ∈ calls, Path.isAbsolute c.subpath = false) →
        ∀ c ∈ (s.make iteration files calls).written,
          resolved (Path.join s.outputRoot (s.recorded iteration c.subpath)) =
            resolved (s.file iteration c.subpath) := by
  intro h
  let s : Store := ⟨"o/.."⟩
  let c : Creation := ⟨"stderr", "a.txt", "x".toUTF8⟩
  have hwritten : (s.make 0 {} [c]).written = [c] :=
    (s.written_make 0 {} [c]).eq_of_length (by decide +kernel)
  have hmem : c ∈ (s.make 0 {} [c]).written := by
    rw [hwritten]
    exact List.mem_singleton_self c
  have hpath := h s 0 {} [c] (by decide +kernel) c hmem
  revert hpath
  decide +kernel

end WebTestRun.Artifact
