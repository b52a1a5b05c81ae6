import WebTestRun.Proofs.Artifact.Plan
import WebTestRun.Proofs.File.Tree

/-!
# What the files of an attempt hold

Every step of a plan is about one of a few files that an attempt may leave, each recorded under an
identifier of its own. Once the steps are carried out the files hold what was written into them.

* `Extraction.FileKind`, `kinds` — the files, `Write.Fits` — a step is about one of them, and
  `Write.Leaves` — it resets no baseline.
* `plan_fits` — every step of a plan is.
* `Write.file?` — the file that a step writes, `read_performAll` — what it holds at the end.
* `mem_paths_recordAll` — what is recorded of a plan, `extract_crashLog` — the crash log of an
  attempt.
-/

set_option autoImplicit false

namespace WebTestRun

/-- The path of the file that an artifact is written to. -/
def Artifact.Store.file (s : Artifact.Store) (iteration : Nat) (subpath : String) : String :=
  Path.join s.dir (relative iteration subpath)

namespace Extraction

open Answer (Gives)

variable (x : Extraction) (iteration : Nat)

/-! ## Kinds of files -/

/-- A file that an attempt may leave. -/
structure FileKind where
  /-- What it is recorded as. -/
  id : String
  /-- What its name has after that of the test. -/
  suffix : String
  /-- Its extension. -/
  extension : String
  deriving DecidableEq

/-- The file for the output of crashed browsers. -/
def crashLogKind : FileKind := ⟨"crash_log", "-crash-log", ".txt"⟩

/-- The files that follow from what an attempt did itself. -/
def ownKinds : List FileKind :=
  [⟨"actual_text", "-actual", ".txt"⟩, ⟨"expected_text", "-expected", ".txt"⟩,
   ⟨"text_diff", "-diff", ".txt"⟩, ⟨"pretty_text_diff", "-pretty-diff", ".html"⟩,
   ⟨"actual_image", "-actual", ".png"⟩, ⟨"expected_image", "-expected", ".png"⟩,
   ⟨"image_diff", "-diff", ".png"⟩, ⟨"stderr", "-stderr", ".txt"⟩]

/-- All files that an attempt may leave. -/
def kinds : List FileKind := ownKinds ++ [crashLogKind]

/-- The path of a file of a test. -/
def FileKind.path (k : FileKind) (test : String) : Except TestName.Unnameable String :=
  TestName.outputPath test k.suffix k.extension

/-- All of some steps have a property. -/
def Every (P : Write → Prop) (steps : List Write) : Prop := ∀ s ∈ steps, P s

theorem Every.nil {P : Write → Prop} : Every P [] := List.forall_mem_nil P

theorem Every.singleton {P : Write → Prop} {s : Write} (h : P s) : Every P [s] :=
  List.forall_mem_singleton.mpr h

theorem Every.append {P : Write → Prop} {steps more : List Write} (h : Every P steps)
    (hmore : Every P more) : Every P (steps ++ more) :=
  List.forall_mem_append.mpr ⟨h, hmore⟩

theorem Every.imp {P Q : Write → Prop} {steps : List Write} (h : Every P steps)
    (himp : ∀ s, P s → Q s) : Every Q steps := fun s hs ↦ himp s (h s hs)

/-- A step that writes a file writes one of some kinds for a test, and an artifact is recorded as
what it is. -/
def Write.Fits (among : List FileKind) (test : String) : Write → Prop
  | .artifact id subpath _ => ∃ k ∈ among, k.id = id ∧ k.path test = .ok subpath
  | .baseline _ subpath _ => ∃ k ∈ among, k.path test = .ok subpath
  | .note _ => True

theorem Write.Fits.mono {among more : List FileKind} {test : String} {s : Write}
    (h : s.Fits among test) (hsub : among ⊆ more) : s.Fits more test := by
  cases s with
  | artifact id subpath contents =>
    obtain ⟨k, hk, hpath⟩ := h
    exact ⟨k, hsub hk, hpath⟩
  | baseline other subpath text =>
    obtain ⟨k, hk, hpath⟩ := h
    exact ⟨k, hsub hk, hpath⟩
  | note => trivial

/-- All of some steps fit. -/
def AllFit (among : List FileKind) (test : String) : List Write → Prop :=
  Every (Write.Fits among test)

theorem AllFit.mono {among more : List FileKind} {test : String} {steps : List Write}
    (h : AllFit among test steps) (hsub : among ⊆ more) : AllFit more test steps :=
  h.imp fun _ hs ↦ hs.mono hsub

theorem AllFit.baseline {among : List FileKind} {test subpath : String} (k : FileKind)
    (hk : k ∈ among) (hpath : k.path test = .ok subpath) (other text : String) :
    AllFit among test [.baseline other subpath text] :=
  .singleton ⟨k, hk, hpath⟩

/-- A step that writes a file leaves an artifact of one of some kinds for a test. -/
def Write.Leaves (among : List FileKind) (test : String) : Write → Prop
  | .artifact id subpath _ => ∃ k ∈ among, k.id = id ∧ k.path test = .ok subpath
  | .baseline .. => False
  | .note _ => True

theorem Write.Leaves.fits {among : List FileKind} {test : String} {s : Write}
    (h : s.Leaves among test) : s.Fits among test := by
  cases s with
  | artifact id subpath contents => exact h
  | baseline => exact h.elim
  | note => trivial

/-- All of some steps leave artifacts. -/
def AllLeave (among : List FileKind) (test : String) : List Write → Prop :=
  Every (Write.Leaves among test)

theorem AllLeave.fits {among : List FileKind} {test : String} {steps : List Write}
    (h : AllLeave among test steps) : AllFit among test steps :=
  h.imp fun _ ↦ Write.Leaves.fits

theorem AllLeave.artifact {among : List FileKind} {test subpath : String} (k : FileKind)
    (hk : k ∈ among) (hpath : k.path test = .ok subpath) (contents : ByteArray) :
    AllLeave among test [.artifact k.id subpath contents] :=
  .singleton ⟨k, hk, rfl, hpath⟩

theorem AllLeave.note {among : List FileKind} {test : String} (log : Log) :
    AllLeave among test [.note log] :=
  .singleton trivial

theorem textSteps_fit (a : Attempt) :
    Gives (AllFit ownKinds a.name) (x.textSteps iteration a) := by
  have hkind (i : Fin 4) : ownKinds[i] ∈ ownKinds := List.getElem_mem _
  refine (Gives.self _).bind fun actualPath hactual ↦ ?_
  refine (Gives.self _).bind fun expectedPath hexpected ↦ ?_
  have hreset : AllFit ownKinds a.name
      (if x.shouldReset iteration a then [.baseline a.name expectedPath a.baseline] else []) := by
    split
    · exact .baseline _ (hkind 1) hexpected _ _
    · exact .nil
  have hbefore :=
    Every.append (AllLeave.artifact _ (hkind 0) hactual a.baseline.toUTF8).fits hreset
  dsimp only
  split
  · exact .ok hbefore
  · rename_i text htext
    refine (Gives.self _).bind fun diffPath hdiff ↦ ?_
    refine (Gives.self _).bind fun pagePath hpage ↦ .ok ?_
    exact hbefore.append <| AllLeave.fits <|
      (AllLeave.artifact _ (hkind 1) hexpected _).append <|
        (AllLeave.artifact _ (hkind 2) hdiff _).append (AllLeave.artifact _ (hkind 3) hpage _)

theorem shotStep_leaves {test : String} {s : Shots × List Write} (h : AllLeave ownKinds test s.2)
    (shot : Screenshot) : Gives (fun t ↦ AllLeave ownKinds test t.2) (shotStep test s shot) := by
  have hkind (i : Fin 8) : ownKinds[i] ∈ ownKinds := List.getElem_mem _
  cases shot with
  | relation text => exact .ok h
  | image url data =>
    rw [shotStep]
    dsimp only
    split
    · exact .ok (h.append (AllLeave.note _))
    · split
      · exact (Gives.self _).map fun path hpath ↦ h.append (AllLeave.artifact _ (hkind 4) hpath _)
      · exact (Gives.self _).map fun path hpath ↦ h.append (AllLeave.artifact _ (hkind 5) hpath _)

theorem differenceSteps_leave (test : String) (expected actual : ByteArray) :
    Gives (fun t ↦ AllLeave ownKinds test t.1) (differenceSteps test expected actual) := by
  have hkind (i : Fin 8) : ownKinds[i] ∈ ownKinds := List.getElem_mem _
  rw [differenceSteps]
  split
  · exact .ok .nil
  · exact (Gives.self _).map fun path hpath ↦ .artifact _ (hkind 6) hpath _
  · exact .ok (.note _)

theorem shotSteps_leave (test : String) (screenshots : List Screenshot) :
    Gives (fun t ↦ AllLeave ownKinds test t.1) (shotSteps test screenshots) := by
  have hnil : AllLeave ownKinds test ([] : List Write) := .nil
  refine (Gives.foldlM (fun s shot h ↦ shotStep_leaves h shot) hnil screenshots).bind
    fun shots hshots ↦ ?_
  dsimp only
  split
  · exact (differenceSteps_leave test _ _).bind fun more hmore ↦ .ok (hshots.append hmore)
  · exact .ok hshots

theorem logSteps_leave (k : FileKind) (hk : k.extension = ".txt") (test : String)
    (lines : List String) : Gives (AllLeave [k] test) (logSteps test k.id k.suffix lines) := by
  rw [logSteps]
  split
  · exact .ok .nil
  · refine (Gives.self _).map fun path hpath ↦ .artifact k List.mem_cons_self ?_ _
    rw [FileKind.path, hk]
    exact hpath

theorem resultSteps_fit (a : Attempt) (screenshots : List Screenshot) :
    Gives (fun t ↦ AllFit ownKinds a.name t.1) (x.resultSteps iteration a screenshots) := by
  have hshots {texts : List Write} (htexts : AllFit ownKinds a.name texts) :
      Gives (fun t ↦ AllFit ownKinds a.name t.1)
        ((shotSteps a.name screenshots).bind fun shots ↦ .ok (texts ++ shots.1, shots.2)) :=
    (shotSteps_leave a.name screenshots).bind fun shots hshots ↦ .ok (htexts.append hshots.fits)
  rw [resultSteps]
  split
  · dsimp only
    split
    · exact (x.textSteps_fit iteration a).bind fun texts htexts ↦ hshots htexts
    · exact (Gives.ok (ε := TestName.Unnameable) .nil).bind fun texts htexts ↦ hshots htexts
  · exact .ok .nil

theorem ownSteps_fit (a : Attempt) (screenshots : List Screenshot) :
    Gives (fun t ↦ AllFit ownKinds a.name t.1) (x.ownSteps iteration a screenshots) := by
  refine (x.resultSteps_fit iteration a screenshots).bind fun results hresults ↦ ?_
  have hlog := logSteps_leave ⟨"stderr", "-stderr", ".txt"⟩ rfl a.name a.messages
  exact hlog.bind fun messages hmessages ↦ .ok (hresults.append (hmessages.fits.mono (by decide)))

/-- **Every step of a plan is about one of the files** that an attempt at the test may leave. -/
theorem plan_fits (a : Attempt) (screenshots : List Screenshot) (crashLog : List String) :
    Gives (fun t ↦ AllFit kinds a.name t.1) (x.plan iteration a screenshots crashLog) := by
  refine (x.ownSteps_fit iteration a screenshots).bind fun own hown ↦ ?_
  have hlog := logSteps_leave crashLogKind rfl a.name crashLog
  exact hlog.bind fun crash hcrash ↦
    .ok ((hown.mono (by decide)).append (hcrash.fits.mono (by decide)))

/-! ## What the files hold -/

/-- The path of the file that a step writes, and what it writes into it. -/
def Write.file? : Write → Option (String × ByteArray)
  | .artifact _ subpath contents => some (x.store.file iteration subpath, contents)
  | .baseline _ subpath text => some (Path.join x.layout.versionDir subpath, text.toUTF8)
  | .note _ => none

theorem store_create_files (s : Artifact.Store) (t : FileTree) (m : Artifact.Map)
    (id subpath : String) (contents : ByteArray) :
    (s.create iteration t m id subpath contents).1 =
      (Artifact.writeFile t (s.file iteration subpath) contents).1 := by
  unfold Artifact.Store.create Artifact.Store.file
  generalize Artifact.writeFile t (Path.join s.dir (Artifact.Store.relative iteration subpath))
    contents = written
  rfl

@[simp] theorem say_files (w : Writing) (l : Log) : (w.say l).files = w.files := rfl

theorem create_files (id subpath : String) (contents : ByteArray) (w : Writing) :
    (x.create iteration id subpath contents w).files =
      (Artifact.writeFile w.files (x.store.file iteration subpath) contents).1 := by
  rw [← store_create_files iteration x.store w.files w.recorded id]
  unfold create
  generalize x.store.create iteration w.files w.recorded id subpath contents = created
  obtain ⟨files, answer⟩ := created
  cases answer with
  | ok m => rfl
  | error e => exact say_files _ _

theorem reset_files (test subpath text : String) (w : Writing) :
    (x.reset test subpath text w).files =
      (Artifact.writeFile w.files (Path.join x.layout.versionDir subpath) text.toUTF8).1 := by
  unfold reset
  generalize Artifact.writeFile w.files (Path.join x.layout.versionDir subpath) text.toUTF8 =
    written
  obtain ⟨files, answer⟩ := written
  cases answer with
  | ok u => rfl
  | error e => exact say_files _ _

/-- The files after a step are those of one attempt to write a file, if it writes one. -/
theorem perform_files (w : Writing) (s : Write) :
    (x.perform iteration w s).files =
      match s.file? x iteration with
      | some f => (Artifact.writeFile w.files f.1 f.2).1
      | none => w.files := by
  cases s with
  | artifact id subpath contents => exact x.create_files iteration id subpath contents w
  | baseline test subpath text => exact x.reset_files test subpath text w
  | note log => rfl

@[simp] theorem perform_here (w : Writing) (s : Write) :
    (x.perform iteration w s).files.here = w.files.here := by
  rw [perform_files]
  split
  · rw [Artifact.writeFile_here]
  · rfl

@[simp] theorem performAll_here (w : Writing) (steps : List Write) :
    (x.performAll iteration w steps).files.here = w.files.here := by
  induction steps generalizing w with
  | nil => rfl
  | cons s steps ih => rw [performAll_cons, ih, perform_here]

/-- A step writes some contents into the file that a path leads to, seen from a working
directory. -/
def Write.PutsAt (here : List String) (path : String) (contents : ByteArray) (s : Write) : Prop :=
  ∃ f ∈ s.file? x iteration, Path.place here f.1 = Path.place here path ∧ f.2 = contents

theorem putsAt_artifact (here : List String) (id subpath : String) (contents : ByteArray) :
    (Write.artifact id subpath contents).PutsAt x iteration here
      (x.store.file iteration subpath) contents :=
  ⟨(x.store.file iteration subpath, contents), rfl, rfl, rfl⟩

/-- A file that can be read still can be read after a step. It is the same, or the step wrote it. -/
theorem read_perform {w : Writing} {path : String} {contents : ByteArray}
    (hread : w.files.read path = .ok contents) (s : Write) :
    (x.perform iteration w s).files.read path = .ok contents ∨
      ∃ other, s.PutsAt x iteration w.files.here path other ∧
        (x.perform iteration w s).files.read path = .ok other := by
  rw [perform_files]
  split
  · rename_i f hf
    rcases Artifact.read_writeFile_of_read hread with hsame | ⟨hplace, hnew⟩
    · exact .inl hsame
    · exact .inr ⟨f.2, ⟨f, hf, hplace.symm, rfl⟩, hnew⟩
  · exact .inl hread

/-- **A file that can be read still can be read after a plan.** It is the same, or a step of the
plan wrote it. -/
theorem read_performAll {w : Writing} {path : String} {contents : ByteArray}
    (hread : w.files.read path = .ok contents) (steps : List Write) :
    (x.performAll iteration w steps).files.read path = .ok contents ∨
      ∃ s ∈ steps, ∃ other, s.PutsAt x iteration w.files.here path other ∧
        (x.performAll iteration w steps).files.read path = .ok other := by
  induction steps generalizing w contents with
  | nil => exact .inl hread
  | cons s steps ih =>
    have hrest {contents : ByteArray}
        (h : (x.perform iteration w s).files.read path = .ok contents) := ih h
    simp only [perform_here] at hrest
    rw [performAll_cons]
    rcases x.read_perform iteration hread s with hsame | ⟨other, hputs, hother⟩
    · rcases hrest hsame with hsame | ⟨s', hs', hrest⟩
      · exact .inl hsame
      · exact .inr ⟨s', List.mem_cons_of_mem s hs', hrest⟩
    · rcases hrest hother with hsame | ⟨s', hs', hrest⟩
      · exact .inr ⟨s, List.mem_cons_self, other, hputs, hsame⟩
      · exact .inr ⟨s', List.mem_cons_of_mem s hs', hrest⟩

theorem writable_artifact (w : Writing) (id subpath : String) (contents : ByteArray) :
    x.Writable iteration w (.artifact id subpath contents) =
      (Artifact.writeFile w.files (x.store.file iteration subpath) contents).2.isOk := by
  rw [Writable, Artifact.Store.create, Artifact.Store.file]
  dsimp only
  generalize Artifact.writeFile w.files
    (Path.join x.store.dir (Artifact.Store.relative iteration subpath)) contents = written
  obtain ⟨files, answer⟩ := written
  cases answer with
  | ok u => rfl
  | error e => rfl

/-- An artifact that is written can be read. -/
theorem read_perform_artifact {w : Writing} {id subpath : String} {contents : ByteArray}
    (h : x.Writable iteration w (.artifact id subpath contents) = true) :
    (x.perform iteration w (.artifact id subpath contents)).files.read
      (x.store.file iteration subpath) = .ok contents := by
  rw [perform, create_files]
  exact Artifact.read_writeFile (x.writable_artifact iteration w id subpath contents ▸ h)

/-- **Every artifact of a plan can be read after it**, and a step of the plan wrote what it
holds. -/
theorem read_of_writes {w : Writing} {steps : List Write} (h : x.Writes iteration w steps)
    {id subpath : String} {contents : ByteArray} (hmem : .artifact id subpath contents ∈ steps) :
    ∃ s ∈ steps, ∃ other,
      s.PutsAt x iteration w.files.here (x.store.file iteration subpath) other ∧
      (x.performAll iteration w steps).files.read (x.store.file iteration subpath) =
        .ok other := by
  induction steps generalizing w with
  | nil => cases hmem
  | cons s steps ih =>
    rw [performAll_cons]
    rcases List.mem_cons.mp hmem with rfl | hmem
    · have hread := x.read_performAll iteration (x.read_perform_artifact iteration h.1) steps
      rw [perform_here] at hread
      rcases hread with hsame | ⟨s, hs, hrest⟩
      · exact ⟨_, List.mem_cons_self, contents, x.putsAt_artifact iteration _ _ _ _, hsame⟩
      · exact ⟨s, List.mem_cons_of_mem _ hs, hrest⟩
    · have hread := ih h.2 hmem
      rw [perform_here] at hread
      obtain ⟨s', hs', hrest⟩ := hread
      exact ⟨s', List.mem_cons_of_mem s hs', hrest⟩

/-! ## What is recorded -/

/-- Nothing is recorded under an identifier that no step of a plan is about. -/
theorem get?_recordAll_of_fit {among : List FileKind} {test : String} {steps : List Write}
    (h : AllFit among test steps) {id : String} (hid : ∀ k ∈ among, k.id ≠ id)
    (m : Artifact.Map) : (x.recordAll iteration m steps).get? id = m.get? id := by
  induction steps generalizing m with
  | nil => rfl
  | cons s steps ih =>
    obtain ⟨hs, hsteps⟩ := List.forall_mem_cons.mp h
    have hstep : (x.record iteration m s).get? id = m.get? id := by
      cases s with
      | artifact id' subpath contents =>
        obtain ⟨k, hk, rfl, -⟩ := hs
        rw [record, Artifact.Map.get?_add, if_neg (hid k hk)]
      | baseline => rfl
      | note => rfl
    exact (ih hsteps _).trans hstep

theorem mem_paths_add {m : Artifact.Map} {id q path new : String} :
    path ∈ (m.add id new).paths q ↔ path ∈ m.paths q ∨ id = q ∧ path = new := by
  rw [Artifact.Map.paths_add]
  by_cases hid : id = q
  · subst hid
    rw [if_pos rfl]
    split <;> simp_all
  · simp [hid]

theorem mem_paths_record {m : Artifact.Map} {s : Write} {id path : String} :
    path ∈ (x.record iteration m s).paths id ↔
      path ∈ m.paths id ∨ ∃ subpath contents, s = .artifact id subpath contents ∧
        path = x.store.recorded iteration subpath := by
  cases s with
  | artifact id' subpath contents =>
    rw [record, mem_paths_add]
    simp
  | baseline => simp [record]
  | note => simp [record]

/-- **What is recorded of a plan** are its artifacts. -/
theorem mem_paths_recordAll {steps : List Write} {m : Artifact.Map} {id path : String} :
    path ∈ (x.recordAll iteration m steps).paths id ↔
      path ∈ m.paths id ∨ ∃ subpath contents, .artifact id subpath contents ∈ steps ∧
        path = x.store.recorded iteration subpath := by
  induction steps generalizing m with
  | nil => simp [recordAll]
  | cons s steps ih =>
    have hcons : x.recordAll iteration m (s :: steps) =
        x.recordAll iteration (x.record iteration m s) steps := rfl
    simp only [hcons, ih, mem_paths_record, List.mem_cons, or_and_right, exists_or, or_assoc,
      eq_comm (a := s)]

/-! ## The crash log -/

theorem writes_append {w : Writing} {steps more : List Write} :
    x.Writes iteration w (steps ++ more) ↔
      x.Writes iteration w steps ∧ x.Writes iteration (x.performAll iteration w steps) more := by
  induction steps generalizing w with
  | nil => exact (and_iff_right trivial).symm
  | cons s steps ih =>
    rw [List.cons_append, Writes, Writes, ih, and_assoc, performAll_cons]

theorem fromUTF8?_toUTF8 (s : String) : String.fromUTF8? s.toUTF8 = some s := by
  unfold String.fromUTF8?
  split
  · rfl
  · rename_i hinvalid
    exact absurd s.isValidUTF8 hinvalid

/-- **The crash log of an attempt** is there exactly if crashed browsers wrote something, and it
holds what they wrote. -/
theorem extract_crashLog {files : FileTree} {a kept : Attempt} {screenshots : List Screenshot}
    {crashLog : List String} {w : Writing} (h : x.Stores iteration files a screenshots crashLog)
    (hextract : x.extract files iteration a screenshots crashLog = .ok (kept, w)) :
    if crashLog.isEmpty then kept.artifacts.get? "crash_log" = none
    else ∃ subpath, crashLogKind.path a.name = .ok subpath ∧
      kept.artifacts.get? "crash_log" = some [x.store.recorded iteration subpath] ∧
      w.files.readText (x.store.file iteration subpath) = .ok (String.join crashLog) := by
  obtain ⟨steps, stats, hplan, hwrites, hkept⟩ := x.extract_eq_of_stores iteration h
  rw [hkept] at hextract
  cases hextract
  -- The crash log is written last, and no other file is recorded as it is.
  obtain ⟨own, crash, hown, hcrash, rfl⟩ := x.exists_of_plan iteration hplan
  have hnone : (x.recordAll iteration {} own).get? "crash_log" = none :=
    x.get?_recordAll_of_fit iteration (x.ownSteps_fit iteration a screenshots _ hown)
      (by decide) {}
  rw [logSteps] at hcrash
  split at hcrash
  · rename_i hempty
    obtain rfl := Except.ok.inj hcrash
    rw [if_pos hempty, List.append_nil]
    exact hnone
  · rename_i hlines
    obtain ⟨subpath, hpath, rfl⟩ := Answer.map_eq_ok_iff.mp hcrash
    rw [if_neg hlines]
    refine ⟨subpath, hpath, ?_, ?_⟩
    · simp only [recordAll, List.foldl_append, List.foldl_cons, List.foldl_nil]
      rw [record, Artifact.Map.get?_add, if_pos rfl, Artifact.Map.paths, ← recordAll, hnone]
      rfl
    · have hcrash := ((x.writes_append iteration).mp hwrites).2.1
      rw [performAll_append, performAll_cons, performAll_nil, FileTree.readText,
        x.read_perform_artifact iteration hcrash]
      simp only [bind, Except.bind, fromUTF8?_toUTF8]

end Extraction

end WebTestRun
