import WebTestRun.Proofs.Artifact.Place

/-!
# What an attempt writes where, and which baseline it resets

A file holds what was put there last. Where no artifact of an attempt lies, the attempt can only
have reset a baseline, and it resets one at most: its own.

* `FileTree.HoldsAfter` — what is somewhere once contents were put there.
* `Extraction.AllSucceed` — every file of a plan is written, and `holds_performAll` — where files
  are then.
* `Extraction.resetsOwn` — an attempt resets its baseline, `plan_resetOwn` — its plan resets no
  other, and `puts_eq_of_apart` — what it puts where none of its artifacts lies.
-/

set_option autoImplicit false

namespace WebTestRun

/-! ## Contents that are put somewhere -/

/-- A file with some contents is where a path leads to after other contents were put there, one
after the other. -/
def FileTree.HoldsAfter (t : FileTree) (path : String) (put : List ByteArray)
    (contents : ByteArray) : Prop :=
  match put.getLast? with
  | some last => last = contents
  | none => t.Holds path contents

theorem FileTree.holdsAfter_concat (t : FileTree) (path : String) (put : List ByteArray)
    (last contents : ByteArray) : t.HoldsAfter path (put ++ [last]) contents ↔ last = contents := by
  rw [HoldsAfter, List.getLast?_concat]

/-- What is put somewhere later counts. -/
theorem FileTree.holdsAfter_append {t t' : FileTree} {path : String} {put : List ByteArray}
    (h : ∀ contents, t'.Holds path contents ↔ t.HoldsAfter path put contents)
    (more : List ByteArray) (contents : ByteArray) :
    t'.HoldsAfter path more contents ↔ t.HoldsAfter path (put ++ more) contents := by
  rw [HoldsAfter, HoldsAfter, List.getLast?_append]
  cases more.getLast? with
  | none => exact h contents
  | some last => exact Iff.rfl

namespace Extraction

open Answer (Gives)

variable (x : Extraction) (iteration : Nat)

/-- A step that writes a file succeeds. -/
def Succeeds (w : Writing) (s : Write) : Bool :=
  match s.file? x iteration with
  | some f => (Artifact.writeFile w.files f.1 f.2).2.isOk
  | none => true

/-- All steps that write files succeed. -/
def AllSucceed : Writing → List Write → Prop
  | _, [] => True
  | w, s :: steps => x.Succeeds iteration w s = true ∧ AllSucceed (x.perform iteration w s) steps

instance : ∀ w steps, Decidable (x.AllSucceed iteration w steps)
  | _, [] => .isTrue trivial
  | w, s :: steps =>
    @instDecidableAnd _ (x.AllSucceed iteration (x.perform iteration w s) steps) _
      (instDecidableAllSucceed (x.perform iteration w s) steps)

variable {x iteration} {w : Writing} {s : Write} {steps : List Write} {path : String}

theorem Succeeds.writable (h : x.Succeeds iteration w s = true) :
    x.Writable iteration w s = true := by
  cases s with
  | artifact id subpath contents =>
    rw [writable_artifact]
    exact h
  | baseline => rfl
  | note => rfl

theorem AllSucceed.writes (h : x.AllSucceed iteration w steps) : x.Writes iteration w steps := by
  induction steps generalizing w with
  | nil => trivial
  | cons s steps ih => exact ⟨Succeeds.writable h.1, ih h.2⟩

/-- What a step puts where a path leads to, seen from a working directory, if it does. -/
def Write.puts? (x : Extraction) (iteration : Nat) (here : List String) (path : String)
    (s : Write) : Option ByteArray :=
  (s.file? x iteration).bind fun f ↦
    if Path.place here f.1 = Path.place here path then some f.2 else none

/-- **Where files are after a step.** -/
theorem holds_perform (h : x.Succeeds iteration w s = true) (contents : ByteArray) :
    (x.perform iteration w s).files.Holds path contents ↔
      w.files.HoldsAfter path (s.puts? x iteration w.files.here path).toList contents := by
  rw [perform_files, Write.puts?]
  rw [Succeeds] at h
  cases hfile : s.file? x iteration with
  | none => exact Iff.rfl
  | some f =>
    rw [hfile] at h
    dsimp only
    rw [Artifact.holds_writeFile h, Option.bind_some]
    by_cases hplace : Path.place w.files.here f.1 = Path.place w.files.here path
    · rw [if_pos hplace, if_pos hplace.symm]
      exact Iff.rfl
    · rw [if_neg hplace, if_neg (Ne.symm hplace)]
      exact Iff.rfl

/-- **Where files are after a plan.** -/
theorem holds_performAll (h : x.AllSucceed iteration w steps) (contents : ByteArray) :
    (x.performAll iteration w steps).files.Holds path contents ↔
      w.files.HoldsAfter path (steps.filterMap (Write.puts? x iteration w.files.here path))
        contents := by
  induction steps generalizing w with
  | nil => exact Iff.rfl
  | cons s steps ih =>
    have hputs : (s :: steps).filterMap (Write.puts? x iteration w.files.here path) =
        (s.puts? x iteration w.files.here path).toList ++
          steps.filterMap (Write.puts? x iteration w.files.here path) := by
      rw [List.filterMap_cons]
      cases s.puts? x iteration w.files.here path <;> rfl
    rw [performAll_cons, ih h.2, perform_here, hputs]
    exact FileTree.holdsAfter_append (holds_perform h.1) _ contents

/-- A file that is written can be read after the plan, whatever else is put there. -/
theorem exists_read_of_mem (h : x.AllSucceed iteration w steps) (hs : s ∈ steps)
    {f : String × ByteArray} (hf : s.file? x iteration = some f) :
    ∃ contents, (x.performAll iteration w steps).files.read f.1 = .ok contents := by
  induction steps generalizing w with
  | nil => cases hs
  | cons s' steps ih =>
    rw [performAll_cons]
    rcases List.mem_cons.mp hs with rfl | hs
    · have hread : (x.perform iteration w s).files.read f.1 = .ok f.2 := by
        have hwrites := h.1
        rw [Succeeds, hf] at hwrites
        rw [perform_files, hf]
        exact Artifact.read_writeFile hwrites
      rcases x.read_performAll iteration hread steps with hsame | ⟨-, -, other, -, hother⟩
      · exact ⟨f.2, hsame⟩
      · exact ⟨other, hother⟩
    · exact ih h.2 hs

/-! ## The baseline of an attempt -/

/-- The baseline that a step resets: the path of its file in the directory of new baselines, and
its text. -/
def Write.baseline? : Write → Option (String × String)
  | .baseline _ subpath text => some (subpath, text)
  | .artifact .. | .note _ => none

theorem AllLeave.baselines {among : List FileKind} {test : String}
    (h : AllLeave among test steps) : steps.filterMap Write.baseline? = [] := by
  refine List.filterMap_eq_nil_iff.mpr fun s hs ↦ ?_
  have hleaves := h s hs
  cases s with
  | artifact => rfl
  | baseline => exact hleaves.elim
  | note => rfl

variable (x iteration)

/-- Whether an attempt resets the baseline of its test. -/
def resetsOwn (a : Attempt) : Bool := x.shouldReset iteration a && a.kind.hasSubtests

/-- Steps reset the baseline of an attempt, whose file has a name then, or none. -/
def ResetOwn (a : Attempt) (steps : List Write) : Prop :=
  if x.resetsOwn iteration a then
    ∃ subpath, Layout.baselineName a.name = .ok subpath ∧
      steps.filterMap Write.baseline? = [(subpath, a.baseline)]
  else steps.filterMap Write.baseline? = []

variable {x iteration} {a : Attempt}

theorem ResetOwn.append (h : x.ResetOwn iteration a steps) {among : List FileKind} {test : String}
    {more : List Write} (hmore : AllLeave among test more) :
    x.ResetOwn iteration a (steps ++ more) := by
  rw [ResetOwn, List.filterMap_append, hmore.baselines, List.append_nil]
  exact h

theorem ResetOwn.of_not (h : x.resetsOwn iteration a = false)
    (hsteps : steps.filterMap Write.baseline? = []) : x.ResetOwn iteration a steps := by
  rw [ResetOwn, h]
  exact hsteps

/-- What is recorded of an attempt does not matter to its baseline. -/
theorem ResetOwn.recorded (h : x.ResetOwn iteration a steps) (artifacts : Artifact.Map)
    (imageStats : Option ImageStats) :
    x.ResetOwn iteration { a with messages := [], artifacts, imageStats } steps := by
  unfold ResetOwn resetsOwn shouldReset at h ⊢
  exact h

variable (x iteration) (a)

theorem textSteps_resetOwn (hsubtests : a.kind.hasSubtests = true) :
    Gives (x.ResetOwn iteration a) (x.textSteps iteration a) := by
  refine (Gives.self _).bind fun actualPath _ ↦ ?_
  refine (Gives.self _).bind fun expectedPath hexpected ↦ ?_
  have hreset (actual : ByteArray) : x.ResetOwn iteration a
      (Write.artifact "actual_text" actualPath actual ::
        if x.shouldReset iteration a then [.baseline a.name expectedPath a.baseline] else []) := by
    rw [ResetOwn, resetsOwn, hsubtests, Bool.and_true]
    split
    · exact ⟨expectedPath, hexpected, rfl⟩
    · rfl
  cases a.baselineText with
  | none => exact .ok (hreset _)
  | some text =>
    refine (Gives.self _).bind fun diffPath hdiff ↦ ?_
    refine (Gives.self _).bind fun pagePath hpage ↦ .ok ?_
    have hkind (i : Fin 4) : ownKinds[i] ∈ ownKinds := List.getElem_mem _
    exact (hreset _).append <| (AllLeave.artifact _ (hkind 1) hexpected _).append <|
      (AllLeave.artifact _ (hkind 2) hdiff _).append (AllLeave.artifact _ (hkind 3) hpage _)

theorem resultSteps_resetOwn (screenshots : List Screenshot) :
    Gives (fun t ↦ x.ResetOwn iteration a t.1) (x.resultSteps iteration a screenshots) := by
  have hshots {texts : List Write} (htexts : x.ResetOwn iteration a texts) :
      Gives (fun t ↦ x.ResetOwn iteration a t.1)
        ((shotSteps a.name screenshots).bind fun shots ↦ .ok (texts ++ shots.1, shots.2)) :=
    (shotSteps_leave a.name screenshots).bind fun shots hshots ↦ .ok (htexts.append hshots)
  rw [resultSteps]
  split
  · dsimp only
    split
    · rename_i hsubtests
      exact (x.textSteps_resetOwn iteration a hsubtests).bind fun texts htexts ↦ hshots htexts
    · rename_i hsubtests
      exact hshots (.of_not (by simp [resetsOwn, hsubtests]) rfl)
  · rename_i hnone
    rw [Bool.or_eq_true, not_or, Bool.not_eq_true] at hnone
    exact .ok (.of_not (by simp [resetsOwn, shouldReset, hnone.1]) rfl)

/-- **The plan of an attempt resets its baseline** and no other, if it resets any. -/
theorem plan_resetOwn (screenshots : List Screenshot) (crashLog : List String) :
    Gives (fun t ↦ x.ResetOwn iteration a t.1) (x.plan iteration a screenshots crashLog) := by
  have hmessages := logSteps_leave ⟨"stderr", "-stderr", ".txt"⟩ rfl a.name a.messages
  have hcrash := logSteps_leave crashLogKind rfl a.name crashLog
  have hown : Gives (fun t ↦ x.ResetOwn iteration a t.1) (x.ownSteps iteration a screenshots) :=
    (x.resultSteps_resetOwn iteration a screenshots).bind fun results hresults ↦
      hmessages.bind fun messages hmessages ↦ .ok (hresults.append hmessages)
  exact hown.bind fun own hown ↦ hcrash.bind fun crash hcrash ↦ .ok (hown.append hcrash)

variable {x iteration a}

/-- What a baseline that is reset puts where a path leads to, if it does. -/
def putsBaseline? (x : Extraction) (here : List String) (path : String) (b : String × String) :
    Option ByteArray :=
  if Path.place here (Path.join x.layout.versionDir b.1) = Path.place here path
  then some b.2.toUTF8 else none

/-- What an attempt that resets its baseline puts where a path leads to, if it does. -/
def putsReset? (x : Extraction) (here : List String) (path : String) (a : Attempt) :
    Option ByteArray :=
  (Layout.baselineName a.name).toOption.bind fun subpath ↦
    x.putsBaseline? here path (subpath, a.baseline)

/-- **Where no artifact of an attempt lies**, it only puts its baseline. -/
theorem puts_eq_of_apart {here : List String} (hresets : x.ResetOwn iteration a steps)
    (h : ∀ id subpath contents, .artifact id subpath contents ∈ steps →
      Path.place here (x.store.file iteration subpath) ≠ Path.place here path) :
    steps.filterMap (Write.puts? x iteration here path) =
      (if x.resetsOwn iteration a then x.putsReset? here path a else none).toList := by
  have hbaselines : steps.filterMap (Write.puts? x iteration here path) =
      (steps.filterMap Write.baseline?).filterMap (x.putsBaseline? here path) := by
    rw [List.filterMap_filterMap]
    refine List.filterMap_congr fun s hs ↦ ?_
    cases s with
    | artifact id subpath contents => exact if_neg (h id subpath contents hs)
    | baseline => rfl
    | note => rfl
  rw [hbaselines]
  by_cases hown : x.resetsOwn iteration a
  · rw [ResetOwn, if_pos hown] at hresets
    obtain ⟨subpath, hname, hreset⟩ := hresets
    have hputs : x.putsReset? here path a = x.putsBaseline? here path (subpath, a.baseline) := by
      rw [putsReset?, hname]
      rfl
    rw [if_pos hown, hreset, hputs, List.filterMap_cons, List.filterMap_nil]
    cases x.putsBaseline? here path (subpath, a.baseline) <;> rfl
  · rw [ResetOwn, if_neg hown] at hresets
    rw [if_neg hown, hresets]
    rfl

end Extraction

end WebTestRun
