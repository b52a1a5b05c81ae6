import WebTestRun.Artifact.Extraction
import WebTestRun.Proofs.Collection.Answer
import WebTestRun.Proofs.Collection.Keyed

/-!
# What is written for an attempt

Which files an attempt leaves follows from the attempt, its screenshots and the output of crashed
browsers. The files that are there only decide whether one can be written. So the extraction of
artifacts is a plan that is made first and then carried out.

* `Extraction.Write` — one step of a plan, `Extraction.performAll` — the steps carried out.
* `Extraction.plan` — the plan, and `extract_eq` that the extraction is the plan carried out.
* `Extraction.Writes` — every artifact of a plan is written, and then `performAll_recorded`.
* `extract_eq_of_stores` — what an attempt leaves then, `extract_of_stores` — what the output of
  crashed browsers has to do with it.
-/

set_option autoImplicit false

namespace WebTestRun.Extraction

variable (x : Extraction) (iteration : Nat)

/-- One step on the way to the artifacts of an attempt. -/
inductive Write where
  | artifact (id subpath : String) (contents : ByteArray)
  /-- A text becomes the baseline of a test. -/
  | baseline (test subpath text : String)
  /-- There is something to say. -/
  | note (log : Log)

/-- A step is carried out. -/
def perform (w : Writing) : Write → Writing
  | .artifact id subpath contents => x.create iteration id subpath contents w
  | .baseline test subpath text => x.reset test subpath text w
  | .note log => w.say log

/-- Steps are carried out, one after the other. -/
def performAll (w : Writing) (steps : List Write) : Writing := steps.foldl (x.perform iteration) w

theorem performAll_nil (w : Writing) : x.performAll iteration w [] = w := rfl

theorem performAll_cons (w : Writing) (s : Write) (steps : List Write) :
    x.performAll iteration w (s :: steps) =
      x.performAll iteration (x.perform iteration w s) steps := rfl

theorem performAll_append (w : Writing) (steps more : List Write) :
    x.performAll iteration w (steps ++ more) =
      x.performAll iteration (x.performAll iteration w steps) more :=
  List.foldl_append

/-! ## Texts -/

/-- The steps to what an attempt observed, and to how it differs from its baseline. -/
def textSteps (a : Attempt) : Except TestName.Unnameable (List Write) := do
  let actualPath ← TestName.outputPath a.name "-actual" ".txt"
  let expectedPath ← TestName.outputPath a.name "-expected" ".txt"
  let actual := a.baseline
  let steps := Write.artifact "actual_text" actualPath actual.toUTF8 ::
    if x.shouldReset iteration a then [.baseline a.name expectedPath actual] else []
  match a.baselineText with
  | none => return steps
  | some text =>
    let expected := shownBaseline text
    let diffPath ← TestName.outputPath a.name "-diff" ".txt"
    let pagePath ← TestName.outputPath a.name "-pretty-diff" ".html"
    return steps ++ [
      .artifact "expected_text" expectedPath expected.toUTF8,
      .artifact "text_diff" diffPath (Diff.unified expected actual expectedPath actualPath).toUTF8,
      .artifact "pretty_text_diff" pagePath (Diff.html expected actual).toUTF8]

theorem writeTexts_eq (a : Attempt) (w : Writing) :
    x.writeTexts iteration a w =
      (x.textSteps iteration a).map (x.performAll iteration w) := by
  unfold writeTexts textSteps
  cases TestName.outputPath a.name "-actual" ".txt" with
  | error e => rfl
  | ok actualPath =>
    cases TestName.outputPath a.name "-expected" ".txt" with
    | error e => rfl
    | ok expectedPath =>
      simp only [bind, Except.bind, pure, Except.pure]
      have hactual (w : Writing) :
          (if x.shouldReset iteration a then
            x.reset a.name expectedPath a.baseline
              (x.createText iteration "actual_text" actualPath a.baseline w)
          else x.createText iteration "actual_text" actualPath a.baseline w) =
            x.performAll iteration w (.artifact "actual_text" actualPath a.baseline.toUTF8 ::
              if x.shouldReset iteration a then [.baseline a.name expectedPath a.baseline]
              else []) := by
        cases x.shouldReset iteration a <;> simp [performAll, perform, createText]
      rw [hactual]
      cases a.baselineText with
      | none => simp only [Except.map]
      | some text =>
        cases TestName.outputPath a.name "-diff" ".txt" with
        | error e => simp only [Except.map]
        | ok diffPath =>
          cases TestName.outputPath a.name "-pretty-diff" ".html" with
          | error e => simp only [Except.map]
          | ok pagePath =>
            simp only [Except.map, performAll_append]
            simp only [performAll, List.foldl_cons, List.foldl_nil, perform, createText]

/-! ## Screenshots -/

/-- The step to one screenshot more. -/
def shotStep (test : String) (s : Shots × List Write) :
    Screenshot → Except TestName.Unnameable (Shots × List Write)
  | .relation _ => .ok s
  | .image url data =>
    let url := TestName.withoutSlash url
    match Base64.decode? (String.ofList (Text.trim data.toList)) with
    | none => .ok (s.1, s.2 ++ [.note
        (.warning .artifacts s!"{test}: skipping screenshot of {url} with invalid base64")])
    | some bytes =>
      if url = urlOf test then
        (TestName.outputPath test "-actual" ".png").map fun path ↦
          ({ s.1 with actual := some bytes }, s.2 ++ [.artifact "actual_image" path bytes])
      else
        (TestName.outputPath test "-expected" ".png").map fun path ↦
          ({ s.1 with expected := some bytes }, s.2 ++ [.artifact "expected_image" path bytes])

/-- The steps to how two screenshots differ. -/
def differenceSteps (test : String) (expected actual : ByteArray) :
    Except TestName.Unnameable (List Write × Option ImageStats) :=
  match Image.compareFiles expected actual with
  | .ok none => .ok ([], none)
  | .ok (some d) =>
    (TestName.outputPath test "-diff" ".png").map fun path ↦
      ([.artifact "image_diff" path d.image.png], some d.stats)
  | .error e =>
    .ok ([.note (.error .artifacts s!"error creating diff image for {test}: {e.message}")], none)

/-- The steps to the screenshots of an attempt, and to how the last ones differ. -/
def shotSteps (test : String) (screenshots : List Screenshot) :
    Except TestName.Unnameable (List Write × Option ImageStats) := do
  let (shots, steps) ← screenshots.foldlM (shotStep test) (({} : Shots), [])
  match shots.expected, shots.actual with
  | some expected, some actual =>
    let (more, stats) ← differenceSteps test expected actual
    return (steps ++ more, stats)
  | _, _ => return (steps, none)

theorem writeShot_eq (test : String) (w : Writing) (shots : Shots) (steps : List Write)
    (s : Screenshot) :
    x.writeShot iteration test (shots, x.performAll iteration w steps) s =
      (shotStep test (shots, steps) s).map fun t ↦ (t.1, x.performAll iteration w t.2) := by
  cases s with
  | relation text => rfl
  | image url data =>
    rw [writeShot, shotStep]
    cases Base64.decode? (String.ofList (Text.trim data.toList)) with
    | none => simp [Except.map, performAll, perform]
    | some bytes =>
      dsimp only
      split
      · cases TestName.outputPath test "-actual" ".png" <;>
          simp [Except.map, performAll, perform]
      · cases TestName.outputPath test "-expected" ".png" <;>
          simp [Except.map, performAll, perform]

theorem foldlM_writeShot_eq (test : String) (w : Writing) (screenshots : List Screenshot)
    (shots : Shots) (steps : List Write) :
    screenshots.foldlM (x.writeShot iteration test) (shots, x.performAll iteration w steps) =
      (screenshots.foldlM (shotStep test) (shots, steps)).map fun t ↦
        (t.1, x.performAll iteration w t.2) := by
  induction screenshots generalizing shots steps with
  | nil => rfl
  | cons s screenshots ih =>
    rw [List.foldlM_cons, List.foldlM_cons, writeShot_eq]
    cases shotStep test (shots, steps) s with
    | error e => rfl
    | ok t => exact ih t.1 t.2

theorem writeDifference_eq (test : String) (expected actual : ByteArray) (w : Writing) :
    x.writeDifference iteration test expected actual w =
      (differenceSteps test expected actual).map fun t ↦
        (x.performAll iteration w t.1, t.2) := by
  rw [writeDifference, differenceSteps]
  cases Image.compareFiles expected actual with
  | error e => rfl
  | ok d =>
    cases d with
    | none => rfl
    | some d =>
      cases TestName.outputPath test "-diff" ".png" <;>
        simp only [Except.map, performAll, List.foldl_cons, List.foldl_nil, perform]

theorem writeShots_eq (test : String) (screenshots : List Screenshot) (w : Writing) :
    x.writeShots iteration test screenshots w =
      (shotSteps test screenshots).map fun t ↦ (x.performAll iteration w t.1, t.2) := by
  unfold writeShots shotSteps
  have hfold := x.foldlM_writeShot_eq iteration test w screenshots {} []
  rw [show x.performAll iteration w [] = w from rfl] at hfold
  rw [hfold]
  cases screenshots.foldlM (shotStep test) (({} : Shots), []) with
  | error e => rfl
  | ok t =>
    obtain ⟨⟨actual, expected⟩, steps⟩ := t
    cases expected with
    | none => rfl
    | some expected =>
      cases actual with
      | none => rfl
      | some actual =>
        simp only [bind, Except.bind, Except.map, writeDifference_eq]
        cases differenceSteps test expected actual with
        | error e => rfl
        | ok d => simp only [pure, Except.pure, performAll_append]

/-! ## All of it -/

/-- The step to lines as an artifact, if there are any. -/
def logSteps (test id suffix : String) (lines : List String) :
    Except TestName.Unnameable (List Write) :=
  if lines.isEmpty then .ok []
  else (TestName.outputPath test suffix ".txt").map fun path ↦
    [.artifact id path (String.join lines).toUTF8]

/-- The steps to the results of an attempt. -/
def resultSteps (a : Attempt) (screenshots : List Screenshot) :
    Except TestName.Unnameable (List Write × Option ImageStats) :=
  if x.resets || a.verdict == .failure then do
    let texts ← if a.kind.hasSubtests then x.textSteps iteration a else .ok []
    let (shots, stats) ← shotSteps a.name screenshots
    return (texts ++ shots, stats)
  else .ok ([], none)

/-- The steps to all artifacts of an attempt but the output of crashed browsers. -/
def ownSteps (a : Attempt) (screenshots : List Screenshot) :
    Except TestName.Unnameable (List Write × Option ImageStats) := do
  let (results, stats) ← x.resultSteps iteration a screenshots
  let messages ← logSteps a.name "stderr" "-stderr" a.messages
  return (results ++ messages, stats)

/-- The steps to the artifacts of an attempt. -/
def plan (a : Attempt) (screenshots : List Screenshot) (crashLog : List String) :
    Except TestName.Unnameable (List Write × Option ImageStats) := do
  let (own, stats) ← x.ownSteps iteration a screenshots
  let crash ← logSteps a.name "crash_log" "-crash-log" crashLog
  return (own ++ crash, stats)

theorem writeLog_eq (test id suffix : String) (lines : List String) (w : Writing) :
    x.writeLog iteration test id suffix lines w =
      (logSteps test id suffix lines).map (x.performAll iteration w) := by
  rw [writeLog, logSteps]
  split
  · rfl
  · cases TestName.outputPath test suffix ".txt" <;>
      simp only [Except.map, performAll, List.foldl_cons, List.foldl_nil, perform, createText]

theorem writeResults_eq (a : Attempt) (screenshots : List Screenshot) (w : Writing) :
    x.writeResults iteration a screenshots w =
      (x.resultSteps iteration a screenshots).map fun t ↦
        (x.performAll iteration w t.1, t.2) := by
  unfold writeResults resultSteps
  split
  · cases a.kind.hasSubtests with
    | false =>
      simp only [Bool.false_eq_true, if_false, bind, Except.bind, writeShots_eq]
      cases shotSteps a.name screenshots <;> rfl
    | true =>
      simp only [if_true, writeTexts_eq]
      cases x.textSteps iteration a with
      | error e => rfl
      | ok texts =>
        simp only [bind, Except.bind, Except.map, writeShots_eq]
        cases shotSteps a.name screenshots with
        | error e => rfl
        | ok t => simp only [pure, Except.pure, performAll_append]
  · rfl

/-- **The extraction of artifacts is its plan carried out.** -/
theorem extract_eq (files : FileTree) (a : Attempt) (screenshots : List Screenshot)
    (crashLog : List String) :
    x.extract files iteration a screenshots crashLog =
      (x.plan iteration a screenshots crashLog).map fun t ↦
        let w := x.performAll iteration { files } t.1
        ({ a with messages := [], artifacts := w.recorded, imageStats := t.2 }, w) := by
  unfold extract plan ownSteps
  rw [writeResults_eq]
  cases x.resultSteps iteration a screenshots with
  | error e => rfl
  | ok t =>
    obtain ⟨results, stats⟩ := t
    simp only [Except.map, bind, Except.bind, writeLog_eq]
    cases logSteps a.name "stderr" "-stderr" a.messages with
    | error e => rfl
    | ok messages =>
      simp only [pure, Except.pure]
      cases logSteps a.name "crash_log" "-crash-log" crashLog with
      | error e => rfl
      | ok crash => simp only [performAll_append]

section

variable {x : Extraction} {iteration : Nat} {files : FileTree} {a : Attempt}
  {screenshots : List Screenshot} {crashLog : List String} {r : Attempt × Extraction.Writing}

/-- An attempt leaves what its plan leaves. -/
theorem exists_plan_of_extract (h : x.extract files iteration a screenshots crashLog = .ok r) :
    ∃ steps stats, x.plan iteration a screenshots crashLog = .ok (steps, stats) ∧
      r.1 = { a with
        messages := []
        artifacts := (x.performAll iteration { files } steps).recorded
        imageStats := stats } := by
  rw [extract_eq] at h
  obtain ⟨⟨steps, stats⟩, hplan, rfl⟩ := Answer.map_eq_ok_iff.mp h
  exact ⟨steps, stats, hplan, rfl⟩

theorem extract_name (h : x.extract files iteration a screenshots crashLog = .ok r) :
    r.1.name = a.name := by
  obtain ⟨steps, stats, -, hleft⟩ := exists_plan_of_extract h
  rw [hleft]

end

/-! ## What is recorded -/

/-- The recorded artifacts with that of a step. -/
def record (m : Artifact.Map) : Write → Artifact.Map
  | .artifact id subpath _ => m.add id (x.store.recorded iteration subpath)
  | .baseline .. | .note _ => m

/-- The recorded artifacts with those of several steps. -/
def recordAll (m : Artifact.Map) (steps : List Write) : Artifact.Map :=
  steps.foldl (x.record iteration) m

/-- A step that writes an artifact succeeds. -/
def Writable (w : Writing) : Write → Bool
  | .artifact id subpath contents =>
    (x.store.create iteration w.files w.recorded id subpath contents).2.isOk
  | .baseline .. | .note _ => true

/-- All steps that write artifacts succeed. -/
def Writes : Writing → List Write → Prop
  | _, [] => True
  | w, s :: steps => x.Writable iteration w s = true ∧ Writes (x.perform iteration w s) steps

instance : ∀ w steps, Decidable (x.Writes iteration w steps)
  | _, [] => .isTrue trivial
  | w, s :: steps => @instDecidableAnd _ (x.Writes iteration (x.perform iteration w s) steps) _
      (instDecidableWrites (x.perform iteration w s) steps)

theorem create_recorded {w : Writing} {id subpath : String} {contents : ByteArray}
    {m : Artifact.Map}
    (h : (x.store.create iteration w.files w.recorded id subpath contents).2 = .ok m) :
    (x.create iteration id subpath contents w).recorded = m := by
  unfold create
  split
  · rename_i hcreate
    rw [hcreate] at h
    exact Except.ok.inj h
  · rename_i hcreate
    rw [hcreate] at h
    cases h

theorem store_create_eq_ok {s : Artifact.Store} {t : FileTree} {m m' : Artifact.Map}
    {id subpath : String} {contents : ByteArray}
    (h : (s.create iteration t m id subpath contents).2 = .ok m') :
    m' = m.add id (s.recorded iteration subpath) := by
  rw [Artifact.Store.create] at h
  dsimp only at h
  obtain ⟨u, -, rfl⟩ := Answer.map_eq_ok_iff.mp h
  rfl

theorem reset_recorded (test subpath text : String) (w : Writing) :
    (x.reset test subpath text w).recorded = w.recorded := by
  unfold reset
  split <;> rfl

theorem perform_recorded {w : Writing} {s : Write} (h : x.Writable iteration w s = true) :
    (x.perform iteration w s).recorded = x.record iteration w.recorded s := by
  cases s with
  | artifact id subpath contents =>
    rw [Writable] at h
    cases hm : (x.store.create iteration w.files w.recorded id subpath contents).2 with
    | error e =>
      rw [hm] at h
      cases h
    | ok m =>
      rw [perform, record, x.create_recorded iteration hm, store_create_eq_ok iteration hm]
  | baseline test subpath text => exact x.reset_recorded test subpath text w
  | note log => rfl

/-- **What is recorded once every artifact of a plan is written** follows from the plan. -/
theorem performAll_recorded {w : Writing} {steps : List Write} (h : x.Writes iteration w steps) :
    (x.performAll iteration w steps).recorded = x.recordAll iteration w.recorded steps := by
  induction steps generalizing w with
  | nil => rfl
  | cons s steps ih =>
    have hrest := ih h.2
    rw [x.perform_recorded iteration h.1] at hrest
    exact hrest

/-! ## The output of crashed browsers -/

/-- An attempt without the output of crashed browsers. -/
def withoutCrashLog (a : Attempt) : Attempt :=
  { a with artifacts := ⟨Keyed.erase "crash_log" a.artifacts.entries⟩ }

/-- The attempt with all its artifacts but the output of crashed browsers, if these have names. -/
def settled (a : Attempt) (screenshots : List Screenshot) : Except TestName.Unnameable Attempt :=
  (x.ownSteps iteration a screenshots).map fun t ↦
    withoutCrashLog { a with
      messages := [], artifacts := x.recordAll iteration {} t.1, imageStats := t.2 }

/-- The artifacts of an attempt have names, and all of them are written. -/
def Stores (files : FileTree) (a : Attempt) (screenshots : List Screenshot)
    (crashLog : List String) : Prop :=
  ∃ t ∈ (x.plan iteration a screenshots crashLog).toOption, x.Writes iteration { files } t.1

instance (files : FileTree) (a : Attempt) (screenshots : List Screenshot)
    (crashLog : List String) : Decidable (x.Stores iteration files a screenshots crashLog) :=
  inferInstanceAs (Decidable (∃ t ∈ (x.plan iteration a screenshots crashLog).toOption, _))

theorem erase_recordAll_logSteps {test suffix : String} {lines : List String} {steps : List Write}
    (h : logSteps test "crash_log" suffix lines = .ok steps) (m : Artifact.Map) :
    Keyed.erase "crash_log" (x.recordAll iteration m steps).entries =
      Keyed.erase "crash_log" m.entries := by
  rw [logSteps] at h
  split at h
  · obtain rfl := Except.ok.inj h
    rfl
  · obtain ⟨path, -, rfl⟩ := Answer.map_eq_ok_iff.mp h
    exact Keyed.erase_insert _ _ _

/-- A plan that is made is that of the attempt itself, and then the crash log. -/
theorem exists_of_plan {a : Attempt} {screenshots : List Screenshot} {crashLog : List String}
    {steps : List Write} {stats : Option ImageStats}
    (h : x.plan iteration a screenshots crashLog = .ok (steps, stats)) :
    ∃ own crash, x.ownSteps iteration a screenshots = .ok (own, stats) ∧
      logSteps a.name "crash_log" "-crash-log" crashLog = .ok crash ∧ steps = own ++ crash := by
  obtain ⟨⟨own, stats'⟩, hown, h⟩ := Answer.bind_eq_ok_iff.mp h
  obtain ⟨crash, hcrash, h⟩ := Answer.bind_eq_ok_iff.mp h
  obtain ⟨rfl, rfl⟩ := Prod.mk.inj (Except.ok.inj h)
  exact ⟨own, crash, hown, hcrash, rfl⟩

/-- **What an attempt leaves once all its artifacts are written.** -/
theorem extract_eq_of_stores {files : FileTree} {a : Attempt} {screenshots : List Screenshot}
    {crashLog : List String} (h : x.Stores iteration files a screenshots crashLog) :
    ∃ steps stats, x.plan iteration a screenshots crashLog = .ok (steps, stats) ∧
      x.Writes iteration { files } steps ∧
      x.extract files iteration a screenshots crashLog =
        .ok ({ a with
            messages := [], artifacts := x.recordAll iteration {} steps, imageStats := stats },
          x.performAll iteration { files } steps) := by
  obtain ⟨⟨steps, stats⟩, hplan, hwrites⟩ := h
  have hplan := Answer.toOption_eq_some_iff.mp hplan
  have hrecorded := x.performAll_recorded iteration hwrites
  refine ⟨steps, stats, hplan, hwrites, ?_⟩
  rw [extract_eq, hplan, ← hrecorded]
  rfl

/-- **Whatever crashed browsers wrote**, an attempt whose artifacts are written is the same but for
that output. -/
theorem extract_of_stores {files : FileTree} {a : Attempt} {screenshots : List Screenshot}
    {crashLog : List String} (h : x.Stores iteration files a screenshots crashLog) :
    ∃ kept w, x.extract files iteration a screenshots crashLog = .ok (kept, w) ∧
      x.settled iteration a screenshots = .ok (withoutCrashLog kept) := by
  obtain ⟨steps, stats, hplan, -, hextract⟩ := x.extract_eq_of_stores iteration h
  refine ⟨_, _, hextract, ?_⟩
  -- The output of crashed browsers comes last, so all else is recorded without it.
  obtain ⟨own, crash, hown, hcrash, rfl⟩ := x.exists_of_plan iteration hplan
  have hsplit : x.recordAll iteration {} (own ++ crash) =
      x.recordAll iteration (x.recordAll iteration {} own) crash := List.foldl_append
  rw [settled, hown, Except.map, hsplit]
  simp only [withoutCrashLog, x.erase_recordAll_logSteps iteration hcrash]

end WebTestRun.Extraction
