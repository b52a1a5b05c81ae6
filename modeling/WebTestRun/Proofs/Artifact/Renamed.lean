import WebTestRun.Proofs.Artifact.Plan
import WebTestRun.Proofs.Attempt.Reports

/-!
# An attempt under another name

The name of a test decides where the files of an attempt lie. Which files there are follows from
what the attempt did, and from which of its screenshots show the test itself. So attempts at two
tests with one URL leave artifacts of the same kinds.

* `Extraction.SameIds` — steps of two plans write artifacts of the same kinds, and
  `ids_recordAll_congr` that the same kinds are recorded then.
* `Extraction.plan_named` — the plans of one attempt under two names have such steps.
* `Attempt.Alike` — two attempts differ in their names and in where their artifacts lie.
* `Extraction.extract_named` — an attempt under two names leaves attempts that are alike.
-/

set_option autoImplicit false

namespace WebTestRun

/-- Of two attempts, the second is at a test of another name and its artifacts lie elsewhere. In
all else they agree, and artifacts of the same kinds are recorded for both. -/
structure Attempt.Alike (name : String) (a a' : Attempt) : Prop where
  /-- Only the name and the paths of artifacts differ. -/
  same : a' = { a with name, artifacts := a'.artifacts }
  /-- Artifacts of the same kinds are recorded. -/
  ids : a'.artifacts.ids = a.artifacts.ids

namespace Extraction

open Answer (Both)

variable (x : Extraction) (iteration : Nat)

/-! ## Kinds of artifacts -/

/-- What the artifact of a step is recorded as. -/
def Write.id? : Write → Option String
  | .artifact id _ _ => some id
  | .baseline .. | .note _ => none

/-- Steps that, one by one, write artifacts of the same kinds. -/
def SameIds (steps steps' : List Write) : Prop := steps.map Write.id? = steps'.map Write.id?

theorem SameIds.append {steps steps' more more' : List Write} (h : SameIds steps steps')
    (hmore : SameIds more more') : SameIds (steps ++ more) (steps' ++ more') := by
  rw [SameIds, List.map_append, List.map_append, h, hmore]

theorem ids_record_congr {s s' : Write} (hs : s.id? = s'.id?) {m m' : Artifact.Map}
    (hm : m.ids = m'.ids) : (x.record iteration m s).ids = (x.record iteration m' s').ids := by
  cases s with
  | artifact id subpath contents =>
    cases s' with
    | artifact id' subpath' contents' =>
      obtain rfl : id = id' := Option.some.inj hs
      exact Keyed.keys_insert_congr id _ _ hm
    | baseline => cases hs
    | note => cases hs
  | baseline =>
    cases s' with
    | artifact => cases hs
    | baseline => exact hm
    | note => exact hm
  | note =>
    cases s' with
    | artifact => cases hs
    | baseline => exact hm
    | note => exact hm

/-- **What is recorded of steps depends on their kinds only.** -/
theorem ids_recordAll_congr {steps steps' : List Write} (h : SameIds steps steps')
    {m m' : Artifact.Map} (hm : m.ids = m'.ids) :
    (x.recordAll iteration m steps).ids = (x.recordAll iteration m' steps').ids := by
  induction steps generalizing steps' m m' with
  | nil =>
    rw [List.map_eq_nil_iff.mp h.symm]
    exact hm
  | cons s steps ih =>
    cases steps' with
    | nil => cases h
    | cons s' steps' =>
      obtain ⟨hs, hsteps⟩ := List.cons.inj h
      exact ih hsteps (x.ids_record_congr iteration hs hm)

/-! ## Plans -/

/-- Plans whose steps write artifacts of the same kinds, and that say the same of screenshots. -/
def SamePlan (t t' : List Write × Option ImageStats) : Prop := SameIds t.1 t'.1 ∧ t.2 = t'.2

theorem textSteps_named (a : Attempt) (name : String) :
    Both SameIds (x.textSteps iteration a) (x.textSteps iteration (a.named name)) := by
  refine (Both.any _ _).bind fun _ _ _ ↦ (Both.any _ _).bind fun _ _ _ ↦ ?_
  have hreset : x.shouldReset iteration (a.named name) = x.shouldReset iteration a := rfl
  have htext : (a.named name).baselineText = a.baselineText := rfl
  dsimp only
  rw [hreset, htext]
  cases a.baselineText with
  | none =>
    refine .ok ?_
    cases x.shouldReset iteration a <;> rfl
  | some text =>
    refine (Both.any _ _).bind fun _ _ _ ↦ (Both.any _ _).bind fun _ _ _ ↦ .ok ?_
    cases x.shouldReset iteration a <;> rfl

theorem shotStep_named {test test' : String} (hurl : urlOf test' = urlOf test)
    {s s' : Shots × List Write} (h : s.1 = s'.1 ∧ SameIds s.2 s'.2) (shot : Screenshot) :
    Both (fun t t' ↦ t.1 = t'.1 ∧ SameIds t.2 t'.2) (shotStep test s shot)
      (shotStep test' s' shot) := by
  obtain ⟨hshots, hsteps⟩ := h
  cases shot with
  | relation text => exact .ok ⟨hshots, hsteps⟩
  | image url data =>
    rw [shotStep, shotStep, hurl, hshots]
    cases Base64.decode? (String.ofList (Text.trim data.toList)) with
    | none => exact .ok ⟨rfl, hsteps.append rfl⟩
    | some bytes =>
      dsimp only
      split
      · exact (Both.any _ _).map fun _ _ _ ↦ ⟨rfl, hsteps.append rfl⟩
      · exact (Both.any _ _).map fun _ _ _ ↦ ⟨rfl, hsteps.append rfl⟩

theorem differenceSteps_named (test test' : String) (expected actual : ByteArray) :
    Both SamePlan (differenceSteps test expected actual)
      (differenceSteps test' expected actual) := by
  rw [differenceSteps, differenceSteps]
  split
  · exact .ok ⟨rfl, rfl⟩
  · exact (Both.any _ _).map fun _ _ _ ↦ ⟨rfl, rfl⟩
  · exact .ok ⟨rfl, rfl⟩

theorem shotSteps_named {test test' : String} (hurl : urlOf test' = urlOf test)
    (screenshots : List Screenshot) :
    Both SamePlan (shotSteps test screenshots) (shotSteps test' screenshots) := by
  refine (Both.foldlM (fun _ _ shot h ↦ shotStep_named hurl h shot) ⟨rfl, rfl⟩
    screenshots).bind fun t t' ht ↦ ?_
  obtain ⟨shots, steps⟩ := t
  obtain ⟨shots', steps'⟩ := t'
  obtain ⟨rfl, hsteps⟩ := ht
  dsimp only
  split
  · exact (differenceSteps_named test test' _ _).bind fun _ _ h ↦ .ok ⟨hsteps.append h.1, h.2⟩
  · exact .ok ⟨hsteps, rfl⟩

theorem logSteps_named (test test' id suffix : String) (lines : List String) :
    Both SameIds (logSteps test id suffix lines) (logSteps test' id suffix lines) := by
  rw [logSteps, logSteps]
  split
  · exact .ok rfl
  · exact (Both.any _ _).map fun _ _ _ ↦ rfl

theorem resultSteps_named {a : Attempt} {name : String} (hurl : urlOf name = urlOf a.name)
    (screenshots : List Screenshot) :
    Both SamePlan (x.resultSteps iteration a screenshots)
      (x.resultSteps iteration (a.named name) screenshots) := by
  have hverdict : (a.named name).verdict = a.verdict := rfl
  have hkind : (a.named name).kind = a.kind := rfl
  have hshots {texts texts' : Except TestName.Unnameable (List Write)}
      (htexts : Both SameIds texts texts') :
      Both SamePlan
        (texts.bind fun texts ↦ (shotSteps a.name screenshots).bind fun shots ↦
          .ok (texts ++ shots.1, shots.2))
        (texts'.bind fun texts ↦ (shotSteps name screenshots).bind fun shots ↦
          .ok (texts ++ shots.1, shots.2)) :=
    htexts.bind fun _ _ htexts ↦ (shotSteps_named hurl screenshots).bind fun _ _ hshots ↦
      .ok ⟨htexts.append hshots.1, hshots.2⟩
  rw [resultSteps, resultSteps, hverdict]
  split
  · dsimp only
    rw [hkind]
    split
    · exact hshots (x.textSteps_named iteration a name)
    · exact hshots (.ok rfl)
  · exact .ok ⟨rfl, rfl⟩

/-- **The plans of one attempt under two names** write artifacts of the same kinds, if the tests
have one URL. -/
theorem plan_named {a : Attempt} {name : String} (hurl : urlOf name = urlOf a.name)
    (screenshots : List Screenshot) (crashLog : List String) :
    Both SamePlan (x.plan iteration a screenshots crashLog)
      (x.plan iteration (a.named name) screenshots crashLog) := by
  have hown : Both SamePlan (x.ownSteps iteration a screenshots)
      (x.ownSteps iteration (a.named name) screenshots) :=
    (x.resultSteps_named iteration hurl screenshots).bind fun _ _ hresults ↦
      (logSteps_named _ _ _ _ _).bind fun _ _ hlog ↦ .ok ⟨hresults.1.append hlog, hresults.2⟩
  exact hown.bind fun _ _ hown ↦
    (logSteps_named _ _ _ _ _).bind fun _ _ hlog ↦ .ok ⟨hown.1.append hlog, hown.2⟩

/-- **An attempt under two names leaves attempts that are alike**, if the tests have one URL and all
artifacts are written. -/
theorem extract_named {files files' : FileTree} {a : Attempt} {name : String}
    (hurl : urlOf name = urlOf a.name) {screenshots : List Screenshot} {crashLog : List String}
    (h : x.Stores iteration files a screenshots crashLog)
    (h' : x.Stores iteration files' (a.named name) screenshots crashLog) :
    ∃ kept w kept' w', x.extract files iteration a screenshots crashLog = .ok (kept, w) ∧
      x.extract files' iteration (a.named name) screenshots crashLog = .ok (kept', w') ∧
      kept.Alike name kept' := by
  obtain ⟨steps, stats, hplan, -, hextract⟩ := x.extract_eq_of_stores iteration h
  obtain ⟨steps', stats', hplan', -, hextract'⟩ := x.extract_eq_of_stores iteration h'
  obtain ⟨hids, rfl⟩ := x.plan_named iteration hurl screenshots crashLog _ _ hplan hplan'
  exact ⟨_, _, _, _, hextract, hextract', rfl, (x.ids_recordAll_congr iteration hids rfl).symm⟩

end Extraction

end WebTestRun
