import WebTestRun.Proofs.Artifact.Place
import WebTestRun.Proofs.Processor.CrashLog

/-!
# Artifacts of different attempts

Artifacts lie below a directory of the iteration in which their attempt ended, under the stem of
its test. So attempts of different iterations, or at tests with different stems, share no recorded
path, and what one of them wrote stays until another writes to the same place.

* `Processor.Deposit` — an attempt that was kept, and what was written for it.
* `Attempt.Records` — a path is recorded for an attempt, `Deposit.Overwrites` — something is written
  to the place that a path leads to.
* `Deposit.meets_of_records`, `Deposit.meets_of_overwrites` — attempts that share a file are of one
  iteration and one stem.
* `deposits_cases` — what one event writes, and `read_run` — a file stays as it is until something
  is written to its place.
* `artifacts_kept_apart` — all of it, for the attempts of a run.
-/

set_option autoImplicit false

namespace WebTestRun

open Extraction (kinds)

/-- A path is recorded for an attempt. -/
def Attempt.Records (a : Attempt) (path : String) : Prop := ∃ id, path ∈ a.artifacts.paths id

namespace Processor

variable {p : Processor} {s : State} {e : Event}

/-- An attempt that was kept, and what was written for it. -/
structure Deposit where
  /-- The iteration in which it ended. -/
  iteration : Nat
  /-- The attempt. -/
  attempt : Attempt
  /-- The steps to its artifacts. -/
  steps : List Extraction.Write

/-- The steps to the artifacts of the attempt that ends with an event. -/
def steps (p : Processor) (s : State) (e : Event) : List Extraction.Write :=
  ((ending? s e).bind fun ended ↦
    (p.extraction.plan s.iteration ended.1 ended.2 s.crashLog).toOption.map (·.1)).getD []

/-- The attempt that is kept with an event, and what is written for it. -/
def deposits (p : Processor) (s : State) (e : Event) : List Deposit :=
  (p.result? s e).toList.map fun a ↦ ⟨s.iteration, a, p.steps s e⟩

namespace Deposit

/-- Some contents are written to the place that a path leads to, seen from a working directory. -/
def Wrote (x : Extraction) (here : List String) (d : Deposit) (path : String)
    (contents : ByteArray) : Prop :=
  ∃ s ∈ d.steps, s.PutsAt x d.iteration here path contents

/-- Something is written to the place that a path leads to. -/
def Overwrites (x : Extraction) (here : List String) (d : Deposit) (path : String) : Prop :=
  ∃ contents, d.Wrote x here path contents

/-- A baseline is reset at the place that a path leads to. -/
def ResetsAt (x : Extraction) (here : List String) (d : Deposit) (path : String) : Prop :=
  ∃ test subpath text, .baseline test subpath text ∈ d.steps ∧
    Path.place here (Path.join x.layout.versionDir subpath) = Path.place here path

/-- Two attempts are of one iteration, and of tests whose files have one stem. -/
def Meets (d d' : Deposit) : Prop :=
  d.iteration = d'.iteration ∧
    TestName.fileStem d.attempt.name = TestName.fileStem d'.attempt.name

/-- A path is recorded for a file of the test, and the file lies at another path. -/
def LiesAt (x : Extraction) (d : Deposit) (path file : String) : Prop :=
  ∃ k ∈ kinds, ∃ subpath, k.path d.attempt.name = .ok subpath ∧
    path = x.store.recorded d.iteration subpath ∧ file = x.store.file d.iteration subpath

/-- What holds of an attempt that was kept and of what was written for it. -/
structure Sound (x : Extraction) (d : Deposit) : Prop where
  /-- It is an attempt at a test that the runner named. -/
  named : ∃ test : TestId, d.attempt.name = test.name
  /-- The steps are about files of the test. -/
  fits : Extraction.AllFit kinds d.attempt.name d.steps
  /-- What is recorded are the artifacts that the steps wrote. -/
  artifacts : d.attempt.artifacts = x.recordAll d.iteration {} d.steps

variable {x : Extraction} {d d' : Deposit} {path : String}

/-- What is recorded for an attempt is the path of a file of its test. -/
theorem Sound.exists_of_records (h : d.Sound x) (hrecords : d.attempt.Records path) :
    ∃ k ∈ kinds, ∃ subpath contents, .artifact k.id subpath contents ∈ d.steps ∧
      k.path d.attempt.name = .ok subpath ∧ path = x.store.recorded d.iteration subpath := by
  obtain ⟨id, hpath⟩ := hrecords
  rw [h.artifacts] at hpath
  rcases (x.mem_paths_recordAll d.iteration).mp hpath with
    hnone | ⟨subpath, contents, hstep, rfl⟩
  · cases hnone
  · obtain ⟨k, hk, rfl, hsubpath⟩ := h.fits _ hstep
    exact ⟨k, hk, subpath, contents, hstep, hsubpath, rfl⟩

theorem Sound.startsAsTest (h : d.Sound x) {k : Extraction.FileKind} {subpath : String}
    (hpath : k.path d.attempt.name = .ok subpath) : Artifact.Store.StartsAsTest subpath := by
  obtain ⟨test, hname⟩ := h.named
  rw [hname] at hpath
  exact Extraction.FileKind.startsAsTest hpath

/-- **Attempts that share a recorded path** are of one iteration, and of tests with one stem. -/
theorem meets_of_records (h : d.Sound x) (h' : d'.Sound x) (hrecords : d.attempt.Records path)
    (hrecords' : d'.attempt.Records path) : d.Meets d' := by
  obtain ⟨k, hk, subpath, -, -, hpath, hrecorded⟩ := h.exists_of_records hrecords
  obtain ⟨k', hk', subpath', -, -, hpath', hrecorded'⟩ := h'.exists_of_records hrecords'
  obtain ⟨hiteration, rfl⟩ := Artifact.Store.recorded_injective (h.startsAsTest hpath)
    (h'.startsAsTest hpath') (hrecorded.symm.trans hrecorded')
  exact ⟨hiteration, (Extraction.stem_of_path_eq hk hk' hpath hpath').2⟩

/-- **An attempt that writes to the place of an artifact** is of the same iteration and of a test
with the same stem, if the files of both tests have plain paths. Else it resets a baseline there,
and the directories of artifacts and of new baselines lie in each other. -/
theorem meets_of_overwrites (h : d.Sound x) (h' : d'.Sound x) {here : List String} {file : String}
    (hlies : d.LiesAt x path file) (hplain : TestName.Plain d.attempt.name)
    (hplain' : TestName.Plain d'.attempt.name) (hover : d'.Overwrites x here file) :
    d.Meets d' ∨
      (d'.ResetsAt x here file ∧ Path.Nested here x.store.dir x.layout.versionDir) := by
  obtain ⟨k, hk, subpath, hpath, -, rfl⟩ := hlies
  obtain ⟨contents, step, hstep, f, hf, hplace, -⟩ := hover
  have hstart := h.startsAsTest hpath
  have hnames := Extraction.FileKind.path_plain hk hpath hplain
  cases step with
  | note log => cases hf
  | artifact id subpath' contents' =>
    obtain rfl := Option.some.inj hf
    obtain ⟨k', hk', -, hpath'⟩ := h'.fits _ hstep
    obtain ⟨hiteration, rfl⟩ := Artifact.Store.file_place hstart (h'.startsAsTest hpath') hnames
      (Extraction.FileKind.path_plain hk' hpath' hplain') hplace.symm
    exact .inl ⟨hiteration, (Extraction.stem_of_path_eq hk hk' hpath hpath').2⟩
  | baseline test subpath' text =>
    obtain rfl := Option.some.inj hf
    obtain ⟨k', hk', hpath'⟩ := h'.fits _ hstep
    exact .inr ⟨⟨test, subpath', text, hstep, hplace⟩,
      Artifact.Store.nested_of_place hstart (h'.startsAsTest hpath') hnames.descends
        (Extraction.FileKind.path_plain hk' hpath' hplain').descends hplace.symm⟩

end Deposit

/-! ## One event -/

/-- The steps for an attempt that ends are those of its plan. -/
theorem steps_of_plan {ended : Attempt × List Screenshot} (hending : ending? s e = some ended)
    {steps : List Extraction.Write} {stats : Option ImageStats}
    (hplan : p.extraction.plan s.iteration ended.1 ended.2 s.crashLog = .ok (steps, stats)) :
    p.steps s e = steps := by
  rw [Processor.steps, hending, Option.bind_some, hplan]
  rfl

/-- **What is written for an attempt that ends.** -/
theorem Ends.exists_deposit {ended : Attempt × List Screenshot} {kept : Attempt}
    {w : Extraction.Writing} {after : State} (h : Ends p s e after ended kept w)
    (hfiled : s.Filed) (hsaves : p.Saves s e) :
    ∃ d : Deposit, p.deposits s e = [d] ∧ d.iteration = s.iteration ∧ d.Sound p.extraction ∧
      p.extraction.Writes s.iteration { files := s.files } d.steps ∧
      after.files = (p.extraction.performAll s.iteration { files := s.files } d.steps).files := by
  obtain ⟨test, report, running, judged, -, -, hrunning, hfinish⟩ := exists_of_ending? h.ending
  obtain ⟨steps, stats, hplan, hwrites, hextract⟩ :=
    p.extraction.extract_eq_of_stores s.iteration (hsaves ended h.ending)
  obtain ⟨hkept, hfiles⟩ := Prod.mk.inj (Except.ok.inj (h.extract.symm.trans hextract))
  refine ⟨⟨s.iteration, kept, steps⟩, ?_, rfl, ⟨⟨test, ?_⟩, ?_, ?_⟩, hwrites, ?_⟩
  · rw [deposits, h.result, steps_of_plan h.ending hplan]
    rfl
  · rw [hkept]
    exact (Attempt.Running.finish_name hfinish).trans (hfiled _ _ hrunning)
  · rw [hkept]
    exact p.extraction.plan_fits s.iteration ended.1 ended.2 s.crashLog _ hplan
  · rw [hkept]
  · rw [h.files, hfiles]

/-- **What is written with an event**: nothing, or what is written for the attempt that ends. -/
theorem deposits_cases (hfiled : s.Filed) (h : p.GoesWell s e) :
    (p.deposits s e = [] ∧ (p.step s e).state.files = s.files) ∨
    ∃ d : Deposit, p.deposits s e = [d] ∧ d.iteration = s.iteration ∧ d.Sound p.extraction ∧
      p.extraction.Writes s.iteration { files := s.files } d.steps ∧
      (p.step s e).state.files =
        (p.extraction.performAll s.iteration { files := s.files } d.steps).files := by
  obtain ⟨hgoes, hsaves⟩ := h
  rcases quiet_or_ends hgoes with ⟨-, hresult, hquiet⟩ | ⟨ended, kept, w, -, hends⟩
  · refine .inl ⟨?_, hquiet.files⟩
    rw [deposits, hresult]
    rfl
  · exact .inr (hends.exists_deposit hfiled hsaves)

theorem written_of_mem_step (hfiled : s.Filed) (h : p.GoesWell s e) {d : Deposit}
    (hd : d ∈ p.deposits s e) :
    d.iteration = s.iteration ∧ d.Sound p.extraction ∧
      p.extraction.Writes s.iteration { files := s.files } d.steps ∧
      (p.step s e).state.files =
        (p.extraction.performAll s.iteration { files := s.files } d.steps).files := by
  rcases deposits_cases hfiled h with ⟨hnone, -⟩ | ⟨d', hone, hwritten⟩
  · rw [hnone] at hd
    exact absurd hd List.not_mem_nil
  · rw [hone, List.mem_singleton] at hd
    exact hd ▸ hwritten

/-- An event leads to no other working directory. -/
theorem here_step (hfiled : s.Filed) (h : p.GoesWell s e) :
    (p.step s e).state.files.here = s.files.here := by
  rcases deposits_cases hfiled h with ⟨-, hsame⟩ | ⟨d, -, -, -, -, hfiles⟩
  · rw [hsame]
  · rw [hfiles, Extraction.performAll_here]

theorem sound_of_mem_step (hfiled : s.Filed) (h : p.GoesWell s e) {d : Deposit}
    (hd : d ∈ p.deposits s e) : d.Sound p.extraction :=
  (written_of_mem_step hfiled h hd).2.1

/-- **What is recorded for an attempt can be read right after it**, and the attempt wrote it. -/
theorem read_of_records (hfiled : s.Filed) (h : p.GoesWell s e) {d : Deposit}
    (hd : d ∈ p.deposits s e) {path : String} (hrecords : d.attempt.Records path) :
    ∃ file contents, d.LiesAt p.extraction path file ∧
      d.Wrote p.extraction s.files.here file contents ∧
      (p.step s e).state.files.read file = .ok contents := by
  obtain ⟨hiteration, hsound, hwrites, hfiles⟩ := written_of_mem_step hfiled h hd
  obtain ⟨k, hk, subpath, contents, hartifact, hpath, hrecorded⟩ :=
    hsound.exists_of_records hrecords
  obtain ⟨step, hstep, contents, hputs, hread⟩ := Extraction.read_of_writes _ _ hwrites hartifact
  rw [← hfiles, ← hiteration] at hread
  rw [← hiteration] at hputs
  exact ⟨_, contents, ⟨k, hk, subpath, hpath, hrecorded, rfl⟩, ⟨step, hstep, hputs⟩, hread⟩

/-- A file that can be read stays as it is with an event that writes nothing to its place. -/
theorem read_step (hfiled : s.Filed) (h : p.GoesWell s e) {path : String} {contents : ByteArray}
    (hread : s.files.read path = .ok contents)
    (hspared : ∀ d ∈ p.deposits s e, ¬ d.Overwrites p.extraction s.files.here path) :
    (p.step s e).state.files.read path = .ok contents := by
  rcases deposits_cases hfiled h with ⟨-, hsame⟩ | ⟨d, hone, hiteration, -, -, hfiles⟩
  · rw [hsame]
    exact hread
  · rw [hone, List.forall_mem_singleton] at hspared
    rw [hfiles]
    rcases p.extraction.read_performAll (w := { files := s.files }) s.iteration hread d.steps with
      hsame | ⟨step, hstep, other, hputs, -⟩
    · exact hsame
    · rw [← hiteration] at hputs
      exact absurd ⟨other, step, hstep, hputs⟩ hspared

/-! ## Runs -/

theorem sound_of_mem_run (hfiled : s.Filed) {events : List Event}
    (h : p.Along p.GoesWell s events) :
    ∀ d ∈ p.collect p.deposits s events, d.Sound p.extraction := by
  induction events generalizing s with
  | nil => exact List.forall_mem_nil _
  | cons e rest ih =>
    exact List.forall_mem_append.mpr
      ⟨fun _ ↦ sound_of_mem_step hfiled h.1, ih (hfiled.step e) h.2⟩

theorem here_run (hfiled : s.Filed) {events : List Event} (h : p.Along p.GoesWell s events) :
    (p.run s events).files.here = s.files.here := by
  induction events generalizing s with
  | nil => rfl
  | cons e rest ih => exact (ih (hfiled.step e) h.2).trans (here_step hfiled h.1)

/-- **A file stays as it is** until something is written to its place. -/
theorem read_run (hfiled : s.Filed) {events : List Event} (h : p.Along p.GoesWell s events)
    {path : String} {contents : ByteArray} (hread : s.files.read path = .ok contents)
    (hspared : ∀ d ∈ p.collect p.deposits s events,
      ¬ d.Overwrites p.extraction s.files.here path) :
    (p.run s events).files.read path = .ok contents := by
  induction events generalizing s with
  | nil => exact hread
  | cons e rest ih =>
    obtain ⟨hnow, hlater⟩ := List.forall_mem_append.mp hspared
    exact ih (hfiled.step e) h.2 (read_step hfiled h.1 hread hnow)
      (here_step hfiled h.1 ▸ hlater)

theorem attempts_of_deposits (p : Processor) (s : State) (events : List Event) :
    (p.collect p.deposits s events).map (·.attempt) =
      p.collect (fun s e ↦ (p.result? s e).toList) s events := by
  induction events generalizing s with
  | nil => rfl
  | cons e rest ih =>
    rw [collect, collect, List.map_append, ih, deposits, List.map_map]
    exact congrArg (· ++ _) (List.map_id _)

/-- **Artifacts of different attempts are kept apart.** After a run that goes on and whose artifacts
are written, attempts of different iterations, or at tests with different stems, share no recorded
path. Right after an attempt every file that is recorded for it holds what the attempt wrote, and it
still does at the end of the run unless a later attempt writes to the same place. If the files of
both tests have plain paths, such a later attempt is of the same iteration and of a test with the
same stem; else it resets a baseline, and the directories of artifacts and of new baselines lie in
each other. -/
theorem artifacts_kept_apart (p : Processor) (t : FileTree) (c : Config) (events : List Event)
    (h : p.Along p.GoesWell (start t c) events) :
    let after := p.run (start t c) events
    let deposits := p.collect p.deposits (start t c) events
    (∀ n, after.history.attempts n = (deposits.map (·.attempt)).filter fun a ↦ a.name = n) ∧
    (∀ d ∈ deposits, ∀ d' ∈ deposits, ¬ d.Meets d' →
      ∀ path, d.attempt.Records path → ¬ d'.attempt.Records path) ∧
    ∀ before e rest, events = before ++ e :: rest →
      let was := p.run (start t c) before
      let now := (p.step was e).state
      let later := p.collect p.deposits now rest
      ∀ d ∈ p.deposits was e, ∀ path, d.attempt.Records path →
        ∃ file contents, d.LiesAt p.extraction path file ∧
          d.Wrote p.extraction t.here file contents ∧ now.files.read file = .ok contents ∧
          ((∀ d' ∈ later, ¬ d'.Overwrites p.extraction t.here file) →
            after.files.read file = .ok contents) ∧
          ∀ d' ∈ later, d'.Overwrites p.extraction t.here file →
            TestName.Plain d.attempt.name → TestName.Plain d'.attempt.name →
            d.Meets d' ∨ (d'.ResetsAt p.extraction t.here file ∧
              Path.Nested t.here p.extraction.store.dir p.extraction.layout.versionDir) := by
  intro after deposits
  have hfiled := start_filed t c
  have hsound := sound_of_mem_run hfiled h
  refine ⟨fun n ↦ ?_, fun d hd d' hd' hne path hrecords hrecords' ↦ ?_, ?_⟩
  · rw [attempts_of_deposits]
    exact (account_run hfiled (along_mono (fun _ _ ↦ And.left) h)).attempts n
  · exact hne (Deposit.meets_of_records (hsound d hd) (hsound d' hd') hrecords hrecords')
  · intro before e rest hevents was now later d hd path hrecords
    have halong : p.Along p.GoesWell (start t c) (before ++ e :: rest) := hevents ▸ h
    obtain ⟨hbefore, hnow, hrest⟩ := along_append.mp halong
    have hfiledWas : was.Filed := hfiled.run before
    have hfiledNow : now.Filed := hfiledWas.step e
    have hhereWas : was.files.here = t.here := here_run hfiled hbefore
    have hhereNow : now.files.here = t.here := (here_step hfiledWas hnow).trans hhereWas
    obtain ⟨file, contents, hlies, hwrote, hread⟩ := read_of_records hfiledWas hnow hd hrecords
    refine ⟨file, contents, hlies, hhereWas ▸ hwrote, hread, fun hspared ↦ ?_,
      fun d' hd' hover hplain hplain' ↦ ?_⟩
    · have hafter : after = p.run now rest :=
        (congrArg _ hevents).trans (run_append p _ before (e :: rest))
      rw [hafter]
      exact read_run hfiledNow hrest hread (hhereNow ▸ hspared)
    · exact Deposit.meets_of_overwrites (sound_of_mem_step hfiledWas hnow hd)
        (sound_of_mem_run hfiledNow hrest d' hd') hlies hplain hplain' hover

/-- The sample with another directory of artifacts. -/
def sampleIn (dir : String) : Processor :=
  { sample with extraction := { sample.extraction with store := ⟨dir⟩ } }

/-- The artifacts lie below the root, and the tests below the working directory. -/
theorem artifacts_kept_apart_sample :
    let p := sampleIn "/d/out"
    let s := start { here := ["c"] } {}
    ∃ d d', p.collect p.deposits s sampleEvents = [d, d'] ∧
      d.attempt.Records "out/external/wpt/b-crash-log.txt" ∧
      ¬ d'.attempt.Records "out/external/wpt/b-crash-log.txt" ∧
      ∃ file contents, d.LiesAt p.extraction "out/external/wpt/b-crash-log.txt" file ∧
        d.Wrote p.extraction ["c"] file contents ∧
        (p.run s sampleEvents).files.read file = .ok contents := by
  intro p s
  let before := sampleEvents.take 3
  let e : Event := { time := 5, action := .testEnd ⟨"b", none⟩ { status := "PASS" } [] }
  let rest := sampleEvents.drop 4
  let was := p.run s before
  let now := (p.step was e).state
  have hseen : p.Along p.GoesWell s sampleEvents ∧
      (p.collect p.deposits s before).length = 0 ∧
      (p.deposits was e).map (fun d ↦ (d.attempt.name, d.attempt.artifacts.paths "crash_log")) =
        [("external/wpt/b", ["out/external/wpt/b-crash-log.txt"])] ∧
      (p.collect p.deposits now rest).map (·.attempt.name) = ["external/wpt/a"] := by
    decide +kernel
  obtain ⟨hwell, hbefore, hnow, hlater⟩ := hseen
  obtain ⟨d, hd, hshown⟩ := List.map_eq_singleton_iff.mp hnow
  obtain ⟨d', hd', hname'⟩ := List.map_eq_singleton_iff.mp hlater
  obtain ⟨hname, hpaths⟩ := Prod.mk.inj hshown
  have hdeposits : p.collect p.deposits s sampleEvents = [d, d'] := by
    rw [show sampleEvents = before ++ e :: rest from rfl, collect_append,
      List.length_eq_zero_iff.mp hbefore, collect, List.nil_append, hd, hd', List.singleton_append]
  have hrecords : d.attempt.Records "out/external/wpt/b-crash-log.txt" :=
    ⟨"crash_log", hpaths ▸ List.mem_cons_self⟩
  have hapart : ¬ d.Meets d' := by
    rw [Deposit.Meets, hname, hname']
    exact fun hmeets ↦ absurd hmeets.2 (by decide +kernel)
  have hplain : TestName.Plain "external/wpt/b" ∧ TestName.Plain "external/wpt/a" := by
    decide +kernel
  obtain ⟨-, hshare, hstays⟩ := artifacts_kept_apart p { here := ["c"] } {} sampleEvents hwell
  obtain ⟨file, contents, hlies, hwrote, -, hspared, hover⟩ :=
    hstays before e rest rfl d (hd ▸ List.mem_singleton_self d) _ hrecords
  refine ⟨d, d', hdeposits, hrecords, ?_, file, contents, hlies, hwrote, hspared ?_⟩
  · rw [hdeposits] at hshare
    exact hshare d List.mem_cons_self d' (List.mem_cons_of_mem d List.mem_cons_self) hapart _
      hrecords
  · intro later hlater hoverwrites
    obtain rfl := List.mem_singleton.mp (hd' ▸ hlater)
    rcases hover later hlater hoverwrites (hname ▸ hplain.1) (hname' ▸ hplain.2) with
      hmeets | ⟨-, hnested⟩
    · exact hapart hmeets
    · exact absurd hnested (by decide +kernel)

/-- Two tests crash, one after the other, and say something. -/
def crashes (first second : String) : List Event :=
  [{ action := .testStart ⟨first, none⟩ },
   { action := .testEnd ⟨first, none⟩ { status := "CRASH", message := some "m" } [] },
   { action := .testStart ⟨second, none⟩ },
   { action := .testEnd ⟨second, none⟩ { status := "CRASH", message := some "n" } [] }]

/-- Attempts at tests with one stem, and several attempts at one test, share a recorded path. An
attempt at a test with another stem overwrites a file whose path leads to the same place. -/
theorem artifacts_shared :
    (∀ test ∈ ["a.html", "a.htm"],
      sample.Along sample.GoesWell (start {} {}) (crashes test "a.htm") ∧
      ¬ (sample.collect sample.deposits (start {} {}) (crashes test "a.htm")).Pairwise
        fun d d' ↦ ∀ path, d.attempt.Records path → ¬ d'.attempt.Records path) ∧
    TestName.fileStem "external/wpt/b//a" ≠ TestName.fileStem "external/wpt/b/a" ∧
    sample.Along sample.GoesWell (start {} {}) (crashes "b//a" "b/a") ∧
    (sample.collect sample.deposits (start {} {}) (crashes "b//a" "b/a")).map
      (fun d ↦ (d.attempt.name, d.attempt.artifacts.paths "stderr")) =
        [("external/wpt/b//a", ["out/external/wpt/b//a-stderr.txt"]),
          ("external/wpt/b/a", ["out/external/wpt/b/a-stderr.txt"])] ∧
    ((sample.run (start {} {}) ((crashes "b//a" "b/a").take 2)).files.read
      "out/external/wpt/b//a-stderr.txt").toOption = some "Harness: m\n".toUTF8 ∧
    ((sample.run (start {} {}) (crashes "b//a" "b/a")).files.read
      "out/external/wpt/b//a-stderr.txt").toOption = some "Harness: n\n".toUTF8 := by
  refine ⟨fun test htest ↦ ?_, by decide +kernel⟩
  have hseen : ∀ test ∈ ["a.html", "a.htm"],
      sample.Along sample.GoesWell (start {} {}) (crashes test "a.htm") ∧
      (sample.collect sample.deposits (start {} {}) (crashes test "a.htm")).map
        (·.attempt.artifacts.paths "stderr") =
          [["out/external/wpt/a-stderr.txt"], ["out/external/wpt/a-stderr.txt"]] := by
    decide +kernel
  obtain ⟨halong, hpaths⟩ := hseen test htest
  refine ⟨halong, fun hapart ↦ ?_⟩
  have hpairs : ([["out/external/wpt/a-stderr.txt"], ["out/external/wpt/a-stderr.txt"]]).Pairwise
      fun paths paths' ↦ ∀ path ∈ paths, path ∉ paths' := by
    rw [← hpaths, List.pairwise_map]
    exact hapart.imp fun h path hpath hpath' ↦ h path ⟨"stderr", hpath⟩ ⟨"stderr", hpath'⟩
  revert hpairs
  decide

end Processor

end WebTestRun
