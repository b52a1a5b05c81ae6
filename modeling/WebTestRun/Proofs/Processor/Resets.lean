import WebTestRun.Proofs.Artifact.Reset
import WebTestRun.Proofs.Processor.Deposits
import WebTestRun.Proofs.Report.Numbers

/-!
# Baselines that a run resets

An attempt writes its artifacts, and it may reset the baseline of its test. So what a run leaves
where no artifact lies follows from the baselines that were reset, in order, and those are the ones
of the attempts before the end of the first suite: no retry resets one, and no attempt that crashed
or took too long.

* `Processor.GoesSmoothly` — every file that a run writes can be written.
* `holds_run` — a file holds what was put there last.
* `Processor.resets` — the attempts whose baselines are reset, `resets_run` — no others are.
* `baselines_reset` — what a run leaves, where baselines are reset and elsewhere, and
  `baseline_overwritten` — where a baseline does not stay.
-/

set_option autoImplicit false

namespace WebTestRun.Processor

variable {p : Processor} {s : State} {e : Event} {events : List Event} {path : String}

/-! ## What is put somewhere -/

/-- All files are written for the attempt that ends with an event, if one does. -/
def SavesAll (p : Processor) (s : State) (e : Event) : Prop :=
  ∀ ended ∈ ending? s e,
    ∃ t ∈ (p.extraction.plan s.iteration ended.1 ended.2 s.crashLog).toOption,
      p.extraction.AllSucceed s.iteration { files := s.files } t.1

/-- All files of every attempt are written, and the run goes on. -/
def GoesSmoothly (p : Processor) (s : State) (e : Event) : Prop := p.GoesOn s e ∧ p.SavesAll s e

instance (p : Processor) (s : State) (e : Event) : Decidable (p.GoesSmoothly s e) :=
  @instDecidableAnd _ _ _ (inferInstanceAs (Decidable (∀ ended ∈ ending? s e, _)))

theorem GoesSmoothly.goesWell (h : p.GoesSmoothly s e) : p.GoesWell s e := by
  refine ⟨h.1, fun ended hended ↦ ?_⟩
  obtain ⟨t, ht, hsucceed⟩ := h.2 ended hended
  exact ⟨t, ht, hsucceed.writes⟩

/-- What is put where a path leads to, for an attempt. -/
def Deposit.puts (x : Extraction) (here : List String) (path : String) (d : Deposit) :
    List ByteArray :=
  d.steps.filterMap (Extraction.Write.puts? x d.iteration here path)

/-- The steps of an attempt are those of its plan. -/
theorem exists_plan_of_mem {d : Deposit} (hd : d ∈ p.deposits s e) :
    ∃ ended stats, ending? s e = some ended ∧ d.iteration = s.iteration ∧
      p.extraction.plan s.iteration ended.1 ended.2 s.crashLog = .ok (d.steps, stats) ∧
      ∃ artifacts, d.attempt = { ended.1 with messages := [], artifacts, imageStats := stats } := by
  obtain ⟨kept, hkept, rfl⟩ := List.mem_map.mp hd
  obtain ⟨ended, w, hending, hextract⟩ := exists_of_result? (Option.mem_toList.mp hkept)
  obtain ⟨steps, stats, hplan, hleft⟩ := Extraction.exists_plan_of_extract hextract
  refine ⟨ended, stats, hending, rfl, ?_, _, hleft⟩
  rw [steps_of_plan hending hplan]
  exact hplan

theorem allSucceed_of_mem (h : p.SavesAll s e) {d : Deposit} (hd : d ∈ p.deposits s e) :
    p.extraction.AllSucceed d.iteration { files := s.files } d.steps := by
  obtain ⟨ended, stats, hending, hiteration, hplan, -⟩ := exists_plan_of_mem hd
  obtain ⟨t, ht, hsucceed⟩ := h ended hending
  rw [hplan] at ht
  obtain rfl := Option.some.inj ht
  rw [hiteration]
  exact hsucceed

/-- **A file holds what was put there last** with an event, or what it held before. -/
theorem holds_step (hfiled : s.Filed) (h : p.GoesSmoothly s e) (contents : ByteArray) :
    (p.step s e).state.files.Holds path contents ↔
      s.files.HoldsAfter path
        ((p.deposits s e).flatMap (Deposit.puts p.extraction s.files.here path)) contents := by
  rcases deposits_cases hfiled h.goesWell with ⟨hnone, hfiles⟩ | ⟨d, hone, hiteration, -, -, hfiles⟩
  · rw [hnone, hfiles]
    exact Iff.rfl
  · have hsucceed := allSucceed_of_mem h.2 (hone ▸ List.mem_singleton_self d)
    rw [hone, List.flatMap_singleton, hfiles, ← hiteration]
    exact Extraction.holds_performAll hsucceed contents

/-- **A file holds what was put there last** in a run, or what it held before. -/
theorem holds_run (hfiled : s.Filed) (h : p.Along p.GoesSmoothly s events) (contents : ByteArray) :
    (p.run s events).files.Holds path contents ↔
      s.files.HoldsAfter path
        ((p.collect p.deposits s events).flatMap (Deposit.puts p.extraction s.files.here path))
          contents := by
  induction events generalizing s with
  | nil => exact Iff.rfl
  | cons e rest ih =>
    rw [run_cons, ih (hfiled.step e) h.2, here_step hfiled h.1.goesWell, collect,
      List.flatMap_append]
    exact FileTree.holdsAfter_append (holds_step hfiled h.1) _ contents

theorem exists_read_step (hfiled : s.Filed) (h : p.GoesWell s e) {was : ByteArray}
    (hread : s.files.read path = .ok was) :
    ∃ contents, (p.step s e).state.files.read path = .ok contents := by
  rcases deposits_cases hfiled h with ⟨-, hfiles⟩ | ⟨d, -, -, -, -, hfiles⟩
  · exact ⟨was, hfiles ▸ hread⟩
  · rw [hfiles]
    rcases p.extraction.read_performAll (w := { files := s.files }) s.iteration hread d.steps with
      hsame | ⟨-, -, other, -, hother⟩
    · exact ⟨was, hsame⟩
    · exact ⟨other, hother⟩

/-- A file that can be read still can be read, whatever is written. -/
theorem exists_read_run (hfiled : s.Filed) (h : p.Along p.GoesWell s events) {was : ByteArray}
    (hread : s.files.read path = .ok was) :
    ∃ contents, (p.run s events).files.read path = .ok contents := by
  induction events generalizing s was with
  | nil => exact ⟨was, hread⟩
  | cons e rest ih =>
    obtain ⟨contents, hcontents⟩ := exists_read_step hfiled h.1 hread
    exact ih (hfiled.step e) h.2 hcontents

/-- Every file that is written in a run can be read after it. -/
theorem exists_read_of_mem_run (hfiled : s.Filed) (h : p.Along p.GoesSmoothly s events)
    {d : Deposit} (hd : d ∈ p.collect p.deposits s events) {step : Extraction.Write}
    (hstep : step ∈ d.steps) {f : String × ByteArray}
    (hf : step.file? p.extraction d.iteration = some f) :
    ∃ contents, (p.run s events).files.read f.1 = .ok contents := by
  induction events generalizing s with
  | nil => cases hd
  | cons e rest ih =>
    rcases List.mem_append.mp hd with hd | hd
    · obtain ⟨hiteration, -, -, hfiles⟩ := written_of_mem_step hfiled h.1.goesWell hd
      obtain ⟨contents, hcontents⟩ :=
        Extraction.exists_read_of_mem (allSucceed_of_mem h.1.2 hd) hstep hf
      rw [hiteration, ← hfiles] at hcontents
      rw [run_cons]
      exact exists_read_run (hfiled.step e) (along_mono (fun _ _ ↦ GoesSmoothly.goesWell) h.2)
        hcontents
    · exact ih (hfiled.step e) h.2 hd

/-! ## Baselines -/

/-- The attempts whose baselines are reset: those at tests with subtests that ended before the first
suite did, and neither crashed nor took too long. -/
def resets (p : Processor) (s : State) (events : List Event) : List Attempt :=
  (p.results s (beforeSuiteEnd events)).filter fun a ↦
    p.extraction.resets && a.kind.hasSubtests && a.verdict != .crash && a.verdict != .timeout

/-- An attempt resets the baseline of its test. -/
def Deposit.resets (x : Extraction) (d : Deposit) : Bool := x.resetsOwn d.iteration d.attempt

theorem Deposit.resets_of_retry {x : Extraction} {d : Deposit} (h : d.iteration ≠ 0) :
    d.resets x = false := by
  simp [resets, Extraction.resetsOwn, Extraction.shouldReset, h]

theorem resetsOwn_first (x : Extraction) (a : Attempt) :
    x.resetsOwn 0 a =
      (x.resets && a.kind.hasSubtests && a.verdict != .crash && a.verdict != .timeout) := by
  simp only [Extraction.resetsOwn, Extraction.shouldReset, beq_self_eq_true, Bool.and_true]
  cases x.resets <;> cases a.kind.hasSubtests <;> simp

theorem iteration_step (hgoes : p.GoesOn s e) :
    (p.step s e).state.iteration = s.iteration + suiteEnds e := by
  rcases quiet_or_ends hgoes with ⟨-, -, hquiet⟩ | ⟨ended, kept, w, -, hends⟩
  · exact hquiet.iteration
  · rw [hends.iteration, hends.suiteEnds, Nat.add_zero]

/-- No retry resets a baseline. -/
theorem filter_resets_of_retry (hgoes : p.Along p.GoesOn s events) (hretry : s.iteration ≠ 0) :
    (p.collect p.deposits s events).filter (Deposit.resets p.extraction) = [] := by
  induction events generalizing s with
  | nil => rfl
  | cons e rest ih =>
    have hstill : (p.step s e).state.iteration ≠ 0 := by
      rw [iteration_step hgoes.1]
      omega
    rw [collect, List.filter_append, ih hgoes.2 hstill, List.append_nil, deposits,
      List.filter_map]
    refine List.map_eq_nil_iff.mpr (List.filter_eq_nil_iff.mpr fun a _ ↦ ?_)
    rw [Function.comp_apply, Deposit.resets_of_retry hretry]
    exact Bool.false_ne_true

/-- **The attempts that reset their baselines** ended before the first suite did. -/
theorem resets_run (hgoes : p.Along p.GoesOn s events) (hfirst : s.iteration = 0) :
    ((p.collect p.deposits s events).filter (Deposit.resets p.extraction)).map (·.attempt) =
      p.resets s events := by
  induction events generalizing s with
  | nil => rfl
  | cons e rest ih =>
    have hnow : ((p.deposits s e).filter (Deposit.resets p.extraction)).map (·.attempt) =
        (p.result? s e).toList.filter (p.extraction.resetsOwn 0) := by
      rw [deposits, List.filter_map, List.map_map, hfirst]
      exact List.map_id _
    have hiteration := iteration_step hgoes.1
    simp only [resets, ← resetsOwn_first] at ih ⊢
    rw [collect, List.filter_append, List.map_append, hnow, beforeSuiteEnd, List.takeWhile_cons]
    by_cases hsuite : suiteEnds e = 0
    · rw [if_pos (decide_eq_true hsuite), results, collect, List.filter_append,
        ih hgoes.2 (by rw [hiteration, hfirst, hsuite])]
      rfl
    · -- With the end of the suite the retries start, and no attempt ends.
      have hresult : p.result? s e = none := by
        rcases quiet_or_ends hgoes.1 with ⟨-, hresult, -⟩ | ⟨ended, kept, w, -, hends⟩
        · exact hresult
        · exact absurd hends.suiteEnds hsuite
      rw [if_neg (by simpa using hsuite), hresult, filter_resets_of_retry hgoes.2 (by omega)]
      rfl

theorem resetOwn_of_mem {d : Deposit} (hd : d ∈ p.collect p.deposits s events) :
    p.extraction.ResetOwn d.iteration d.attempt d.steps := by
  induction events generalizing s with
  | nil => cases hd
  | cons e rest ih =>
    rcases List.mem_append.mp hd with hd | hd
    · obtain ⟨ended, stats, -, hiteration, hplan, artifacts, hattempt⟩ := exists_plan_of_mem hd
      have hown := p.extraction.plan_resetOwn s.iteration ended.1 ended.2 s.crashLog _ hplan
      rw [hiteration, hattempt]
      exact hown.recorded artifacts stats
    · exact ih hd

/-- **What a run puts where none of its artifacts lies** are the baselines that it resets. -/
theorem puts_run {here : List String} (hgoes : p.Along p.GoesOn s events)
    (hfirst : s.iteration = 0)
    (hapart : ∀ d ∈ p.collect p.deposits s events, ∀ id subpath contents,
      .artifact id subpath contents ∈ d.steps →
        Path.place here (p.extraction.store.file d.iteration subpath) ≠ Path.place here path) :
    (p.collect p.deposits s events).flatMap (Deposit.puts p.extraction here path) =
      (p.resets s events).filterMap (p.extraction.putsReset? here path) := by
  have hputs : ∀ d ∈ p.collect p.deposits s events, d.puts p.extraction here path =
      (if d.resets p.extraction then p.extraction.putsReset? here path d.attempt
        else none).toList :=
    fun d hd ↦ Extraction.puts_eq_of_apart (resetOwn_of_mem hd) (hapart d hd)
  rw [← resets_run hgoes hfirst]
  generalize p.collect p.deposits s events = ds at hputs ⊢
  rw [List.filterMap_map, List.filterMap_filter, List.filterMap_eq_flatMap_toList]
  refine List.flatMap_congr fun d hd ↦ ?_
  rw [hputs d hd, Function.comp_apply]

/-! ## Artifacts and baselines apart -/

/-- An artifact that is recorded for an attempt lies where a path leads to, seen from a working
directory. -/
def Deposit.LeavesAt (x : Extraction) (here : List String) (d : Deposit) (path : String) : Prop :=
  ∃ recorded file, d.attempt.Records recorded ∧ d.LiesAt x recorded file ∧
    Path.place here file = Path.place here path

theorem Deposit.Sound.leavesAt {x : Extraction} {here : List String} {d : Deposit} (h : d.Sound x)
    {id subpath : String} {contents : ByteArray} (hstep : .artifact id subpath contents ∈ d.steps)
    (hplace : Path.place here (x.store.file d.iteration subpath) = Path.place here path) :
    d.LeavesAt x here path := by
  obtain ⟨k, hk, rfl, hpath⟩ := h.fits _ hstep
  refine ⟨_, _, ⟨k.id, ?_⟩, ⟨k, hk, subpath, hpath, rfl, rfl⟩, hplace⟩
  rw [h.artifacts, Extraction.mem_paths_recordAll]
  exact .inr ⟨subpath, contents, hstep, rfl⟩

/-- The kind of the file that holds a baseline. -/
def baselineKind : Extraction.FileKind := ⟨"expected_text", "-expected", ".txt"⟩

theorem baselineKind_mem : baselineKind ∈ Extraction.kinds := by decide

/-- **An artifact lies where no baseline does**, if the paths do not lead up and none of the
directories lies in the other. -/
theorem Deposit.Sound.nested_of_leavesAt {x : Extraction} {here : List String} {d : Deposit}
    (h : d.Sound x) (hdescends : TestName.Descends d.attempt.name) {n : TestId}
    (hdescends' : TestName.Descends n.name) {subpath : String}
    (hname : Layout.baselineName n.name = .ok subpath)
    (hleaves : d.LeavesAt x here (Path.join x.layout.versionDir subpath)) :
    Path.Nested here x.store.dir x.layout.versionDir := by
  obtain ⟨recorded, file, -, ⟨k, hk, subpath', hpath, -, rfl⟩, hplace⟩ := hleaves
  have hbaseline : baselineKind.path n.name = .ok subpath := hname
  exact Artifact.Store.nested_of_place (h.startsAsTest hpath)
    (Extraction.FileKind.startsAsTest hbaseline)
    (Extraction.FileKind.path_descends hk hpath hdescends)
    (Extraction.FileKind.path_descends baselineKind_mem hbaseline hdescends') hplace

/-- The baseline of the test of an attempt lies where a path leads to. -/
def HasBaselineAt (x : Extraction) (here : List String) (a : Attempt) (path : String) : Prop :=
  ∃ subpath, Layout.baselineName a.name = .ok subpath ∧
    Path.place here (Path.join x.layout.versionDir subpath) = Path.place here path

theorem putsReset?_of_hasBaselineAt {x : Extraction} {here : List String} {a : Attempt}
    (h : HasBaselineAt x here a path) : x.putsReset? here path a = some a.baseline.toUTF8 := by
  obtain ⟨subpath, hname, hplace⟩ := h
  rw [Extraction.putsReset?, hname]
  exact if_pos hplace

theorem putsReset?_eq_none {x : Extraction} {here : List String} {a : Attempt}
    (h : ¬ HasBaselineAt x here a path) : x.putsReset? here path a = none := by
  rw [Extraction.putsReset?]
  cases hname : Layout.baselineName a.name with
  | error e => rfl
  | ok subpath => exact if_neg fun hplace ↦ h ⟨subpath, hname, hplace⟩

section

variable {t : FileTree} {c : Config}

/-- **What a run leaves where none of its artifacts lies** are the baselines that it resets. -/
theorem holds_of_apart (h : p.Along p.GoesSmoothly (start t c) events)
    (hapart : ∀ d ∈ p.collect p.deposits (start t c) events,
      ¬ d.LeavesAt p.extraction t.here path)
    (contents : ByteArray) :
    (p.run (start t c) events).files.Holds path contents ↔
      t.HoldsAfter path
        ((p.resets (start t c) events).filterMap (p.extraction.putsReset? t.here path))
          contents := by
  have hsound := sound_of_mem_run (start_filed t c) (along_mono (fun _ _ ↦ GoesSmoothly.goesWell) h)
  have hhere : (start t c).files.here = t.here := rfl
  rw [holds_run (start_filed t c) h, hhere,
    puts_run (along_mono (fun _ _ ↦ And.left) h) rfl]
  · exact Iff.rfl
  · exact fun d hd id subpath contents hstep hplace ↦
      hapart d hd ((hsound d hd).leavesAt hstep hplace)

/-- An attempt whose baseline is reset was kept, and its baseline was written. -/
theorem exists_deposit_of_resets (h : p.Along p.GoesOn (start t c) events) {a : Attempt}
    (ha : a ∈ p.resets (start t c) events) :
    ∃ d ∈ p.collect p.deposits (start t c) events, d.attempt = a ∧
      ∃ subpath, Layout.baselineName a.name = .ok subpath ∧
        ∃ test, .baseline test subpath a.baseline ∈ d.steps := by
  rw [← resets_run h rfl] at ha
  obtain ⟨d, hd, rfl⟩ := List.mem_map.mp ha
  obtain ⟨hd, hresets⟩ := List.mem_filter.mp hd
  have hown := resetOwn_of_mem hd
  have hresets : p.extraction.resetsOwn d.iteration d.attempt = true := hresets
  rw [Extraction.ResetOwn, if_pos hresets] at hown
  obtain ⟨subpath, hname, hbaselines⟩ := hown
  refine ⟨d, hd, rfl, subpath, hname, ?_⟩
  have hmem := hbaselines ▸ List.mem_singleton_self (subpath, d.attempt.baseline)
  obtain ⟨step, hstep, hbaseline⟩ := List.mem_filterMap.mp hmem
  cases step with
  | artifact => cases hbaseline
  | note => cases hbaseline
  | baseline test subpath' text =>
    obtain ⟨rfl, rfl⟩ := Prod.mk.inj (Option.some.inj hbaseline)
    exact ⟨test, hstep⟩

/-- **Baselines are reset as they should be**, and nothing else is written but artifacts. In a run
that goes on and whose files are all written:

* where no recorded artifact lies, and no attempt resets a baseline whose outcomes become one, every
  file is what it was, and none is new. Only attempts before the end of the first suite reset
  baselines, those at tests with subtests that neither crashed nor took too long, and none if
  baselines are not to be reset;
* the baseline of every such attempt reads as its outcomes, unless a later one resets the baseline
  at that place or an artifact lies there;
* an artifact lies where a baseline does only if one of the directories of artifacts and of new
  baselines lies in the other, or the files of one of the tests lie in directories that lead up. -/
theorem baselines_reset (p : Processor) (t : FileTree) (c : Config) (events : List Event)
    (h : p.Along p.GoesSmoothly (start t c) events) :
    let x := p.extraction
    let after := p.run (start t c) events
    let kept := p.collect p.deposits (start t c) events
    let resets := p.resets (start t c) events
    (∀ path, (∀ d ∈ kept, ¬ d.LeavesAt x t.here path) →
      (∀ a ∈ resets, ¬ HasBaselineAt x t.here a path) →
        ∀ contents, after.files.Holds path contents ↔ t.Holds path contents) ∧
    (∀ before a later, resets = before ++ a :: later →
      ∃ (n : TestId) (subpath : String), a.name = n.name ∧
        Layout.baselineName n.name = .ok subpath ∧
        let own := Path.join x.layout.versionDir subpath
        ((∀ b ∈ later, ¬ HasBaselineAt x t.here b own) →
          (∀ d ∈ kept, ¬ d.LeavesAt x t.here own) →
            after.files.readText own = .ok a.baseline)) ∧
    ∀ d ∈ kept, ∀ (n : TestId) (subpath : String), Layout.baselineName n.name = .ok subpath →
      d.LeavesAt x t.here (Path.join x.layout.versionDir subpath) →
      Path.Nested t.here x.store.dir x.layout.versionDir ∨
        ¬ TestName.Descends d.attempt.name ∨ ¬ TestName.Descends n.name := by
  intro x after kept resets
  have hsound := sound_of_mem_run (start_filed t c) (along_mono (fun _ _ ↦ GoesSmoothly.goesWell) h)
  have hnone {path : String} {as : List Attempt} (has : ∀ a ∈ as, ¬ HasBaselineAt x t.here a path) :
      as.filterMap (x.putsReset? t.here path) = [] :=
    List.filterMap_eq_nil_iff.mpr fun a ha ↦ putsReset?_eq_none (has a ha)
  refine ⟨fun path hapart hresets contents ↦ ?_, fun before a later hresets ↦ ?_,
    fun d hd n subpath hname hleaves ↦ ?_⟩
  · rw [holds_of_apart h hapart, hnone hresets]
    exact Iff.rfl
  · have ha : a ∈ resets := hresets ▸ List.mem_append_cons_self
    obtain ⟨d, hd, rfl, subpath, hname, test, hstep⟩ :=
      exists_deposit_of_resets (along_mono (fun _ _ ↦ And.left) h) ha
    obtain ⟨n, hn⟩ := (hsound d hd).named
    refine ⟨n, subpath, hn, hn ▸ hname, fun hlast hapart ↦ ?_⟩
    -- The file can be read, and what was put there last is the baseline.
    obtain ⟨contents, hread⟩ := exists_read_of_mem_run (start_filed t c) h hd hstep
      (f := (Path.join x.layout.versionDir subpath, d.attempt.baseline.toUTF8)) rfl
    have howns : HasBaselineAt x t.here d.attempt (Path.join x.layout.versionDir subpath) :=
      ⟨subpath, hname, rfl⟩
    have hputs : resets.filterMap (x.putsReset? t.here (Path.join x.layout.versionDir subpath)) =
        before.filterMap (x.putsReset? t.here (Path.join x.layout.versionDir subpath)) ++
          [d.attempt.baseline.toUTF8] := by
      rw [hresets, List.filterMap_append,
        List.filterMap_cons_some (putsReset?_of_hasBaselineAt howns), hnone hlast]
    have hholds := (FileTree.read_eq_ok_iff_holds.mp hread).2
    rw [holds_of_apart h hapart, hputs, FileTree.holdsAfter_concat] at hholds
    obtain rfl := hholds
    rw [FileTree.readText, hread]
    simp only [bind, Except.bind, Extraction.fromUTF8?_toUTF8]
  · by_contra hneither
    simp only [not_or, not_not] at hneither
    obtain ⟨hnested, hdescends, hn⟩ := hneither
    exact hnested ((hsound d hd).nested_of_leavesAt hdescends hn hname hleaves)

end

/-- A processor that resets the baselines of tests with subtests, with some directories of artifacts
and of tests. -/
def resetting (artifacts tests : String) : Processor :=
  { sample with
    extraction := { store := ⟨artifacts⟩, layout := ⟨tests, []⟩, resets := true }
    lookup := ⟨none, none, .testharness⟩ }

/-- A test passes. -/
def passes (test : String) : List Event :=
  [{ action := .testStart ⟨test, none⟩ },
   { action := .testEnd ⟨test, none⟩ { status := "OK" } [] }]

/-- A test passes, and its harness fails in a retry. -/
def passesOnce (test : String) : List Event :=
  passes test ++
    [{ action := .suiteEnd },
     { action := .testStart ⟨test, none⟩ },
     { action := .testEnd ⟨test, none⟩ { status := "ERROR" } [] }]

/-- The artifacts lie below the root, and the tests beside the working directory. -/
theorem baselines_reset_sample :
    let p := resetting "/o" "../t"
    let s := start { here := ["c"] } {}
    p.Along p.GoesSmoothly s (passesOnce "a") ∧
      ∃ a, p.resets s (passesOnce "a") = [a] ∧
        (p.run s (passesOnce "a")).files.readText "../t/external/wpt/a-expected.txt" =
          .ok a.baseline := by
  intro p s
  have hseen : p.Along p.GoesSmoothly s (passesOnce "a") ∧
      (∀ d ∈ p.collect p.deposits s (passesOnce "a"), TestName.Descends d.attempt.name) ∧
      (p.resets s (passesOnce "a")).map (·.name) = ["external/wpt/a"] := by
    decide +kernel
  obtain ⟨hsmooth, hdescends, hnames⟩ := hseen
  obtain ⟨a, hresets, ha⟩ := List.map_eq_singleton_iff.mp hnames
  obtain ⟨-, hreads, hnested⟩ :=
    baselines_reset p { here := ["c"] } {} (passesOnce "a") hsmooth
  obtain ⟨n, subpath, hn, hname, hread⟩ := hreads [] a [] hresets
  have hown : n.name = "external/wpt/a" := hn.symm.trans ha
  obtain rfl : "external/wpt/a-expected.txt" = subpath := by
    have hsample : Layout.baselineName "external/wpt/a" = .ok "external/wpt/a-expected.txt" := by
      decide +kernel
    exact Except.ok.inj (hsample.symm.trans (hown ▸ hname))
  have hpath : Path.join (resetting "/o" "../t").extraction.layout.versionDir
      "external/wpt/a-expected.txt" = "../t/external/wpt/a-expected.txt" := by
    decide +kernel
  refine ⟨hsmooth, a, hresets, hpath ▸ hread (List.forall_mem_nil _) fun d hd hleaves ↦ ?_⟩
  rcases hnested d hd n _ hname hleaves with hnested | hleads | hleads
  · exact absurd hnested (by decide +kernel)
  · exact hleads (hdescends d hd)
  · exact hleads (hown ▸ by decide +kernel)

/-- There is a file outside of both directories. -/
def outside : FileTree where
  entries := [
    ("a-expected.txt", .file "x".toUTF8),
    ("o", .directory), ("o/wpt_internal", .directory),
    ("t", .directory), ("t/wpt_internal", .directory)]

/-- **A baseline that is reset does not stay** if an artifact lies at the same place, where a test
whose files lie in directories that lead up can have both. None of the directories of artifacts and
of new baselines lies in the other then, and no other attempt resets the baseline. -/
theorem baseline_overwritten :
    let p := resetting "o" "t"
    let events := passes "wpt_internal/../../a"
    ¬ Path.Nested outside.here p.extraction.store.dir p.extraction.layout.versionDir ∧
    p.Along p.GoesSmoothly (start outside {}) events ∧
    ∃ a, p.resets (start outside {}) events = [a] ∧
      Layout.baselineName a.name = .ok "wpt_internal/../../a-expected.txt" ∧
      (p.run (start outside {}) events).files.readText "t/wpt_internal/../../a-expected.txt" ≠
        .ok a.baseline := by
  intro p events
  have hseen : p.Along p.GoesSmoothly (start outside {}) events ∧
      (p.resets (start outside {}) events).map (fun a ↦
        (Layout.baselineName a.name,
          decide ((p.run (start outside {}) events).files.readText
            "t/wpt_internal/../../a-expected.txt" = .ok a.baseline))) =
        [(.ok "wpt_internal/../../a-expected.txt", false)] := by
    decide +kernel
  obtain ⟨hsmooth, hmap⟩ := hseen
  obtain ⟨a, hresets, ha⟩ := List.map_eq_singleton_iff.mp hmap
  obtain ⟨hname, hread⟩ := Prod.mk.inj ha
  exact ⟨by decide +kernel, hsmooth, a, hresets, hname, of_decide_eq_false hread⟩

end WebTestRun.Processor
