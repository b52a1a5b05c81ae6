import WebTestRun.Proofs.Report.Numbers

/-!
# Tests that are skipped

The runner skips a test by ending it with a status of its own. A test without subtests is skipped
then. A test with subtests is not: what its subtests reported, which may be nothing, is held against
its baseline. A report counts the tests that are skipped before the first suite ends, and none of
them counts as passed or failed.

* `Attempt.run_skip` — how an attempt ends with that status.
* `Processor.skips` — the tests that are skipped with an event, and `skips_eq` — they are the
  attempts with that verdict.
* `Processor.skips_of_run` — what a run and its report say of them.
-/

set_option autoImplicit false

namespace WebTestRun

/-! ## One attempt -/

namespace Attempt

theorem Running.judge_fst (r : Running) (status : Status) (o : Outcomes) :
    (r.judge status o).1 =
      if r.kind.hasSubtests && status.verdict != .timeout && status.verdict != .crash then
        if (r.agrees o).1 then .pass else .failure
      else status.verdict := by
  unfold judge
  split <;> rfl

theorem Running.finish_skip (r : Running) (message : Option String) (ended : Int) :
    ∃ a logs, r.finish "SKIP" message ended = .ok (a, logs) ∧ a.verdict =
      if r.kind.hasSubtests then (if (r.agrees r.outcomes).1 then .pass else .failure)
      else .skip := by
  have hparse : Status.parse "SKIP" = .ok .skip := rfl
  have houtcomes : r.outcomesAtEnd .skip message = r.outcomes := by
    rw [outcomesAtEnd]
    split <;> rfl
  rw [finish, hparse]
  refine ⟨_, _, rfl, ?_⟩
  show (r.judge .skip (r.outcomesAtEnd .skip message)).1 = _
  rw [houtcomes, judge_fst]
  cases r.kind.hasSubtests <;> rfl

/-- **An attempt that ends as skipped** is skipped if its test has no subtests. Else it passes or
fails, as what its subtests reported agrees with its baseline or not. -/
theorem run_skip (start : Start) (reports : List Report) (message : Option String) (ended : Int) :
    ∃ a logs, start.run reports "SKIP" message ended = .ok (a, logs) ∧
      (start.kind.hasSubtests = false → a.verdict = .skip) ∧
      (start.kind.hasSubtests = true → (a.verdict = .pass ∨ a.verdict = .failure) ∧
        (a.verdict = .pass ↔ ∃ b, Running.baseline { toStart := start } = .ok b ∧
          b.compare (observed start.kind reports) = .ok ())) := by
  obtain ⟨hstart, houtcomes⟩ := Running.reportAll_eq { toStart := start } reports
  rw [Start.run]
  generalize Running.reportAll { toStart := start } reports = r at hstart houtcomes
  subst hstart
  obtain ⟨a, logs, hfinish, hverdict⟩ := r.finish_skip message ended
  refine ⟨a, logs, hfinish, fun hkind ↦ ?_, fun hkind ↦ ?_⟩
  · rw [hverdict, hkind, if_neg Bool.false_ne_true]
  · have hbaseline : Running.baseline { toStart := r.toStart } = r.baseline := rfl
    have ho : r.outcomes = observed r.kind reports := houtcomes
    rw [hverdict, hkind, if_pos rfl, hbaseline, ← ho, ← Running.agrees_eq_true_iff]
    cases (r.agrees r.outcomes).1 <;> simp

/-- Only a test without subtests is skipped, and only with that status. -/
theorem Running.verdict_eq_skip_iff {r : Running} {status : String} {message : Option String}
    {ended : Int} {a : Attempt} {logs : List Log}
    (h : r.finish status message ended = .ok (a, logs)) :
    a.verdict = .skip ↔ status = "SKIP" ∧ r.kind.hasSubtests = false := by
  obtain ⟨known, hknown, hended⟩ := Answer.map_eq_ok_iff.mp h
  have hname : Named.name known = status := by
    rw [Status.parse] at hknown
    split at hknown
    · rename_i named hnamed
      rw [← Except.ok.inj hknown]
      exact Named.ofName?_eq_some_iff.mp hnamed
    · cases hknown
  obtain rfl := (Prod.mk.inj hended).1
  show (r.judge known (r.outcomesAtEnd known message)).1 = .skip ↔ _
  rw [judge_fst, ← hname]
  generalize (r.agrees (r.outcomesAtEnd known message)).1 = agreed
  generalize r.kind.hasSubtests = subtests
  cases known <;> cases agreed <;> cases subtests <;> decide

end Attempt

/-! ## One event -/

namespace Processor

open Attempt (Running)

variable {p : Processor} {s : State} {e : Event}

/-- The name of the test that is skipped with an event: it ends with that status while it is in
flight, it is followed, and it has no subtests. -/
def skips (s : State) (e : Event) : List String :=
  match e.action with
  | .testEnd test report _ =>
    if s.reportsItself then []
    else match Keyed.find? test.name s.running with
      | some r => if report.status = "SKIP" ∧ r.kind.hasSubtests = false then [test.name] else []
      | none => []
  | _ => []

theorem skips_eq_nil (h : ending? s e = none) : skips s e = [] := by
  rw [skips]
  split
  · rename_i test report screenshots haction
    split
    · rfl
    · rename_i hself
      split
      · rename_i r hrunning
        split
        · rename_i hskip
          -- The status is a known one, and so the attempt ends.
          obtain ⟨a, logs, hfinish, -⟩ := r.finish_skip report.message e.time
          rw [ending?_of_finish haction (by simpa using hself) hrunning, hskip.1, hfinish] at h
          cases h
        · rfl
      · rfl
  · rfl

theorem Ends.skips {after : State} {ended : Attempt × List Screenshot} {kept : Attempt}
    {w : Extraction.Writing} (h : Ends p s e after ended kept w) (hfiled : s.Filed) :
    Processor.skips s e = if kept.verdict = .skip then [kept.name] else [] := by
  obtain ⟨test, report, r, judged, haction, hself, hrunning, hfinish⟩ :=
    exists_of_ending? h.ending
  obtain ⟨steps, stats, -, rfl⟩ := Extraction.exists_plan_of_extract h.extract
  have hname : ended.1.name = test.name :=
    (Running.finish_name hfinish).trans (hfiled _ _ hrunning)
  rw [Processor.skips, haction]
  simp only [hself, Bool.false_eq_true, if_false, hrunning, Running.verdict_eq_skip_iff hfinish,
    hname]

/-- **The tests that are skipped with an event** are those of the attempts with that verdict. -/
theorem skips_eq (hfiled : s.Filed) (hgoes : p.GoesOn s e) :
    skips s e = ((p.result? s e).toList.filter fun a ↦ a.verdict = .skip).map (·.name) := by
  rcases quiet_or_ends hgoes with ⟨hending, hresult, -⟩ | ⟨ended, kept, w, hresult, hends⟩
  · rw [hresult, skips_eq_nil hending]
    rfl
  · rw [hresult, hends.skips hfiled, Option.toList_some, List.filter_singleton]
    by_cases hskip : kept.verdict = .skip <;> simp [hskip]

/-! ## Runs -/

/-- **The tests that are skipped in a run** are those of the attempts with that verdict. -/
theorem collect_skips (hfiled : s.Filed) {events : List Event}
    (hgoes : p.Along p.GoesOn s events) :
    p.collect skips s events =
      ((p.results s events).filter fun a ↦ a.verdict = .skip).map (·.name) := by
  induction events generalizing s with
  | nil => rfl
  | cons e rest ih =>
    rw [results, collect, collect, List.filter_append, List.map_append, ← results,
      ← ih (hfiled.step e) hgoes.2, skips_eq hfiled hgoes.1]

theorem along_beforeSuiteEnd {holds : State → Event → Prop} {events : List Event}
    (h : p.Along holds s events) : p.Along holds s (beforeSuiteEnd events) := by
  rw [← List.takeWhile_append_dropWhile (l := events)] at h
  exact (along_append.mp h).1

/-- A test is skipped with an event: it has a result that says so, which counts as unexpected unless
it is declared, and is a regression then. -/
def Skipped (p : Processor) (s : State) (e : Event) (n : String) : Prop :=
  ∃ a, p.result? s e = some a ∧ a.name = n ∧ a.verdict = .skip ∧
    (a.unexpected = true ↔ (p.expectations.get n).verdicts.has .skip = false) ∧
      a.isRegression = a.unexpected

theorem along_skips (hfiled : s.Filed) (hflight : s.InFlight p) {events : List Event}
    (hgoes : p.Along p.GoesOn s events) :
    p.Along (fun s e ↦ ∀ n ∈ skips s e, p.Skipped s e n) s events := by
  induction events generalizing s with
  | nil => trivial
  | cons e rest ih =>
    refine ⟨fun n hn ↦ ?_, ih (hfiled.step e) (hflight.step e) hgoes.2⟩
    rcases quiet_or_ends hgoes.1 with ⟨hending, -, -⟩ | ⟨ended, kept, w, hresult, hends⟩
    · rw [skips_eq_nil hending] at hn
      cases hn
    · rw [hends.skips hfiled] at hn
      split at hn
      · rename_i hskip
        obtain rfl := List.mem_singleton.mp hn
        have hdeclared := (hends.kept hfiled hflight).declared
        refine ⟨kept, hresult, rfl, hskip, ?_, ?_⟩
        · rw [Attempt.unexpected, hdeclared, hskip, Bool.not_eq_true']
        · rw [Attempt.isRegression, hskip]
          exact Bool.and_true _
      · cases hn

/-- **What is said of tests that are skipped.** An attempt that ends as skipped is skipped if its
test has no subtests, and passes or fails by its baseline else, whatever was expected of it. In a
run that goes on every test that is skipped has a result with that verdict, which is neither a pass
nor a failure. The report says how many were skipped before the first suite ended. -/
theorem skips_of_run (p : Processor) (t : FileTree) (c : Config) (events : List Event)
    (interrupted : Bool) (now : Int) (hgoes : p.Along p.GoesOn (start t c) events) :
    (∀ (begun : Attempt.Start) (reports : List Attempt.Report) (message : Option String)
      (ended : Int), ∃ a logs, begun.run reports "SKIP" message ended = .ok (a, logs) ∧
        (begun.kind.hasSubtests = false → a.verdict = .skip) ∧
        (begun.kind.hasSubtests = true → (a.verdict = .pass ∨ a.verdict = .failure) ∧
          (a.verdict = .pass ↔ ∃ b, Running.baseline { toStart := begun } = .ok b ∧
            b.compare (Attempt.observed begun.kind reports) = .ok ()))) ∧
    p.Along (fun s e ↦ ∀ n ∈ skips s e, p.Skipped s e n) (start t c) events ∧
    (p.report (p.run (start t c) events) interrupted now).1.skipped =
      (p.collect skips (start t c) (beforeSuiteEnd events)).length := by
  refine ⟨Attempt.run_skip, along_skips (start_filed t c) (start_inFlight p t c) hgoes, ?_⟩
  have hskipped : (p.report (p.run (start t c) events) interrupted now).1.skipped =
      (p.run (start t c) events).tally.get .skip := rfl
  rw [hskipped, tally_start t c hgoes, collect_skips (start_filed t c) (along_beforeSuiteEnd hgoes),
    List.length_map, List.countP_eq_length_filter]

/-- A test that is skipped in the first suite, and one that is skipped in the second. -/
def sampleSkips : List Event :=
  [{ action := .testStart ⟨"a", none⟩ }, { action := .testEnd ⟨"a", none⟩ { status := "SKIP" } [] },
   { action := .suiteEnd },
   { action := .testStart ⟨"b", none⟩ }, { action := .testEnd ⟨"b", none⟩ { status := "SKIP" } [] }]

theorem skips_of_run_sample :
    sample.Along sample.GoesOn (start {} {}) sampleSkips ∧
      (sample.report (sample.run (start {} {}) sampleSkips) false 0).1.skipped = 1 ∧
      sample.collect skips (start {} {}) sampleSkips = ["external/wpt/a", "external/wpt/b"] := by
  have hgoes : sample.Along sample.GoesOn (start {} {}) sampleSkips := by decide +kernel
  obtain ⟨-, -, hskipped⟩ := skips_of_run sample {} {} sampleSkips false 0 hgoes
  exact ⟨hgoes, hskipped.trans (by decide +kernel), by decide +kernel⟩

/-- A test with subtests passes or fails where others are skipped, also without a baseline and
without a report of a subtest. -/
theorem exists_skip_passed :
    ¬∀ (begun : Attempt.Start) (reports : List Attempt.Report) (message : Option String)
      (ended : Int) (a : Attempt) (logs : List Log),
      begun.run reports "SKIP" message ended = .ok (a, logs) → a.verdict = .skip := by
  intro h
  obtain ⟨a, logs, hrun, -, hsubtests⟩ := Attempt.run_skip
    { name := "a.html", kind := .testharness, filePath := "a.html", started := 0,
      expected := .ofList [.pass], baselineText := none } [] none 0
  have hskip := h _ _ _ _ a logs hrun
  rcases (hsubtests rfl).1 with hpass | hfails
  · rw [hpass] at hskip
    cases hskip
  · rw [hfails] at hskip
    cases hskip

end Processor

end WebTestRun
