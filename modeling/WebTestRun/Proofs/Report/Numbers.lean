import Mathlib.Data.List.Dedup
import WebTestRun.Processor.Consume
import WebTestRun.Proofs.Processor.InFlight
import WebTestRun.Proofs.Report.Placement

/-!
# The numbers of a report

A report counts in two ways. Verdicts are counted while the run goes on, until the first suite has
ended; passes and regressions are counted once it is over, by the last attempt at each test. Both
are numbers of attempts that the run kept, and so is all that the leaf of a test says.

* `Leaf.Tells` — what a leaf says of some attempts, and `tells_of_leaf?`.
* `Processor.results` — the attempts that a run keeps.
* `tally_run` — the verdicts that are counted.
* `countP_tests` — tests are counted by their last attempts.
* `report_of_run` — what a report says of a run.
-/

set_option autoImplicit false

namespace WebTestRun

/-! ## What is declared -/

/-- Something is expected of every test. -/
theorem Expectations.verdicts_ne_nil (t : Expectations) (test : String) :
    (t.get test).verdicts.toList ≠ [] := by
  rw [get, Expectation.settled]
  split
  · exact List.cons_ne_nil Verdict.pass []
  · rename_i hsome
    exact fun hnil ↦ hsome (List.isEmpty_iff.mpr hnil)

/-! ## Leaves -/

theorem Verdict.name_spaceless (v : Verdict) : ' ' ∉ (Named.name v).toList := by
  cases v <;> decide

/-- Verdicts with blanks between them are read back as their names. -/
theorem splitOn_names {verdicts : List Verdict} (h : verdicts ≠ []) :
    ((" ".intercalate (verdicts.map Named.name)).toList.splitOn ' ').map String.ofList =
      verdicts.map Named.name := by
  rw [String.toList_intercalate, show " ".toList = [' '] from rfl, List.map_map,
    List.splitOn_intercalate]
  · simp
  · intro name hname
    obtain ⟨v, -, rfl⟩ := List.mem_map.mp hname
    exact v.name_spaceless
  · simpa using h

namespace Leaf

/-- What a leaf says of the attempts at a test. -/
structure Tells (l : Leaf) (attempts : List Attempt) : Prop where
  /-- The verdicts of all attempts, in order. -/
  actual : (l.actual.toList.splitOn ' ').map String.ofList =
    attempts.map fun a ↦ Named.name a.verdict
  /-- What was expected of the first attempt, in the order of the verdicts. -/
  expected : ∃ first ∈ attempts.head?,
    (l.expected.toList.splitOn ' ').map String.ofList =
      ((Listed.all : List Verdict).filter first.expected.has).map Named.name
  /-- Two attempts differ. -/
  isFlaky : l.isFlaky = true ↔ ∃ a ∈ attempts, ∃ b ∈ attempts, a.verdict ≠ b.verdict
  /-- The last attempt has a verdict that was not expected. -/
  isUnexpected : l.isUnexpected = true ↔
    ∃ last ∈ attempts.getLast?, last.expected.has last.verdict = false
  /-- The last attempt has one that was not expected and is none for the better. -/
  isRegression : l.isRegression = true ↔
    ∃ last ∈ attempts.getLast?, last.expected.has last.verdict = false ∧ last.verdict ≠ .pass
  /-- Some attempt had diagnostic messages. -/
  hasStderr : l.hasStderr = true ↔ ∃ a ∈ attempts, a.hasStderr = true

theorem isFlakyRun_iff (attempts : List Attempt) :
    isFlakyRun attempts = true ↔ ∃ a ∈ attempts, ∃ b ∈ attempts, a.verdict ≠ b.verdict := by
  cases attempts with
  | nil => simp [isFlakyRun]
  | cons first rest =>
    rw [isFlakyRun, List.any_eq_true]
    constructor
    · rintro ⟨a, ha, hne⟩
      exact ⟨a, List.mem_cons_of_mem first ha, first, List.mem_cons_self, by simpa using hne⟩
    · rintro ⟨a, ha, b, hb, hne⟩
      -- One of the two differs from the first.
      by_contra hnone
      have hsame : ∀ c ∈ first :: rest, c.verdict = first.verdict := by
        intro c hc
        rcases List.mem_cons.mp hc with rfl | hc
        · rfl
        · by_contra hc'
          exact hnone ⟨c, hc, by simpa using hc'⟩
      exact hne ((hsame a ha).trans (hsame b hb).symm)

end Leaf

theorem Attempt.isRegression_iff (a : Attempt) :
    a.isRegression = true ↔ a.expected.has a.verdict = false ∧ a.verdict ≠ .pass := by
  simp [isRegression, unexpected]

namespace Report

/-- **What the leaf of a test says of its attempts**, if something was expected of them. -/
theorem tells_of_leaf? {h : History} {shard : Option Nat} {test : String}
    {attempts : List Attempt} {l : Leaf} (hleaf : leaf? h shard test attempts = some l)
    (hexpected : ∀ a ∈ attempts, a.expected.toList ≠ []) : l.Tells attempts := by
  rw [leaf?] at hleaf
  split at hleaf
  · rename_i first last hfirst hlast
    obtain rfl := Option.some.inj hleaf
    have hne : attempts ≠ [] := by
      rintro rfl
      cases hfirst
    have hmem : first ∈ attempts := List.mem_of_mem_head? hfirst
    refine ⟨?_, ⟨first, hfirst, splitOn_names (hexpected first hmem)⟩,
      Leaf.isFlakyRun_iff attempts, ?_, ?_, List.any_eq_true⟩
    · have hverdicts : attempts.map (·.verdict) ≠ [] := by simpa using hne
      have hnames := splitOn_names hverdicts
      rw [List.map_map] at hnames
      exact hnames
    · simp [Leaf.ofAttempts, Attempt.unexpected, hlast]
    · simp [Leaf.ofAttempts, Attempt.isRegression_iff, hlast]
  · cases hleaf

end Report

namespace Processor

variable {p : Processor} {s : State}

/-- The attempts that a run keeps, in the order in which they ended. -/
def results (p : Processor) (s : State) (events : List Event) : List Attempt :=
  p.collect (fun s e ↦ (p.result? s e).toList) s events

/-- The events before the end of the first suite. -/
def beforeSuiteEnd (events : List Event) : List Event :=
  events.takeWhile fun e ↦ suiteEnds e = 0

/-! ## Verdicts that are counted -/

/-- Nothing is counted in a retry. -/
theorem tally_run_of_retry {events : List Event} (hgoes : p.Along p.GoesOn s events)
    (hretry : s.iteration ≠ 0) : (p.run s events).tally = s.tally := by
  induction events generalizing s with
  | nil => rfl
  | cons e rest ih =>
    rw [run_cons]
    rcases quiet_or_ends hgoes.1 with ⟨-, -, hquiet⟩ | ⟨ended, kept, w, -, hends⟩
    · have hstill : (p.step s e).state.iteration ≠ 0 := by
        rw [hquiet.iteration]
        omega
      rw [ih hgoes.2 hstill, hquiet.tally]
    · have hstill : (p.step s e).state.iteration ≠ 0 := hends.iteration ▸ hretry
      rw [ih hgoes.2 hstill, hends.tally, if_neg hretry]

/-- **The verdicts that are counted** are those of the attempts before the first retry. -/
theorem tally_run {events : List Event} (hgoes : p.Along p.GoesOn s events)
    (hfirst : s.iteration = 0) (v : Verdict) :
    (p.run s events).tally.get v =
      s.tally.get v + (p.results s (beforeSuiteEnd events)).countP (·.verdict = v) := by
  induction events generalizing s with
  | nil => rfl
  | cons e rest ih =>
    rw [run_cons, beforeSuiteEnd, List.takeWhile_cons]
    rcases quiet_or_ends hgoes.1 with ⟨-, hresult, hquiet⟩ | ⟨ended, kept, w, hresult, hends⟩
    · split
      · rename_i hsuite
        rw [decide_eq_true_iff] at hsuite
        have hstill : (p.step s e).state.iteration = 0 := by
          rw [hquiet.iteration, hfirst, hsuite]
        rw [ih hgoes.2 hstill, hquiet.tally, results, results, collect]
        simp only [hresult]
        rfl
      · -- With the end of the suite the retries start.
        rename_i hsuite
        rw [decide_eq_true_iff] at hsuite
        have hretry : (p.step s e).state.iteration ≠ 0 := by
          rw [hquiet.iteration]
          omega
        rw [tally_run_of_retry hgoes.2 hretry, hquiet.tally]
        rfl
    · have hstill : (p.step s e).state.iteration = 0 := hends.iteration.trans hfirst
      rw [if_pos (decide_eq_true hends.suiteEnds), ih hgoes.2 hstill, hends.tally, if_pos hfirst,
        Tally.get_add, results, results, collect]
      simp only [hresult, Option.toList_some, List.singleton_append, List.countP_cons]
      by_cases hv : kept.verdict = v
      · simp only [hv, if_true, decide_true, beforeSuiteEnd]
        omega
      · simp [hv, beforeSuiteEnd]

/-! ## Tests that are counted -/

/-- Tests are counted by their attempts. -/
theorem countP_tests {h : History} (hsound : h.Sound) (q : List Attempt → Bool) :
    (h.tests.countP fun t ↦ q t.2) = (Keyed.keys h.tests).countP fun n ↦ q (h.attempts n) := by
  rw [Keyed.keys, List.countP_map]
  refine List.countP_congr fun t ht ↦ ?_
  rw [Function.comp_apply, hsound.attempts_of_mem ht]

theorem sound_run (hsound : s.history.Sound) {events : List Event}
    (hgoes : p.Along p.GoesOn s events) : (p.run s events).history.Sound := by
  induction events generalizing s with
  | nil => exact hsound
  | cons e rest ih =>
    refine ih ?_ hgoes.2
    rcases quiet_or_ends hgoes.1 with ⟨-, -, hquiet⟩ | ⟨ended, kept, w, -, hends⟩
    · exact hsound.of_tests_eq hquiet.tests
    · exact hends.history ▸ hsound.push kept

/-- The attempts at a test, among others. -/
def attemptsAt (n : String) (attempts : List Attempt) : List Attempt :=
  attempts.filter fun a ↦ a.name = n

/-- **Tests are counted by their last attempts**, among the tests at which attempts were kept. -/
theorem countP_endsWith {h : History} (hsound : h.Sound) {attempts : List Attempt}
    (hattempts : ∀ n, h.attempts n = attemptsAt n attempts)
    (htests : ∀ n, n ∈ Keyed.keys h.tests ↔ n ∈ attempts.map (·.name)) (q : Attempt → Bool) :
    (h.tests.countP fun t ↦ History.endsWith q t.2) =
      (attempts.map (·.name)).dedup.countP fun n ↦
        decide (∃ a ∈ (attemptsAt n attempts).getLast?, q a = true) := by
  have hperm : (Keyed.keys h.tests).Perm (attempts.map (·.name)).dedup :=
    (List.perm_ext_iff_of_nodup hsound.nodup (List.nodup_dedup _)).mpr fun n ↦ by
      rw [htests, List.mem_dedup]
  rw [countP_tests hsound, hperm.countP_eq]
  refine List.countP_congr fun n _ ↦ ?_
  rw [hattempts, History.endsWith, Option.any_eq_true, decide_eq_true_iff]
  rfl

/-! ## Runs -/

/-- A test had diagnostic messages exactly if what was kept of an attempt remembers some. The
messages themselves are used up by the log of the attempt. -/
theorem exists_hasStderr_iff {endings results : List Attempt}
    (hkept : (∀ a ∈ endings, ∃ b ∈ results, Kept p a b) ∧
      ∀ b ∈ results, ∃ a ∈ endings, Kept p a b) (n : String) :
    (∃ b ∈ attemptsAt n results, b.hasStderr = true) ↔
      ∃ a ∈ endings, a.name = n ∧ a.messages ≠ [] := by
  constructor
  · rintro ⟨b, hb, hheard⟩
    obtain ⟨hresult, hname⟩ := List.mem_filter.mp hb
    obtain ⟨a, ha, hsame⟩ := hkept.2 b hresult
    refine ⟨a, ha, hsame.name.symm.trans (of_decide_eq_true hname), ?_⟩
    rw [hsame.heard] at hheard
    simpa using hheard
  · rintro ⟨a, ha, hname, hmessages⟩
    obtain ⟨b, hb, hsame⟩ := hkept.1 a ha
    refine ⟨b, List.mem_filter.mpr ⟨hb, decide_eq_true (hsame.name.trans hname)⟩, ?_⟩
    rw [hsame.heard]
    simpa using hmessages

/-- The verdicts that a run counts from its start. -/
theorem tally_start (t : FileTree) (c : Config) {events : List Event}
    (hgoes : p.Along p.GoesOn (start t c) events) (v : Verdict) :
    (p.run (start t c) events).tally.get v =
      (p.results (start t c) (beforeSuiteEnd events)).countP (·.verdict = v) := by
  have hstart : (start t c).tally.get v = 0 := by cases v <;> rfl
  rw [tally_run hgoes rfl v, hstart, Nat.zero_add]

/-- **The numbers and flags of a report are those of the run.** A report on a run that goes on says:

* how many attempts that were kept before the first suite ended had each verdict, and of these how
  many were skipped;
* at how many tests the last attempt passed, and at how many it neither passed nor had a verdict
  that was expected of it;
* of every leaf what the attempts at its test came to, and whether one of them had diagnostic
  messages when it ended.

What is expected of an attempt is what is declared for its test. -/
theorem report_of_run (p : Processor) (t : FileTree) (c : Config) (events : List Event)
    (interrupted : Bool) (now : Int) (hgoes : p.Along p.GoesOn (start t c) events) :
    let report := (p.report (p.run (start t c) events) interrupted now).1
    let results := p.results (start t c) events
    let first := p.results (start t c) (beforeSuiteEnd events)
    let tests := (results.map (·.name)).dedup
    (report.counts = [.pass, .failure, .skip, .timeout, .crash].map (fun v ↦
        (v, first.countP (·.verdict = v))) ∧
      report.skipped = first.countP (·.verdict = .skip)) ∧
    (report.passes = tests.countP (fun n ↦
        ∃ a ∈ (attemptsAt n results).getLast?, a.verdict = .pass) ∧
      report.regressions = tests.countP (fun n ↦ ∃ a ∈ (attemptsAt n results).getLast?,
        a.expected.has a.verdict = false ∧ a.verdict ≠ .pass)) ∧
    (∀ a ∈ results, a.expected = (p.expectations.get a.name).verdicts) ∧
    ∀ path l, Trie.getAt? path report.tests.children = some l → ∃ n ∈ tests,
      path = Path.segments n ∧ l.Tells (attemptsAt n results) ∧
        (l.hasStderr = true ↔ ∃ a ∈ p.collect endings (start t c) events,
          a.name = n ∧ a.messages ≠ []) := by
  intro report results first tests
  have haccount : Account p (start t c) (p.run (start t c) events) results _ _ :=
    account_run (start_filed t c) hgoes
  have hsound : (p.run (start t c) events).history.Sound := sound_run History.sound_empty hgoes
  have hkept := exists_of_forall₂ (kept_run (start_filed t c) (start_inFlight p t c) hgoes)
  have htests (n : String) : n ∈ Keyed.keys (p.run (start t c) events).history.tests ↔
      n ∈ results.map (·.name) := by
    rw [haccount.tests]
    exact or_iff_right List.not_mem_nil
  refine ⟨⟨?_, tally_start t c hgoes .skip⟩, ⟨?_, ?_⟩, fun a ha ↦ ?_, fun path l hl ↦ ?_⟩
  · exact List.map_congr_left fun v _ ↦ by rw [tally_start t c hgoes]
  · have hcount := countP_endsWith hsound haccount.attempts htests (·.verdict == .pass)
    simp only [beq_iff_eq] at hcount
    exact hcount
  · have hcount := countP_endsWith hsound haccount.attempts htests Attempt.isRegression
    simp only [Attempt.isRegression_iff] at hcount
    exact hcount
  · obtain ⟨ended, -, hended⟩ := hkept.2 a ha
    exact hended.declared
  · obtain ⟨⟨n, attempts⟩, hmem, rfl, hleaf⟩ := (Report.shows_ofHistory hsound _).leaf path l hl
    have hattempts : attempts = attemptsAt n results :=
      (hsound.attempts_of_mem hmem).symm.trans (haccount.attempts n)
    rw [hattempts] at hleaf
    have htells := Report.tells_of_leaf? hleaf fun a ha ↦ by
      obtain ⟨ended, -, hended⟩ := hkept.2 a (List.mem_of_mem_filter ha)
      rw [hended.declared]
      exact p.expectations.verdicts_ne_nil _
    exact ⟨n, List.mem_dedup.mpr ((htests n).mp (List.mem_map.mpr ⟨_, hmem, rfl⟩)), rfl, htells,
      htells.hasStderr.trans (exists_hasStderr_iff hkept n)⟩

theorem report_of_run_sample :
    let report := (sample.report (sample.run (start {} {}) sampleEvents) false 0).1
    report.counts = [(.pass, 1), (.failure, 0), (.skip, 0), (.timeout, 0), (.crash, 1)] ∧
      report.passes = 1 ∧ report.regressions = 1 := by
  obtain ⟨⟨hcounts, -⟩, ⟨hpasses, hregressions⟩, -⟩ :=
    report_of_run sample {} {} sampleEvents false 0 (by decide +kernel)
  exact ⟨hcounts.trans (by decide +kernel), hpasses.trans (by decide +kernel),
    hregressions.trans (by decide +kernel)⟩

end Processor

end WebTestRun
