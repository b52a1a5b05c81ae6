import WebTestRun.Attempt.Running
import WebTestRun.Proofs.Collection.Answer
import WebTestRun.Proofs.Collection.Keyed

/-!
# An attempt and its reports

What an attempt observes follows from the kind of its test, the reports about its subtests and
its end. What is known at its start stays as it is, and the baseline does not matter until the
end.

* `Report`, `Running.reportAll` — the reports about subtests, one after the other.
* `Start.run` — an attempt from its start to its end.
* `Observed` — what holds of observed outcomes: one status each, no empty message, no name twice.
* `run_eq_ok` — what an attempt ends with.
* `Running.report_named`, `Running.finish_named` — the name of its test does not matter.
-/

set_option autoImplicit false

namespace WebTestRun.Attempt

/-- A report about a subtest. -/
structure Report where
  /-- The name of the subtest. -/
  subtest : String
  /-- Its status, as the runner spells it. -/
  status : String
  /-- A diagnostic message. -/
  message : Option String := none

namespace Running

/-- A report that is taken unless it is rejected. -/
def take (r : Running) (c : Report) : Running :=
  match r.report c.subtest c.status c.message with
  | .ok r => r
  | .error _ => r

/-- Several reports, one after the other. -/
def reportAll (r : Running) (reports : List Report) : Running := reports.foldl take r

end Running

/-- An attempt from its start to its end. -/
def Start.run (start : Start) (reports : List Report) (status : String) (message : Option String)
    (ended : Int) : Except Status.Unknown (Attempt × List Log) :=
  (Running.reportAll { toStart := start } reports).finish status message ended

/-! ## What is observed -/

/-- What holds of observed outcomes. -/
structure Observed (o : Outcomes) : Prop where
  /-- No subtest reports twice. -/
  nodup : (Keyed.keys o.subtests).Nodup
  /-- Each subtest has one status, and a message says something. -/
  single : ∀ s ∈ o.subtests, ∃ status message, s.2 = .single status (said message)

/-- Outcomes with one more report. -/
def observe (kind : TestKind) (o : Outcomes) (c : Report) : Outcomes :=
  match if kind.hasSubtests then Recorded.ofStatusName? c.status else none with
  | none => o
  | some s => (o.addSubtest? c.subtest (.single s (said c.message))).getD o

theorem Observed.observe {o : Outcomes} (h : Observed o) (kind : TestKind) (c : Report) :
    Observed (observe kind o c) := by
  rw [Attempt.observe]
  split
  · exact h
  · rename_i s _
    rw [Outcomes.addSubtest?]
    cases hc : Keyed.has c.subtest o.subtests with
    | true => exact h
    | false =>
      refine ⟨?_, fun t ht ↦ ?_⟩
      · have hnew : c.subtest ∉ Keyed.keys o.subtests := by
          rw [← Keyed.has_iff_mem_keys, hc]
          exact Bool.false_ne_true
        rw [if_neg Bool.false_ne_true, Option.getD_some, Keyed.keys, List.map_append]
        exact Keyed.nodup_concat_iff.mpr ⟨hnew, h.nodup⟩
      · rcases List.mem_append.mp ht with ht | ht
        · exact h.single t ht
        · rw [List.mem_singleton] at ht
          exact ⟨s, c.message, by rw [ht]⟩

theorem observe_harnessError (kind : TestKind) (o : Outcomes) (c : Report) :
    (observe kind o c).harnessError = o.harnessError := by
  rw [observe]
  split
  · rfl
  · unfold Outcomes.addSubtest?
    cases Keyed.has c.subtest o.subtests <;> rfl

namespace Running

theorem report_name {r r' : Running} {subtest status : String} {message : Option String}
    (h : r.report subtest status message = .ok r') : r'.name = r.name := by
  unfold report at h
  dsimp only at h
  split at h
  · cases h
  · rw [← Except.ok.inj h]

theorem finish_name {r : Running} {status : String} {message : Option String}
    {ended : Int} {f : Attempt × List Log} (h : r.finish status message ended = .ok f) :
    f.1.name = r.name := by
  obtain ⟨v, -, rfl⟩ := Answer.map_eq_ok_iff.mp h
  rfl

/-- **What a report does**: it leaves what was known at the start, and adds what is observed. -/
theorem take_eq (r : Running) (c : Report) :
    (r.take c).toStart = r.toStart ∧ (r.take c).outcomes = observe r.kind r.outcomes c := by
  have hrecordable : (if r.kind.hasSubtests then Recorded.ofStatusName? c.status else none) =
      r.recordable? c.status := rfl
  rw [observe, hrecordable, take, report]
  cases r.recordable? c.status with
  | none => exact ⟨rfl, rfl⟩
  | some s =>
    unfold Outcomes.addSubtest?
    cases Keyed.has c.subtest r.outcomes.subtests <;> exact ⟨rfl, rfl⟩

theorem reportAll_eq (r : Running) (reports : List Report) :
    (r.reportAll reports).toStart = r.toStart ∧
      (r.reportAll reports).outcomes = reports.foldl (observe r.kind) r.outcomes := by
  induction reports generalizing r with
  | nil => exact ⟨rfl, rfl⟩
  | cons c reports ih =>
    obtain ⟨hstart, houtcomes⟩ := ih (r.take c)
    rw [(r.take_eq c).1] at hstart houtcomes
    rw [(r.take_eq c).2] at houtcomes
    exact ⟨hstart, houtcomes⟩

end Running

/-! ## A whole attempt -/

/-- What the subtests of an attempt reported. -/
def observed (kind : TestKind) (reports : List Report) : Outcomes :=
  reports.foldl (observe kind) {}

theorem observed_spec (kind : TestKind) (reports : List Report) :
    Observed (observed kind reports) ∧ (observed kind reports).harnessError = none := by
  have hfold : ∀ o : Outcomes, Observed o ∧ o.harnessError = none →
      Observed (reports.foldl (observe kind) o) ∧
        (reports.foldl (observe kind) o).harnessError = none := by
    induction reports with
    | nil => exact fun o h ↦ h
    | cons c reports ih =>
      exact fun o h ↦ ih _ ⟨h.1.observe kind c, (observe_harnessError kind o c).trans h.2⟩
  exact hfold {} ⟨⟨List.nodup_nil, by simp⟩, rfl⟩

/-- The outcomes of an attempt at a test with subtests, once it has ended. -/
def outcomesAfter (kind : TestKind) (reports : List Report) (status : Status)
    (message : Option String) : Outcomes :=
  match status.recorded? with
  | some s => { observed kind reports with harnessError := some (.single s (said message)) }
  | none => observed kind reports

theorem outcomesAfter_observed (kind : TestKind) (reports : List Report) (status : Status)
    (message : Option String) : Observed (outcomesAfter kind reports status message) := by
  rw [outcomesAfter]
  split
  · exact ⟨(observed_spec kind reports).1.nodup, (observed_spec kind reports).1.single⟩
  · exact (observed_spec kind reports).1

theorem Running.outcomesAtEnd_eq {r : Running} {kind : TestKind} {reports : List Report}
    (hkind : r.kind.hasSubtests = true) (ho : r.outcomes = observed kind reports)
    (status : Status) (message : Option String) :
    r.outcomesAtEnd status message = outcomesAfter kind reports status message := by
  rw [outcomesAtEnd, if_pos hkind, ho]
  rfl

theorem Running.agrees_eq_true_iff {r : Running} {o : Outcomes} :
    (r.agrees o).1 = true ↔ ∃ b, r.baseline = .ok b ∧ b.compare o = .ok () := by
  rw [agrees]
  cases r.baseline with
  | error e => simp
  | ok b =>
    cases hc : b.compare o with
    | ok _ => simp [hc]
    | error m => cases m <;> simp [hc]

/-- **What an attempt at a test with subtests ends with**, unless it timed out or crashed: the
outcomes that were observed, and a verdict that tells whether they agree with the baseline. -/
theorem run_eq_ok (start : Start) (hkind : start.kind.hasSubtests = true) (reports : List Report)
    {status : Status} (htimeout : status.verdict ≠ .timeout) (hcrash : status.verdict ≠ .crash)
    (message : Option String) (ended : Int) :
    ∃ a logs, start.run reports (Named.name status) message ended = .ok (a, logs) ∧
      a.kind = start.kind ∧ a.outcomes = outcomesAfter start.kind reports status message ∧
      (a.verdict = .pass ↔ ∃ b, Running.baseline { toStart := start } = .ok b ∧
        b.compare a.outcomes = .ok ()) := by
  obtain ⟨hstart, ho⟩ := Running.reportAll_eq { toStart := start } reports
  rw [Start.run]
  generalize Running.reportAll { toStart := start } reports = r at hstart ho
  subst hstart
  have hparse : Status.parse (Named.name status) = .ok status := by
    rw [Status.parse, Named.ofName?_name]
  have hend : r.outcomesAtEnd status message = outcomesAfter r.kind reports status message :=
    Running.outcomesAtEnd_eq hkind ho status message
  have hjudge : (r.judge status (r.outcomesAtEnd status message)).1 =
      if (r.agrees (r.outcomesAtEnd status message)).1 then .pass else .failure := by
    simp [Running.judge, hkind, htimeout, hcrash]
  rw [Running.finish, hparse]
  refine ⟨_, _, rfl, rfl, hend, ?_⟩
  show (r.judge status (r.outcomesAtEnd status message)).1 = .pass ↔
    ∃ b, r.baseline = .ok b ∧ b.compare (r.outcomesAtEnd status message) = .ok ()
  rw [hjudge, ← Running.agrees_eq_true_iff]
  cases (r.agrees (r.outcomesAtEnd status message)).1 <;> simp

/-! ## An attempt under another name -/

/-- The attempt as one at a test of another name. -/
def named (name : String) (a : Attempt) : Attempt := { a with name }

namespace Running

/-- The running attempt as one at a test of another name. -/
def named (name : String) (r : Running) : Running := { r with name }

theorem report_named (r : Running) (name subtest status : String) (message : Option String) :
    (r.named name).report subtest status message =
      (r.report subtest status message).map (named name) := by
  have hrecordable : (r.named name).recordable? status = r.recordable? status := rfl
  have houtcomes : (r.named name).outcomes = r.outcomes := rfl
  unfold report
  rw [hrecordable, houtcomes]
  dsimp only
  split <;> rfl

theorem judge_named (r : Running) (name : String) (status : Status) (o : Outcomes) :
    ((r.named name).judge status o).1 = (r.judge status o).1 := by
  have hkind : (r.named name).kind = r.kind := rfl
  have hbaseline : (r.named name).baseline = r.baseline := rfl
  have hagrees : ((r.named name).agrees o).1 = (r.agrees o).1 := by
    rw [Bool.eq_iff_iff, agrees_eq_true_iff, agrees_eq_true_iff, hbaseline]
  rw [judge, judge, hkind]
  split
  · dsimp only
    rw [hagrees]
  · rfl

/-- **The name of a test decides nothing about how an attempt at it ends.** -/
theorem finish_named (r : Running) (name status : String) (message : Option String) (ended : Int) :
    ((r.named name).finish status message ended).map (·.1) =
      (r.finish status message ended).map fun f ↦ f.1.named name := by
  rw [finish, finish]
  cases Status.parse status with
  | error e => rfl
  | ok s =>
    have houtcomes : (r.named name).outcomesAtEnd s message = r.outcomesAtEnd s message := rfl
    have hjudge := r.judge_named name s (r.outcomesAtEnd s message)
    simp only [Except.map, houtcomes, hjudge]
    rfl

end Running

end WebTestRun.Attempt
