import WebTestRun.Proofs.Attempt.Reports
import WebTestRun.Proofs.Baseline.Comparison
import WebTestRun.Proofs.Baseline.RoundTrip

/-!
# Attempts against a baseline of their own

When baselines are reset, what an attempt observed becomes the baseline of its test. An attempt
that then observes the same passes, except for one thing: a comparison takes the blanks off the
ends of a declared message and leaves those of the observed one, so a failure whose message starts
or ends in a blank never agrees with its own baseline.

* `Outcomes.FitsLines` — names and compared messages are read back as they were written.
* `compare_asRead_eq_ok_iff` — when outcomes agree with what is read of their own baseline.
* `read_own_baseline` — the text of observed outcomes is a baseline, and when they agree with it.
-/

set_option autoImplicit false

namespace WebTestRun

open Text

/-- Names and compared messages are read back as they were written: a name stands on one line, and
no line of a message that is compared ends in a carriage return. -/
structure Outcomes.FitsLines (o : Outcomes) : Prop where
  names : ∀ s ∈ o.subtests, OneLine s.1.toList
  messages : ∀ s ∈ o.subtests, ∀ m ∈ s.2.compared?, ∀ l ∈ m.toList.splitOn '\n',
    l.getLast? ≠ some '\r'

namespace Baseline

/-- **The message that a baseline requires of an outcome which it was made from** is the message
that was observed, without blanks at its ends. -/
theorem requiredMessage?_asRead {s : Recorded} {m : Option String} {o : Outcome}
    (ho : o = .single s (Attempt.said m))
    (hlines : ∀ m ∈ o.compared?, ∀ l ∈ m.toList.splitOn '\n', l.getLast? ≠ some '\r') :
    requiredMessage? (some o.asRead) s =
      o.compared?.map fun m ↦ String.ofList (trim m.toList) := by
  have hmessage : o.message = Attempt.said m := by rw [ho, Outcome.single]
  have hcompared : o.compared? =
      if s = .fail ∨ s = .preconditionFailed then Attempt.said m else none := by
    rw [ho, Outcome.compared?_single]
  rw [requiredMessage?, Option.bind_some, Outcome.asRead, hmessage]
  by_cases hs : s = .fail ∨ s = .preconditionFailed
  · rw [if_pos hs] at hcompared
    rw [hcompared] at hlines ⊢
    cases hm : Attempt.said m with
    | none => rfl
    | some t =>
      have hfilled : t.isEmpty = false := by
        simpa using (Option.filter_eq_some_iff.mp hm).2
      rw [readMessage_eq_self (hlines t (by simp [hm]))]
      simp [hfilled, hs]
  · rw [if_neg hs] at hcompared
    rw [hcompared]
    cases Attempt.said m with
    | none => rfl
    | some t =>
      have hs' : (s == .fail || s == .preconditionFailed) = false := by simpa using hs
      simp only [readMessage, Option.map_some, hs', Bool.and_false]
      rfl

/-- A subtest agrees with its own baseline if its message starts and ends without a blank. -/
theorem subtestMismatch?_asRead_eq_none_iff {header : Option Header} {o : Outcomes}
    (ho : Attempt.Observed o) (hfit : o.FitsLines) {s : String × Outcome} (hs : s ∈ o.subtests) :
    subtestMismatch? ⟨header, o.asRead⟩ s = none ↔
      ∀ m ∈ s.2.compared?, trim m.toList = m.toList := by
  obtain ⟨status, message, hsingle⟩ := ho.single s hs
  have hdeclared : Keyed.find? s.1 o.asRead.subtests = some s.2.asRead := by
    rw [Outcomes.asRead, Keyed.find?_map, Keyed.find?_eq_some_of_mem ho.nodup hs, Option.map_some]
  have hallowed : allows (some s.2.asRead) status = true := by
    rw [allows, Outcome.asRead, hsingle]
    cases status <;> rfl
  have hobserved : ∀ m ∈ s.2.compared?, s.2.message = some m := by
    intro m hm
    rw [Outcome.compared?] at hm
    split at hm
    · exact hm
    · simp at hm
  have hstatuses : s.2.statuses.toList = [status] := by rw [hsingle, Outcome.toList_single]
  rw [subtestMismatch?, hstatuses, List.findSome?_singleton, hdeclared,
    statusMismatch?_eq_none_iff hallowed, requiredMessage?_asRead hsingle (hfit.messages s hs)]
  cases hm : s.2.compared? with
  | none => simp
  | some m =>
    simp only [Option.map_some, Option.mem_def, Option.some.injEq, forall_eq', hobserved m hm]
    rw [← String.toList_inj, String.toList_ofList, eq_comm]

/-- **When outcomes agree with what is read of their own baseline.** -/
theorem compare_asRead_eq_ok_iff {header : Option Header} {o : Outcomes}
    (ho : Attempt.Observed o) (hfit : o.FitsLines) :
    compare ⟨header, o.asRead⟩ o = .ok () ↔
      ∀ s ∈ o.subtests, ∀ m ∈ s.2.compared?, trim m.toList = m.toList := by
  have hstale : stale ⟨header, o.asRead⟩ o = [] := by
    rw [stale_eq_nil_iff, Outcomes.asRead, Keyed.keys_map]
    exact fun name hname ↦ Keyed.has_iff_mem_keys.mpr hname
  have hharness : o.asRead.harnessError.map Outcome.statuses =
      o.harnessError.map Outcome.statuses := by
    rw [Outcomes.asRead, Option.map_map]
    rfl
  rw [compare_eq_ok_iff]
  constructor
  · intro h s hs
    exact (subtestMismatch?_asRead_eq_none_iff ho hfit hs).mp (h.1 s hs)
  · intro h
    exact ⟨fun s hs ↦ (subtestMismatch?_asRead_eq_none_iff ho hfit hs).mpr (h s hs), hstale,
      hharness⟩

/-- Outcomes that all pass agree with the baseline that declares nothing. -/
theorem compare_empty_of_allPass {o : Outcomes} (hpass : o.allPass = true)
    (hharness : o.harnessError = none) : compare {} o = .ok () := by
  rw [compare_eq_ok_iff, hharness]
  refine ⟨fun s hs ↦ ?_, by simp [stale, Keyed.keys], rfl⟩
  have hs : s.2.passes = true := by
    rw [Outcomes.allPass, Bool.and_eq_true, List.all_eq_true] at hpass
    exact hpass.2 s hs
  rw [subtestMismatch?, List.findSome?_eq_none_iff]
  intro r hr
  have hr : r = .pass := by simpa using List.all_eq_true.mp hs r hr
  rw [hr]
  rfl

end Baseline

namespace Attempt

theorem Observed.compared?_eq_none {o : Outcomes} (ho : Observed o) (hpass : o.allPass = true)
    {s : String × Outcome} (hs : s ∈ o.subtests) : s.2.compared? = none := by
  obtain ⟨status, message, hsingle⟩ := ho.single s hs
  rw [Outcomes.allPass, Bool.and_eq_true, List.all_eq_true] at hpass
  have hstatus := hpass.2 s hs
  rw [hsingle, Outcome.passes, Outcome.toList_single] at hstatus
  have hstatus : status = .pass := by simpa using hstatus
  rw [hsingle, hstatus]
  rfl

theorem Observed.readable {o : Outcomes} (ho : Observed o) (hfit : o.FitsLines)
    (hharness : ∀ e ∈ o.harnessError, e.statuses.toList ≠ []) : o.Readable where
  harness := hharness
  statuses s hs := by
    obtain ⟨status, message, hsingle⟩ := ho.single s hs
    rw [hsingle, Outcome.toList_single]
    exact List.cons_ne_nil _ _
  names := hfit.names
  nodup := ho.nodup

theorem outcomesAfter_harness (kind : TestKind) (reports : List Report) (status : Status)
    (message : Option String) : ∀ e ∈ (outcomesAfter kind reports status message).harnessError,
      ∃ s, status.recorded? = some s ∧ e = .single s (said message) := by
  rw [outcomesAfter]
  cases status.recorded? with
  | none => simp [(observed_spec kind reports).2]
  | some s => simp [eq_comm]

/-- A status that ends a test with subtests is recorded only as a failure of the harness. -/
theorem recorded?_ne_pass {kind : TestKind} (hkind : kind.hasSubtests = true) {legal : List Status}
    (hlegal : kind.legal .test = .ok legal) {status : Status} (hstatus : status ∈ legal) :
    status.recorded? ≠ some .pass := by
  cases kind with
  | testharness =>
    obtain rfl := Except.ok.inj hlegal
    cases status <;> simp_all [Status.recorded?]
  | wdspec =>
    obtain rfl := Except.ok.inj hlegal
    cases status <;> simp_all [Status.recorded?]
  | reftest | printReftest | crashtest => exact absurd hkind (by decide)

/-- The text of observed outcomes is a baseline, and whether they agree with it depends on their
messages alone. -/
theorem read_own_baseline (header : Baseline.Header) {o : Outcomes} (ho : Observed o)
    (hharness : ∀ e ∈ o.harnessError, ∃ s m, s ≠ Recorded.pass ∧ e = .single s m)
    (hfit : o.allPass = true ∨ o.FitsLines) :
    ∃ b, Baseline.read (o.baselineText header) = .ok b ∧ (b.compare o = .ok () ↔
      ∀ s ∈ o.subtests, ∀ m ∈ s.2.compared?, trim m.toList = m.toList) := by
  -- Outcomes that all pass have a text of their own, which declares nothing.
  cases hpass : o.allPass with
  | true =>
    have hnone : o.harnessError = none := by
      rw [Option.eq_none_iff_forall_not_mem]
      intro e he
      obtain ⟨s, m, hs, rfl⟩ := hharness e he
      rw [Outcomes.allPass, Option.mem_def.mp he] at hpass
      simp [Outcome.passes, hs] at hpass
    refine ⟨{}, ?_, ?_⟩
    · rw [Outcomes.baselineText, Outcomes.baselineLines, if_pos hpass, Baseline.read_allPassMarker]
    · refine iff_of_true (Baseline.compare_empty_of_allPass hpass hnone) fun s hs m hm ↦ ?_
      rw [ho.compared?_eq_none hpass hs] at hm
      simp at hm
  | false =>
    have hfit : o.FitsLines := hfit.resolve_left (by simp [hpass])
    have hstatuses : ∀ e ∈ o.harnessError, e.statuses.toList ≠ [] := by
      intro e he
      obtain ⟨s, m, -, rfl⟩ := hharness e he
      simp
    exact ⟨_, Baseline.read_baselineText header hpass (ho.readable hfit hstatuses),
      Baseline.compare_asRead_eq_ok_iff ho hfit⟩

/-- **The verdict on an attempt against its own baseline.** An attempt at a test with subtests ends
with outcomes; their text is a baseline, and a second attempt that observes the same passes against
it exactly if no failure has a message with a blank at one of its ends. The text has to hold what
was observed: all of it passed, or names and compared messages fit their lines. -/
theorem verdict_against_own_baseline (first second : Start) (hkind : first.kind.hasSubtests = true)
    (hsame : second.kind = first.kind) {legal : List Status}
    (hlegal : first.kind.legal .test = .ok legal) {status : Status} (hstatus : status ∈ legal)
    (htimeout : status.verdict ≠ .timeout) (hcrash : status.verdict ≠ .crash)
    (reports : List Report) (message : Option String) (ended ended' : Int) :
    ∃ a logs, first.run reports (Named.name status) message ended = .ok (a, logs) ∧
      (a.outcomes.allPass = true ∨ a.outcomes.FitsLines →
        (∃ b, Baseline.read a.baseline = .ok b) ∧
        ∃ a' logs', { second with baselineText := some a.baseline : Start }.run reports
            (Named.name status) message ended' = .ok (a', logs') ∧
          (a'.verdict = .pass ↔
            ∀ s ∈ a.outcomes.subtests, ∀ m ∈ s.2.compared?, trim m.toList = m.toList)) := by
  obtain ⟨a, logs, hrun, hakind, ho, -⟩ :=
    run_eq_ok first hkind reports htimeout hcrash message ended
  obtain ⟨a', logs', hrun', -, ho', hverdict⟩ :=
    run_eq_ok { second with baselineText := some a.baseline } (hsame ▸ hkind) reports htimeout
      hcrash message ended'
  have ho' : a'.outcomes = a.outcomes := by rw [ho', ho, ← hsame]
  have hharness : ∀ e ∈ a.outcomes.harnessError, ∃ s m, s ≠ Recorded.pass ∧ e = .single s m := by
    intro e he
    rw [ho] at he
    obtain ⟨s, hs, rfl⟩ := outcomesAfter_harness _ _ _ _ e he
    exact ⟨s, _, fun h ↦ recorded?_ne_pass hkind hlegal hstatus (h ▸ hs), rfl⟩
  refine ⟨a, logs, hrun, fun hfit ↦ ?_⟩
  obtain ⟨b, hread, hcompare⟩ := read_own_baseline (.ofKind a.kind)
    (ho ▸ outcomesAfter_observed first.kind reports status message) hharness hfit
  refine ⟨⟨b, hread⟩, a', logs', hrun', ?_⟩
  rw [hverdict, ho', ← hcompare]
  constructor
  · rintro ⟨c, hc, hagrees⟩
    obtain rfl := Except.ok.inj (hread.symm.trans hc)
    exact hagrees
  · exact fun hagrees ↦ ⟨b, hread, hagrees⟩

/-- A test that nothing is known of but its name. -/
def sample : Start where
  name := "external/wpt/a.html"
  kind := .testharness
  filePath := "external/wpt/a.html"
  started := 0
  expected := .ofList [.pass]
  baselineText := none

/-- The reports about a subtest that passes and one that fails. -/
def sampleReports : List Report := [⟨"a", "PASS", none⟩, ⟨"b", "FAIL", some "x"⟩]

theorem verdict_against_own_baseline_sample :
    ∃ a logs, sample.run sampleReports (Named.name Status.error) (some "y") 5 = .ok (a, logs) ∧
      (∃ b, Baseline.read a.baseline = .ok b) ∧
      ∃ a' logs', { sample with baselineText := some a.baseline : Start }.run sampleReports
          (Named.name Status.error) (some "y") 9 = .ok (a', logs') ∧
        a'.verdict = .pass := by
  obtain ⟨a, logs, hrun, hagain⟩ := verdict_against_own_baseline sample sample rfl rfl rfl
    (show Status.error ∈ _ by decide) (by decide) (by decide) sampleReports (some "y") 5 9
  have hsubtests : a.outcomes.subtests =
      [("a", .single .pass none), ("b", .single .fail (some "x"))] := by
    have hend : (sample.run sampleReports (Named.name Status.error) (some "y") 5).map
        (fun r ↦ r.1.outcomes.subtests) =
          .ok [("a", .single .pass none), ("b", .single .fail (some "x"))] := rfl
    rw [hrun] at hend
    exact Except.ok.inj hend
  have hfit : a.outcomes.FitsLines := by
    constructor <;> rw [hsubtests] <;> decide
  obtain ⟨hread, a', logs', hrun', hverdict⟩ := hagain (.inr hfit)
  refine ⟨a, logs, hrun, hread, a', logs', hrun', hverdict.mpr ?_⟩
  rw [hsubtests]
  decide

/-- The verdict on an attempt that is made once more, against the baseline of the first time. -/
def Start.verdictAgain (start : Start) (reports : List Report) (status : String)
    (message : Option String) (ended : Int) : Except Status.Unknown Verdict := do
  let (first, _) ← start.run reports status message ended
  let (second, _) ←
    { start with baselineText := some first.baseline : Start }.run reports status message ended
  return second.verdict

/-- An attempt need not agree with its own baseline: a message starts in a blank, a name does not
stand on one line, or a line ends in a carriage return. -/
theorem failure_against_own_baseline :
    (∀ reports ∈ [[⟨"a", "FAIL", some " x"⟩], [⟨"a\nb", "FAIL", none⟩], [⟨"a\r", "FAIL", none⟩],
        [⟨"a", "FAIL", some "x\r\ny"⟩]],
      (sample.verdictAgain reports (Named.name Status.ok) none 5).toOption = some .failure) ∧
    sample.kind.hasSubtests = true ∧
    (∃ legal, sample.kind.legal .test = .ok legal ∧ Status.ok ∈ legal) ∧
    Status.ok.verdict ≠ .timeout ∧ Status.ok.verdict ≠ .crash := by
  refine ⟨?_, rfl, ⟨_, rfl, by decide⟩, by decide, by decide⟩
  simp only [List.forall_mem_cons]
  refine ⟨?_, ?_, ?_, ?_, by simp⟩
  all_goals decide +kernel

end Attempt

end WebTestRun
