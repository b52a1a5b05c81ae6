import WebTestRun.Proofs.Baseline.Comparison
import WebTestRun.Proofs.Collection.Answer

/-!
# What a comparison decides

A comparison goes through subtests and statuses and stops at the first difference. What it decides
can be said without that order: every subtest that reported does as the baseline declares, every
subtest that the baseline lists reported, and the harness failed as declared. So the order of
subtests does not matter, and a baseline that allows more accepts more.

* `Baseline.Admits` — outcomes are as declared, `accepts_iff_admits` — that is what is accepted.
* `Baseline.Reports` — which difference is the first, `compare_eq_error_iff` — it is reported.
* `Baseline.widen` — a baseline that allows more.
* `compare_decides` — all of it.
-/

set_option autoImplicit false

namespace WebTestRun

namespace Baseline

variable {b b' : Baseline} {o o' : Outcomes} {m : Mismatch}

/-! ## What a baseline declares -/

/-- A status may be reported: it is listed for the subtest, or it is `PASS` and the subtest is not
listed. -/
def Allowed (b : Baseline) (name : String) (s : Recorded) : Prop :=
  match Keyed.find? name b.outcomes.subtests with
  | some declared => declared.statuses.has s = true
  | none => s = .pass

/-- A subtest that failed reported the message that is listed for it, without blanks around it,
unless that is empty. -/
def AsWorded (b : Baseline) (name : String) (observed : Outcome) (s : Recorded) : Prop :=
  s = .fail ∨ s = .preconditionFailed →
    ∀ declared message, Keyed.find? name b.outcomes.subtests = some declared →
      declared.message = some message → message ≠ "" →
        observed.message = some (String.ofList (Text.trim message.toList))

/-- Outcomes are as a baseline declares them. -/
structure Admits (b : Baseline) (o : Outcomes) : Prop where
  /-- Every status of every subtest may be reported. -/
  statuses : ∀ e ∈ o.subtests, ∀ s, e.2.statuses.has s = true → b.Allowed e.1 s
  /-- Every subtest that failed did so with the message that is listed. -/
  messages : ∀ e ∈ o.subtests, ∀ s, e.2.statuses.has s = true → b.AsWorded e.1 e.2 s
  /-- Every listed subtest reported. -/
  reported : ∀ name ∈ Keyed.keys b.outcomes.subtests, name ∈ Keyed.keys o.subtests
  /-- The harness failed exactly if it is declared to, and with the statuses that are declared. -/
  harness : b.outcomes.harnessError.map Outcome.statuses = o.harnessError.map Outcome.statuses

/-- What is wrong with one status of a subtest. A message is looked at only if the status may be
reported. -/
inductive Offends (b : Baseline) (name : String) (observed : Outcome) (s : Recorded) :
    Mismatch → Prop where
  | status (h : ¬ b.Allowed name s) : Offends b name observed s (.status name s)
  | message (hallowed : b.Allowed name s) (h : ¬ b.AsWorded name observed s) :
    Offends b name observed s (.message name)

/-- What is wrong with a subtest: the statuses are gone through in their order. -/
def Faulty (b : Baseline) (e : String × Outcome) (m : Mismatch) : Prop :=
  FirstOf (b.Offends e.1 e.2) e.2.statuses.toList m

/-- What is reported on outcomes: the first difference in the first subtest with one, else the
listed subtests that did not report, else the failure of the harness. -/
inductive Reports (b : Baseline) (o : Outcomes) : Mismatch → Prop where
  | subtest {m : Mismatch} (h : FirstOf b.Faulty o.subtests m) : Reports b o m
  | stale {names : List String} (hsubtests : ∀ e ∈ o.subtests, ∀ m, ¬ b.Faulty e m)
    (hnames : names =
      (Keyed.keys b.outcomes.subtests).filter fun name ↦ name ∉ Keyed.keys o.subtests)
    (hne : names ≠ []) : Reports b o (.staleSubtests names)
  | harness (hsubtests : ∀ e ∈ o.subtests, ∀ m, ¬ b.Faulty e m)
    (hreported : ∀ name ∈ Keyed.keys b.outcomes.subtests, name ∈ Keyed.keys o.subtests)
    (h : b.outcomes.harnessError.map Outcome.statuses ≠ o.harnessError.map Outcome.statuses) :
    Reports b o .harnessError

/-! ## One status -/

theorem allows_iff {name : String} {s : Recorded} :
    allows (Keyed.find? name b.outcomes.subtests) s = true ↔ b.Allowed name s := by
  unfold allows Allowed
  cases Keyed.find? name b.outcomes.subtests <;> simp

/-- A message must be reported if it is listed and not empty, and the subtest failed. -/
theorem requiredMessage?_eq_some_iff {declared : Option Outcome} {s : Recorded} {m : String} :
    requiredMessage? declared s = some m ↔ (s = .fail ∨ s = .preconditionFailed) ∧
      ∃ outcome message, declared = some outcome ∧ outcome.message = some message ∧ message ≠ "" ∧
        String.ofList (Text.trim message.toList) = m := by
  cases declared with
  | none => simp [requiredMessage?]
  | some outcome =>
    cases hmessage : outcome.message with
    | none => simp [requiredMessage?, hmessage]
    | some message =>
      have hlooked : (!message.isEmpty && (s == .fail || s == .preconditionFailed)) = true ↔
          message ≠ "" ∧ (s = .fail ∨ s = .preconditionFailed) := by simp
      simp only [requiredMessage?, Option.bind_some, hmessage]
      by_cases h : message ≠ "" ∧ (s = .fail ∨ s = .preconditionFailed)
      · rw [if_pos (hlooked.mpr h)]
        simp [h, hmessage]
      · rw [if_neg (mt hlooked.mp h)]
        refine iff_of_false nofun ?_
        rintro ⟨hs, outcome', message', houtcome, hmessage', hne, -⟩
        rw [← Option.some.inj houtcome, hmessage] at hmessage'
        exact h ⟨Option.some.inj hmessage' ▸ hne, hs⟩

theorem asWorded_iff {name : String} {observed : Outcome} {s : Recorded} :
    b.AsWorded name observed s ↔
      ∀ m ∈ requiredMessage? (Keyed.find? name b.outcomes.subtests) s,
        observed.message = some m := by
  simp only [Option.mem_def, requiredMessage?_eq_some_iff]
  constructor
  · rintro h m ⟨hs, declared, message, hfind, hmessage, hne, rfl⟩
    exact h hs declared message hfind hmessage hne
  · intro h hs declared message hfind hmessage hne
    exact h _ ⟨hs, declared, message, hfind, hmessage, hne, rfl⟩

/-- **A status is reported before its message.** -/
theorem statusMismatch?_eq_some_iff {name : String} {observed : Outcome} (s : Recorded)
    (m : Mismatch) :
    statusMismatch? (Keyed.find? name b.outcomes.subtests) name observed s = some m ↔
      b.Offends name observed s m := by
  by_cases hallowed : b.Allowed name s
  · have hoffends : b.Offends name observed s m ↔
        .message name = m ∧ ¬ b.AsWorded name observed s := by
      constructor
      · rintro (h | ⟨-, h⟩)
        · exact absurd hallowed h
        · exact ⟨rfl, h⟩
      · rintro ⟨rfl, h⟩
        exact .message hallowed h
    rw [hoffends, asWorded_iff, statusMismatch?, allows_iff.mpr hallowed]
    cases requiredMessage? (Keyed.find? name b.outcomes.subtests) s with
    | none => simp
    | some message => by_cases h : observed.message = some message <;> simp [h]
  · rw [statusMismatch?, Bool.eq_false_iff.mpr (mt allows_iff.mp hallowed)]
    constructor
    · intro h
      obtain rfl := Option.some.inj h
      exact .status hallowed
    · rintro (h | ⟨h, -⟩)
      · rfl
      · exact absurd h hallowed

/-! ## All of them -/

theorem subtestMismatch?_eq_some_iff (e : String × Outcome) (m : Mismatch) :
    b.subtestMismatch? e = some m ↔ b.Faulty e m :=
  findSome?_eq_some_iff_firstOf statusMismatch?_eq_some_iff

/-- Nothing is wrong with a subtest all of whose statuses and messages are as declared. -/
theorem subtestMismatch?_eq_none_iff {e : String × Outcome} :
    b.subtestMismatch? e = none ↔
      ∀ s, e.2.statuses.has s = true → b.Allowed e.1 s ∧ b.AsWorded e.1 e.2 s := by
  simp only [subtestMismatch?, List.findSome?_eq_none_iff, Choice.mem_toList,
    eq_none_iff_of_eq_some_iff statusMismatch?_eq_some_iff]
  refine forall₂_congr fun s hs ↦ ?_
  constructor
  · intro h
    have hallowed : b.Allowed e.1 s := by_contra fun hnot ↦ h _ (.status hnot)
    exact ⟨hallowed, by_contra fun hnot ↦ h _ (.message hallowed hnot)⟩
  · rintro ⟨hallowed, hworded⟩ m (h | ⟨-, h⟩)
    · exact h hallowed
    · exact h hworded

/-- **What is accepted is what is declared.** -/
theorem accepts_iff_admits : b.accepts o = true ↔ b.Admits o := by
  have haccepts : b.accepts o = true ↔ b.compare o = .ok () := by
    rw [accepts]
    cases b.compare o <;> simp
  simp only [haccepts, compare_eq_ok_iff, stale_eq_nil_iff, subtestMismatch?_eq_none_iff,
    Keyed.has_iff_mem_keys]
  constructor
  · rintro ⟨hsubtests, hreported, hharness⟩
    exact ⟨fun e he s hs ↦ (hsubtests e he s hs).1, fun e he s hs ↦ (hsubtests e he s hs).2,
      hreported, hharness⟩
  · rintro ⟨hstatuses, hmessages, hreported, hharness⟩
    exact ⟨fun e he s hs ↦ ⟨hstatuses e he s hs, hmessages e he s hs⟩, hreported, hharness⟩

/-- **The first difference is reported.** -/
theorem compare_eq_error_iff : b.compare o = .error m ↔ b.Reports o m := by
  have hfirst (m : Mismatch) : o.subtests.findSome? b.subtestMismatch? = some m ↔
      FirstOf b.Faulty o.subtests m := findSome?_eq_some_iff_firstOf subtestMismatch?_eq_some_iff
  have hnone : o.subtests.findSome? b.subtestMismatch? = none ↔
      ∀ e ∈ o.subtests, ∀ m, ¬ b.Faulty e m := by
    simp only [List.findSome?_eq_none_iff, eq_none_iff_of_eq_some_iff subtestMismatch?_eq_some_iff]
  have hstale : b.stale o =
      (Keyed.keys b.outcomes.subtests).filter fun name ↦ name ∉ Keyed.keys o.subtests := by
    rw [stale]
    refine List.filter_congr fun name _ ↦ ?_
    simp [← Keyed.has_iff_mem_keys]
  have hreported : b.stale o = [] ↔
      ∀ name ∈ Keyed.keys b.outcomes.subtests, name ∈ Keyed.keys o.subtests := by
    simp only [stale_eq_nil_iff, Keyed.has_iff_mem_keys]
  constructor
  · intro h
    rw [compare] at h
    split at h
    · rename_i m' hm'
      obtain rfl := Except.error.inj h
      exact .subtest ((hfirst _).mp hm')
    · rename_i hsubtests
      have hsubtests := hnone.mp hsubtests
      simp only at h
      split at h
      · rename_i hne
        obtain rfl := Except.error.inj h
        exact .stale hsubtests hstale (by simpa using hne)
      · rename_i hnil
        split at h
        · cases h
        · rename_i hharness
          obtain rfl := Except.error.inj h
          exact .harness hsubtests (hreported.mp (by simpa using hnil)) hharness
  · rintro (h | ⟨hsubtests, rfl, hne⟩ | ⟨hsubtests, hall, hharness⟩)
    · rw [compare, (hfirst m).mpr h]
    · rw [← hstale] at hne ⊢
      rw [compare, hnone.mpr hsubtests]
      simp [hne]
    · rw [compare, hnone.mpr hsubtests]
      simp [hreported.mpr hall, hharness]

/-! ## Other orders, more statuses -/

/-- **The order of subtests does not matter.** -/
theorem Admits.perm (h : b.Admits o) (hnodup : (Keyed.keys b.outcomes.subtests).Nodup)
    (hlisted : b.outcomes.subtests.Perm b'.outcomes.subtests)
    (hharness : b'.outcomes.harnessError = b.outcomes.harnessError)
    (hreported : o.subtests.Perm o'.subtests) (hharness' : o'.harnessError = o.harnessError) :
    b'.Admits o' := by
  have hfind (name : String) := Keyed.find?_perm hlisted hnodup name
  refine ⟨fun e he s hs ↦ ?_, fun e he s hs ↦ ?_, fun name hname ↦ ?_, ?_⟩
  · have hold := h.statuses e (hreported.symm.subset he) s hs
    rwa [Allowed, hfind] at hold
  · have hold := h.messages e (hreported.symm.subset he) s hs
    rwa [AsWorded, hfind] at hold
  · exact (hreported.map _).subset (h.reported name ((hlisted.map _).symm.subset hname))
  · rw [hharness, hharness']
    exact h.harness

/-- A baseline that allows further statuses of a subtest that it lists. -/
def widen (b : Baseline) (name : String) (more : Choice Recorded) : Baseline :=
  match Keyed.find? name b.outcomes.subtests with
  | some declared =>
    let wider := { declared with statuses := declared.statuses.union more }
    { b with outcomes :=
        { b.outcomes with subtests := Keyed.put name wider b.outcomes.subtests } }
  | none => b

theorem find?_widen (b : Baseline) (name : String) (more : Choice Recorded) (q : String) :
    Keyed.find? q (b.widen name more).outcomes.subtests =
      (Keyed.find? q b.outcomes.subtests).map fun declared ↦
        if name = q then { declared with statuses := declared.statuses.union more }
        else declared := by
  rw [widen]
  cases hfind : Keyed.find? name b.outcomes.subtests with
  | none =>
    by_cases hq : name = q
    · rw [← hq, hfind]
      rfl
    · simp [hq]
  | some declared =>
    simp only [Keyed.find?_put]
    by_cases hq : name = q
    · rw [if_pos hq, ← hq, hfind]
      simp
    · simp [hq]

theorem keys_widen (b : Baseline) (name : String) (more : Choice Recorded) :
    Keyed.keys (b.widen name more).outcomes.subtests = Keyed.keys b.outcomes.subtests := by
  rw [widen]
  split
  · rename_i declared hfind
    have hmem : name ∈ Keyed.keys b.outcomes.subtests := by
      rw [Keyed.mem_keys_iff, hfind]
      rfl
    rw [Keyed.keys_put, if_pos hmem]
  · rfl

/-- **What is declared stays so if more is.** -/
theorem Admits.widen (h : b.Admits o) (name : String) (more : Choice Recorded) :
    (b.widen name more).Admits o := by
  refine ⟨fun e he s hs ↦ ?_, fun e he s hs ↦ ?_, ?_, ?_⟩
  · have hold := h.statuses e he s hs
    unfold Allowed at hold ⊢
    rw [find?_widen]
    cases hfind : Keyed.find? e.1 b.outcomes.subtests with
    | none =>
      rw [hfind] at hold
      exact hold
    | some declared =>
      rw [hfind] at hold
      simp only [Option.map_some]
      by_cases hname : name = e.1
      · rw [if_pos hname]
        exact Choice.has_union.mpr (.inl hold)
      · rw [if_neg hname]
        exact hold
  · intro hfailed declared message hdeclared hmessage hne
    rw [find?_widen] at hdeclared
    obtain ⟨listed, hlisted, rfl⟩ := Option.map_eq_some_iff.mp hdeclared
    refine h.messages e he s hs hfailed listed message hlisted ?_ hne
    rw [← hmessage]
    split <;> rfl
  · rw [keys_widen]
    exact h.reported
  · have hharness : (b.widen name more).outcomes.harnessError = b.outcomes.harnessError := by
      rw [Baseline.widen]
      split <;> rfl
    rw [hharness]
    exact h.harness

/-- **What a comparison decides.** For every baseline and all outcomes:

* the outcomes are accepted exactly if they are as the baseline declares;
* else the first difference is reported, by the order of the subtests that reported and of their
  statuses, or else all listed subtests that did not report, or else the failure of the harness;
* the order of subtests does not matter to what is accepted, on neither side, as every subtest is
  listed once;
* a baseline that allows further statuses of a listed subtest accepts what was accepted. -/
theorem compare_decides (b : Baseline) (o : Outcomes) :
    (b.accepts o = true ↔ b.Admits o) ∧
    (∀ m, b.compare o = .error m ↔ b.Reports o m) ∧
    ((Keyed.keys b.outcomes.subtests).Nodup → ∀ (b' : Baseline) (o' : Outcomes),
      b.outcomes.subtests.Perm b'.outcomes.subtests →
      b'.outcomes.harnessError = b.outcomes.harnessError → o.subtests.Perm o'.subtests →
        o'.harnessError = o.harnessError → b'.accepts o' = b.accepts o) ∧
    ∀ name more, b.accepts o = true → (b.widen name more).accepts o = true := by
  refine ⟨accepts_iff_admits, fun _ ↦ compare_eq_error_iff, ?_, fun name more h ↦ ?_⟩
  · intro hnodup b' o' hlisted hharness hreported hharness'
    have hnodup' : (Keyed.keys b'.outcomes.subtests).Nodup := (hlisted.map _).nodup_iff.mp hnodup
    rw [Bool.eq_iff_iff, accepts_iff_admits, accepts_iff_admits]
    exact ⟨fun h ↦ h.perm hnodup' hlisted.symm hharness.symm hreported.symm hharness'.symm,
      fun h ↦ h.perm hnodup hlisted hharness hreported hharness'⟩
  · exact accepts_iff_admits.mpr ((accepts_iff_admits.mp h).widen name more)

/-- A baseline with a subtest that fails and one that may time out. -/
def twoSubtests : Baseline where
  outcomes := { subtests := [
    ("a", { statuses := .ofList [.fail], message := some " expected 1 " }),
    ("b", { statuses := .ofList [.pass, .timeout] })] }

/-- What they reported, the second one first. -/
def twoReports : Outcomes where
  subtests := [("b", .single .timeout), ("a", .single .fail (some "expected 1"))]

theorem compare_decides_sample :
    (Keyed.keys twoSubtests.outcomes.subtests).Nodup ∧
      twoSubtests.accepts { subtests := twoReports.subtests.reverse } = true ∧
      (twoSubtests.widen "a" (.ofList [.pass])).accepts twoReports = true := by
  have hnodup : (Keyed.keys twoSubtests.outcomes.subtests).Nodup := by decide
  have haccepts : twoSubtests.accepts twoReports = true := by decide +kernel
  obtain ⟨-, -, hperm, hwiden⟩ := compare_decides twoSubtests twoReports
  have hreversed := hperm hnodup twoSubtests { subtests := twoReports.subtests.reverse }
    (.refl _) rfl (List.reverse_perm _).symm rfl
  exact ⟨hnodup, hreversed.trans haccepts, hwiden _ _ haccepts⟩

end Baseline

end WebTestRun
