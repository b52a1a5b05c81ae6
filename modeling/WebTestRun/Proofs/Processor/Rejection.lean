import WebTestRun.Processor.Consume
import WebTestRun.Proofs.Processor.Run

/-!
# Rejected events

An event that does not fit the state is mentioned and leaves nothing else behind, so a stream does
the same without its rejected events.

* `Processor.kept`, `Processor.rejections` — the events of a stream that are not rejected, and
  those that are; `Processor.processed` — its events up to its end.
* `step_of_rejects` — a rejected event changes nothing.
* `consume_kept` — a stream does the same without its rejected events.
-/

set_option autoImplicit false

namespace WebTestRun.Processor

variable {p : Processor}

/-- The events of a stream without those that are rejected. None is rejected once the stream has
come to its end. -/
def kept (p : Processor) (s : State) : List Event → List Event
  | [] => []
  | e :: rest =>
    let now := p.step s e
    if rejects now.answer then p.kept now.state rest
    else if (endOf? now.answer).isSome then e :: rest
    else e :: p.kept now.state rest

/-- The events of a stream that are rejected. -/
def rejections (p : Processor) (s : State) : List Event → List Event
  | [] => []
  | e :: rest =>
    let now := p.step s e
    if rejects now.answer then e :: p.rejections now.state rest
    else if (endOf? now.answer).isSome then []
    else p.rejections now.state rest

/-- The events of a stream up to the one that it ends with. -/
def processed (p : Processor) (s : State) : List Event → List Event
  | [] => []
  | e :: rest =>
    let now := p.step s e
    e :: if (endOf? now.answer).isSome then [] else p.processed now.state rest

/-- A stream goes as far as its end. -/
theorem consume_state (p : Processor) (s : State) (events : List Event) :
    (p.consume s events).state = p.run s (p.processed s events) := by
  induction events generalizing s with
  | nil => rfl
  | cons e rest ih =>
    rw [consume, processed, run_cons]
    cases endOf? (p.step s e).answer with
    | some ending => rfl
    | none => exact ih (p.step s e).state

/-- **A rejected event changes nothing**: no attempt, no file, no count, and nothing is uploaded. -/
theorem step_of_rejects {s : State} {e : Event} (h : rejects (p.step s e).answer = true) :
    (p.step s e).state = s ∧ (p.step s e).uploads = [] := by
  have heffect := p.effect s e
  generalize p.step s e = st at h heffect
  cases heffect with
  | ignored => exact ⟨rfl, rfl⟩
  | other => cases h
  | rejected => exact ⟨rfl, rfl⟩
  | started => cases h
  | reported => cases h
  | ended => cases h
  | failed test haction running hrunning hfiled failure hfailure =>
    rw [rejects_error_eq_false hfailure] at h
    cases h

theorem endOf?_of_rejects {a : Except Failure Response} (h : rejects a = true) :
    endOf? a = none ∧ signalOf? a = none := by
  match a, h with
  | .error (.rejected _), _ => exact ⟨rfl, rfl⟩

/-- What a stream does, but for what there is to say. -/
def Consumed.silent (c : Consumed) : Consumed := { c with logs := [] }

theorem consume_cons_of_rejects {s : State} {e : Event} (rest : List Event)
    (h : rejects (p.step s e).answer = true) :
    (p.consume s (e :: rest)).silent = (p.consume s rest).silent := by
  obtain ⟨hstate, huploads⟩ := step_of_rejects h
  obtain ⟨hend, hsignal⟩ := endOf?_of_rejects h
  simp only [consume, hend, hsignal, hstate, huploads, List.nil_append, Consumed.silent,
    Option.orElse_none]

theorem consume_cons_congr {s : State} {e : Event} {rest rest' : List Event}
    (h : (p.consume (p.step s e).state rest).silent =
      (p.consume (p.step s e).state rest').silent) :
    (p.consume s (e :: rest)).silent = (p.consume s (e :: rest')).silent := by
  simp only [Consumed.silent, Consumed.mk.injEq, true_and] at h ⊢
  obtain ⟨hstate, hending, huploads, hsignal⟩ := h
  rw [consume, consume]
  cases endOf? (p.step s e).answer with
  | some ending => exact ⟨rfl, rfl, rfl, rfl⟩
  | none =>
    dsimp only
    exact ⟨hstate, hending, by rw [huploads], by rw [hsignal]⟩

/-- **A stream does the same without its rejected events.** -/
theorem consume_kept (p : Processor) (s : State) (events : List Event) :
    (p.consume s (p.kept s events)).silent = (p.consume s events).silent := by
  induction events generalizing s with
  | nil => rfl
  | cons e rest ih =>
    rw [kept]
    split
    · rename_i hrejects
      rw [consume_cons_of_rejects rest hrejects, (step_of_rejects hrejects).1]
      exact ih s
    · split
      · rfl
      · exact consume_cons_congr (ih (p.step s e).state)

/-- No event that is kept is rejected. -/
theorem rejections_kept (p : Processor) (s : State) (events : List Event) :
    p.rejections s (p.kept s events) = [] := by
  induction events generalizing s with
  | nil => rfl
  | cons e rest ih =>
    rw [kept]
    split
    · rename_i hrejects
      rw [(step_of_rejects hrejects).1]
      exact ih s
    · rename_i hrejects
      split
      · rename_i hend
        rw [rejections]
        simp only [hrejects, hend, if_true]
        rfl
      · rename_i hend
        rw [rejections]
        simp only [hrejects, hend]
        exact ih _

/-- Every event of a stream is kept or rejected. -/
theorem kept_append_rejections_perm (p : Processor) (s : State) (events : List Event) :
    (p.kept s events ++ p.rejections s events).Perm events := by
  induction events generalizing s with
  | nil => exact .refl _
  | cons e rest ih =>
    rw [kept, rejections]
    split
    · exact List.perm_middle.trans ((ih _).cons e)
    · split
      · rw [List.append_nil]
      · exact (ih _).cons e

theorem kept_sublist (p : Processor) (s : State) (events : List Event) :
    (p.kept s events).Sublist events := by
  induction events generalizing s with
  | nil => exact .slnil
  | cons e rest ih =>
    rw [kept]
    split
    · exact (ih _).cons e
    · split
      · exact .refl _
      · exact (ih _).cons_cons e

/-- **Rejected events leave no trace.** An event that does not fit the state changes nothing of it,
its files included, and uploads nothing. So a stream has the same final state, end, uploads and
signal as without its rejected events, which are left out and no others. -/
theorem rejected_leaves_no_trace (p : Processor) (s : State) :
    (∀ e reason, (p.step s e).answer = .error (.rejected reason) →
      (p.step s e).state = s ∧ (p.step s e).uploads = []) ∧
    ∀ events,
      (p.kept s events).Sublist events ∧
      (p.kept s events ++ p.rejections s events).Perm events ∧
      p.rejections s (p.kept s events) = [] ∧
      (p.consume s (p.kept s events)).state = (p.consume s events).state ∧
      (p.consume s (p.kept s events)).ending = (p.consume s events).ending ∧
      (p.consume s (p.kept s events)).uploads = (p.consume s events).uploads ∧
      (p.consume s (p.kept s events)).signal = (p.consume s events).signal := by
  refine ⟨fun e reason h ↦ step_of_rejects (by rw [h]; rfl), fun events ↦ ?_⟩
  have hsame := consume_kept p s events
  simp only [Consumed.silent, Consumed.mk.injEq, true_and] at hsame
  exact ⟨kept_sublist p s events, kept_append_rejections_perm p s events,
    rejections_kept p s events, hsame⟩

/-- One test has crashed. Of another one a subtest has reported, and there is output to be kept. -/
def eventsBefore : List Event :=
  [{ action := .testStart ⟨"a", none⟩ },
   { action := .testEnd ⟨"a", none⟩ { status := "CRASH", message := some "m" } [] },
   { action := .testStart ⟨"b", none⟩ },
   { action := .testStatus ⟨"b", none⟩ "s" { status := "PASS" } },
   { action := .processOutput "chromedriver" (.string "gone") }]

/-- The subtest reports again. -/
def reportAgain : Event :=
  { action := .testStatus ⟨"b", none⟩ "s" { status := "FAIL", message := some "n" } }

/-- The subtest reports again, its test starts again, the other test ends again, and then it ends
itself. -/
def eventsAfter : List Event :=
  [reportAgain,
   { action := .testStart ⟨"b", none⟩ },
   { action := .testEnd ⟨"a", none⟩ { status := "OK" } [] },
   { action := .testEnd ⟨"b", none⟩ { status := "OK" } [] }]

theorem rejected_leaves_no_trace_sample :
    let p := subtestSample
    let s := p.run (start {} {}) eventsBefore
    ((p.step s reportAgain).answer = .error (.rejected (.duplicateSubtest "external/wpt/b" "s")) ∧
      (p.step s reportAgain).state = s ∧ (p.step s reportAgain).uploads = []) ∧
    (p.rejections s eventsAfter).map (·.action.name) = ["test_status", "test_start", "test_end"] ∧
      (p.kept s eventsAfter).map (·.action.name) = ["test_end"] ∧
      (p.consume s eventsAfter).uploads.length = 1 ∧
      (p.consume s (p.kept s eventsAfter)).state = (p.consume s eventsAfter).state ∧
      (p.consume s (p.kept s eventsAfter)).uploads = (p.consume s eventsAfter).uploads := by
  intro p s
  have hseen :
      (p.step s reportAgain).answer =
        .error (.rejected (.duplicateSubtest "external/wpt/b" "s")) ∧
      (p.rejections s eventsAfter).map (·.action.name) =
        ["test_status", "test_start", "test_end"] ∧
      (p.kept s eventsAfter).map (·.action.name) = ["test_end"] ∧
      (p.consume s eventsAfter).uploads.length = 1 := by
    decide +kernel
  obtain ⟨hanswer, hrejections, hkept, huploads⟩ := hseen
  obtain ⟨hone, hall⟩ := rejected_leaves_no_trace p s
  obtain ⟨-, -, -, hstate, -, hsame, -⟩ := hall eventsAfter
  exact ⟨⟨hanswer, hone _ _ hanswer⟩, hrejections, hkept, huploads, hstate, hsame⟩

end WebTestRun.Processor
