import WebTestRun.Proofs.Processor.Budget
import WebTestRun.Proofs.Processor.Rejection
import WebTestRun.Run.Process
import WebTestRun.Run.Schedule

/-!
# A run ends the same in every order

However reading and consuming take turns, the consumer meets the events in their order. The reader
may stop before the last event, but only because the consumer has stopped or because a budget is
spent, and then the events that are left do not change how the run ends.

* `Processor.consume_append_of_waiting`, `consume_append_of_ended` — streams in two parts.
* `Schedule.Sound` — what holds however far a run is.
* `Schedule.Next.remaining_lt` — every step brings a run closer to its end.
* `Schedule.outcome_independent_of_order` — how a run ends does not depend on the order.
-/

set_option autoImplicit false

namespace WebTestRun

/-! ## Streams in two parts -/

namespace Processor

variable {p : Processor} {s : State} {events : List Event}

theorem endOf?_ne_waiting (answer : Except Failure Response) : endOf? answer ≠ some .waiting := by
  unfold endOf?
  split <;> simp

theorem consume_append_of_waiting (h : (p.consume s events).ending = .waiting)
    (more : List Event) :
    (p.consume s (events ++ more)).state = (p.consume (p.consume s events).state more).state ∧
      (p.consume s (events ++ more)).ending =
        (p.consume (p.consume s events).state more).ending := by
  induction events generalizing s with
  | nil => exact ⟨rfl, rfl⟩
  | cons e rest ih =>
    rw [List.cons_append, consume, consume]
    rw [consume] at h
    dsimp only at h ⊢
    split at h
    · rename_i ending hending
      cases (h : ending = .waiting)
      exact absurd hending (endOf?_ne_waiting _)
    · exact ih h

theorem consume_append_of_ended (h : (p.consume s events).ending ≠ .waiting)
    (more : List Event) : p.consume s (events ++ more) = p.consume s events := by
  induction events generalizing s with
  | nil => exact absurd rfl h
  | cons e rest ih =>
    rw [List.cons_append, consume, consume]
    rw [consume] at h
    dsimp only at h ⊢
    split at h
    · rfl
    · rw [ih h]

theorem isSome_exceeded_consume (h : s.budgets.exceeded.isSome = true) (events : List Event) :
    (p.consume s events).state.budgets.exceeded.isSome = true := by
  have hrun := exceeded_run p s (p.processed s events)
  obtain ⟨which, hwhich⟩ := Option.isSome_iff_exists.mp h
  rw [consume_state]
  cases hafter : (p.run s (p.processed s events)).budgets.exceeded with
  | none => simp [hafter, hwhich] at hrun
  | some w => rfl

theorem consume_singleton_state (p : Processor) (s : State) (e : Event) :
    (p.consume s [e]).state = (p.step s e).state := by
  rw [consume]
  dsimp only
  split <;> rfl

theorem consume_singleton_ending (p : Processor) (s : State) (e : Event) :
    (p.consume s [e]).ending = (endOf? (p.step s e).answer).getD .waiting := by
  rw [consume]
  dsimp only
  split
  · rename_i ending hending
    rw [hending]
    rfl
  · rename_i hnone
    rw [hnone]
    rfl

/-- A stream that waits for more is stopped by its end. -/
theorem drain_of_waiting (h : (p.consume s events).ending = .waiting) :
    (p.drain s events).state = (p.consume s events).state ∧
      (p.drain s events).ending = .shutdown :=
  consume_append_of_waiting h [.shutdown]

theorem drain_of_ended (h : (p.consume s events).ending ≠ .waiting) :
    p.drain s events = p.consume s events :=
  consume_append_of_ended h [.shutdown]

theorem drain_ending_ne_waiting (p : Processor) (s : State) (events : List Event) :
    (p.drain s events).ending ≠ .waiting := by
  by_cases h : (p.consume s events).ending = .waiting
  · rw [(drain_of_waiting h).2]
    decide
  · rw [drain_of_ended h]
    exact h

end Processor

namespace Run.Schedule

open Processor (State)

variable {p : Processor} {s : State} {events : List Event} {t u : Schedule}

/-! ## However far a run is -/

/-- What holds however far a run is. -/
structure Sound (p : Processor) (s : State) (events : List Event) (t : Schedule) : Prop where
  /-- The consumer has met some events, which with those of the queue were sent, in their order. -/
  consumed : ∃ done, (p.consume s done).state = t.state ∧ (p.consume s done).ending = t.stopped ∧
    (t.ending = none → done ++ t.queue ++ t.unread = events) ∧
    (t.ending ≠ none → ∃ front back, done ++ t.queue = front ++ [.shutdown] ∧
      front ++ back = events ∧
      (back = [] ∨ (p.consume s front).ending ≠ .waiting ∨ t.announced ≠ []))
  /-- What was announced is what the latch got. -/
  announced : s.budgets.exceeded.toList ++ t.announced = t.state.budgets.exceeded.toList
  /-- The reader has stopped by itself, or because of an announcement. -/
  ending : ∀ e ∈ t.ending, e ≠ .completed → t.announced ≠ []

theorem start_sound (p : Processor) (s : State) (events : List Event) :
    Sound p s events (start s events) where
  consumed := ⟨[], rfl, rfl, fun _ ↦ rfl, fun h ↦ absurd rfl h⟩
  announced := List.append_nil _
  ending := by simp [start]

/-- The reader may stop when nothing is left, when the consumer has stopped, or when a budget was
announced. -/
theorem Sound.close (h : Sound p s events t) (hnone : t.ending = none)
    (hwhy : t.unread = [] ∨ t.stopped ≠ .waiting ∨ t.announced ≠ []) (unread : List Event)
    {ending : Ending} (hending : ending ≠ .completed → t.announced ≠ []) :
    Sound p s events ({ t with unread }.close ending) := by
  obtain ⟨done, hstate, hstopped, hopen, -⟩ := h.consumed
  refine ⟨⟨done, hstate, hstopped, nofun, fun _ ↦ ?_⟩, h.announced, ?_⟩
  · refine ⟨done ++ t.queue, t.unread, (List.append_assoc ..).symm, hopen hnone, ?_⟩
    refine hwhy.imp_right (Or.imp_left fun hgone ↦ ?_)
    rw [← hstopped] at hgone
    rw [Processor.consume_append_of_ended hgone]
    exact hgone
  · intro e he
    obtain rfl := Option.some.inj he
    exact hending

theorem Sound.consume (h : Sound p s events t) (hwaiting : t.stopped = .waiting) {e : Event}
    {rest : List Event} (hqueue : t.queue = e :: rest) :
    Sound p s events (t.consume p e rest) := by
  obtain ⟨done, hstate, hstopped, hopen, hclosed⟩ := h.consumed
  have hmet : done ++ t.queue = (done ++ [e]) ++ rest := by rw [hqueue]; simp
  have hmore {found : List Exceeded} (hfound : t.announced ≠ []) : t.announced ++ found ≠ [] :=
    List.append_ne_nil_of_left_ne_nil hfound found
  obtain ⟨hstate', hstopped'⟩ :=
    Processor.consume_append_of_waiting (hstopped.trans hwaiting) [e]
  rw [hstate, Processor.consume_singleton_state] at hstate'
  rw [hstate, Processor.consume_singleton_ending] at hstopped'
  refine ⟨⟨done ++ [e], hstate', hstopped', fun hnone ↦ ?_, fun hsome ↦ ?_⟩, ?_, ?_⟩
  · rw [← hopen hnone, hmet]
    rfl
  · obtain ⟨front, back, hsent, hevents, hwhy⟩ := hclosed hsome
    exact ⟨front, back, hmet.symm.trans hsent, hevents, hwhy.imp_right (Or.imp_right hmore)⟩
  · show _ ++ (t.announced ++ _) = (p.step t.state e).state.budgets.exceeded.toList
    rw [Processor.exceeded_step, ← h.announced, List.append_assoc]
    rfl
  · exact fun e he hne ↦ hmore (h.ending e he hne)

/-- **Every step keeps a run sound.** -/
theorem Sound.next (h : Sound p s events t) (hnext : Next p t u) : Sound p s events u := by
  cases hnext with
  | @read e rest hnone hunread =>
    obtain ⟨done, hstate, hstopped, hopen, -⟩ := h.consumed
    refine ⟨⟨done, hstate, hstopped, fun _ ↦ ?_, fun hsome ↦ absurd hnone hsome⟩, h.announced,
      h.ending⟩
    rw [← hopen hnone, hunread]
    simp [enqueue]
  | refused hnone hunread hgone => exact h.close hnone (.inr (.inl hgone)) _ (absurd rfl)
  | exhausted hnone hunread => exact h.close hnone (.inl hunread) t.unread (absurd rfl)
  | noticed hnone hlistening hfirst =>
    have hannounced : t.announced ≠ [] := by simp [hfirst]
    exact h.close hnone (.inr (.inr hannounced)) t.unread fun _ ↦ hannounced
  | unannounced hnone hlistening hsilent hgone => exact ⟨h.consumed, h.announced, h.ending⟩
  | consumed hwaiting hqueue => exact h.consume hwaiting hqueue

theorem Sound.reaches (h : Reaches p (start s events) t) : Sound p s events t := by
  induction h with
  | refl => exact start_sound p s events
  | step _ hnext ih => exact ih.next hnext

/-! ## Every run comes to its end -/

/-- How many steps there may be at most. -/
def remaining (t : Schedule) : Nat :=
  2 * t.unread.length + t.queue.length + 2 * t.ending.isNone.toNat + t.listening.toNat

/-- **Every step brings a run closer to its end.** -/
theorem Next.remaining_lt (h : Next p t u) : u.remaining < t.remaining := by
  cases h with
  | read hnone hunread =>
    simp only [remaining, enqueue, hunread, List.length_append, List.length_cons, List.length_nil]
    omega
  | refused hnone hunread hgone =>
    simp only [remaining, close, hnone, hunread, List.length_append, List.length_cons,
      List.length_nil, Option.isNone_none, Option.isNone_some, Bool.toNat_true, Bool.toNat_false]
    omega
  | exhausted hnone hunread =>
    simp only [remaining, close, hnone, List.length_append, List.length_cons, List.length_nil,
      Option.isNone_none, Option.isNone_some, Bool.toNat_true, Bool.toNat_false]
    omega
  | noticed hnone hlistening hfirst =>
    simp only [remaining, close, hnone, List.length_append, List.length_cons, List.length_nil,
      Option.isNone_none, Option.isNone_some, Bool.toNat_true, Bool.toNat_false]
    omega
  | unannounced hnone hlistening hsilent hgone =>
    simp only [remaining, hlistening, Bool.toNat_true, Bool.toNat_false]
    omega
  | consumed hwaiting hqueue =>
    simp only [remaining, Schedule.consume, hqueue, List.length_cons]
    omega

/-- No run goes on for ever. -/
theorem next_wellFounded (p : Processor) : WellFounded fun u t : Schedule ↦ Next p t u :=
  Subrelation.wf Next.remaining_lt (measure remaining).wf

theorem verdict?_eq_none_iff :
    t.verdict? = none ↔ t.stopped = .waiting ∨ t.ending = none := by
  rw [verdict?]
  split <;> simp_all

theorem verdict?_eq_some_iff {ending : Ending} :
    t.verdict? = some ending ↔ t.stopped ≠ .waiting ∧
      ∃ reason, t.ending = some reason ∧ reason.withBudget t.state.budgets.exceeded = ending := by
  rw [verdict?]
  split <;> simp_all

/-- A run that has not ended can go on. -/
theorem Sound.exists_next (h : Sound p s events t) (hverdict : t.verdict? = none) :
    ∃ u, Next p t u := by
  cases hending : t.ending with
  | none =>
    cases hunread : t.unread with
    | nil => exact ⟨_, .exhausted hending hunread⟩
    | cons e rest => exact ⟨_, .read hending hunread⟩
  | some ending =>
    have hwaiting : t.stopped = .waiting :=
      (verdict?_eq_none_iff.mp hverdict).resolve_right (by simp [hending])
    cases hqueue : t.queue with
    | cons e rest => exact ⟨_, .consumed hwaiting hqueue⟩
    | nil =>
      -- The end of the stream was sent, so a consumer that has met all of it has stopped.
      obtain ⟨done, -, hstopped, -, hclosed⟩ := h.consumed
      obtain ⟨front, -, hsent, -⟩ := hclosed (by simp [hending])
      rw [hqueue, List.append_nil] at hsent
      rw [hsent, hwaiting] at hstopped
      exact absurd hstopped (Processor.drain_ending_ne_waiting p s front)

/-- **Every run can be brought to its end**, whatever happened so far. -/
theorem Sound.exists_verdict (h : Sound p s events t) :
    ∃ u, Reaches p t u ∧ u.verdict?.isSome = true := by
  induction t using (next_wellFounded p).induction with
  | _ t ih =>
    cases hverdict : t.verdict? with
    | some ending => exact ⟨t, .refl, by rw [hverdict, Option.isSome_some]⟩
    | none =>
      obtain ⟨u, hu⟩ := h.exists_next hverdict
      obtain ⟨v, hv, hsome⟩ := ih u hu (h.next hu)
      exact ⟨v, (Reaches.refl.step hu).trans hv, hsome⟩

/-! ## How a run ends -/

/-- How a run ends: its exit code, and whether its report says that it was interrupted. -/
def outcome (p : Processor) (now : Int) (s : State) (ending : Ending) : ExitCode × Bool :=
  let report := (p.report s ending.isInterrupted now).1
  (ending.exitCode report.regressions, report.interrupted)

/-- How a run ends when its events were consumed up to the end of the stream. -/
def outcomeOf (s : State) : ExitCode × Bool :=
  if s.budgets.exceeded.isSome then (.thresholdExceeded, true)
  else (if s.history.regressions = 0 then .ok else .regressions, false)

theorem outcome_withBudget (p : Processor) (now : Int) {s : State} {ending : Ending}
    (h : ending ≠ .completed → s.budgets.exceeded.isSome = true) :
    outcome p now s (ending.withBudget s.budgets.exceeded) = outcomeOf s := by
  rw [outcomeOf]
  cases hspent : s.budgets.exceeded with
  | some which => rfl
  | none =>
    have hcompleted : ending = .completed :=
      Decidable.byContradiction fun hne ↦ by simpa [hspent] using h hne
    rw [hcompleted]
    rfl

theorem outcomeOf_eq {s s' : State} (h : s.budgets.exceeded.isSome = true)
    (h' : s'.budgets.exceeded.isSome = true) : outcomeOf s = outcomeOf s' := by
  rw [outcomeOf, outcomeOf, if_pos h, if_pos h']

/-- What was announced shows in the state of the consumer. -/
theorem Sound.isSome_exceeded (h : Sound p s events t) (hannounced : t.announced ≠ []) :
    t.state.budgets.exceeded.isSome = true := by
  have hlatch := h.announced
  cases hspent : t.state.budgets.exceeded with
  | some which => rfl
  | none =>
    rw [hspent, Option.toList_none, List.append_eq_nil_iff] at hlatch
    exact absurd hlatch.2 hannounced

/-- **Where a run may end.** Either the consumer has done what it does with all events one after
the other, or it was stopped early, and a budget was spent by then. -/
theorem Sound.ended (h : Sound p s events t) (hending : t.ending ≠ none)
    (hstopped : t.stopped ≠ .waiting) :
    ((p.drain s events).state = t.state ∧ (p.drain s events).ending = t.stopped) ∨
      (t.stopped = .shutdown ∧ t.state.budgets.exceeded.isSome = true ∧
        (p.drain s events).state.budgets.exceeded.isSome = true) := by
  obtain ⟨done, hstate, hended, -, hclosed⟩ := h.consumed
  obtain ⟨front, back, hsent, rfl, hwhy⟩ := hclosed hending
  have hdone : p.drain s front = p.consume s done := by
    rw [Processor.drain, ← hsent]
    exact Processor.consume_append_of_ended (hended ▸ hstopped) t.queue
  rw [← hstate, ← hended, ← hdone]
  by_cases hfront : (p.consume s front).ending = .waiting
  · -- The consumer was stopped by the reader, which had one of three reasons.
    rcases hwhy with rfl | hgone | hannounced
    · rw [List.append_nil]
      exact .inl ⟨rfl, rfl⟩
    · exact absurd hfront hgone
    · have hspent := h.isSome_exceeded hannounced
      rw [← hstate, ← hdone] at hspent
      refine .inr ⟨(Processor.drain_of_waiting hfront).2, hspent, ?_⟩
      rw [Processor.drain, List.append_assoc, (Processor.consume_append_of_waiting hfront _).1]
      rw [(Processor.drain_of_waiting hfront).1] at hspent
      exact Processor.isSome_exceeded_consume hspent _
  · -- The consumer was stopped by an event, so what comes later does not matter.
    rw [Processor.drain_of_ended hfront, Processor.drain, List.append_assoc,
      Processor.consume_append_of_ended hfront]
    exact .inl ⟨rfl, rfl⟩

/-- A run that consumes its events one after the other drains the stream. -/
theorem shutDown_consume (p : Processor) (s : State) (events : List Event) :
    (shutDown p (p.consume s events)).state = (p.drain s events).state ∧
      (shutDown p (p.consume s events)).ending = (p.drain s events).ending := by
  by_cases hwaiting : (p.consume s events).ending = .waiting
  · obtain ⟨hstate, hending⟩ := Processor.drain_of_waiting hwaiting
    rw [hstate, hending, shutDown, hwaiting]
    exact ⟨rfl, rfl⟩
  · rw [Processor.drain_of_ended hwaiting, shutDown]
    split
    · rename_i h
      exact absurd h hwaiting
    · exact ⟨rfl, rfl⟩

/-- **How a run ends does not depend on the order.** No run goes on for ever. In whatever order
events are read and consumed, and whenever an announcement is noticed, at most one budget is
announced, and a run that has not ended can go on. When it has ended, its exit code, and whether its
report says that it was interrupted, are those of the events consumed one after the other; unless
the consumer was stopped by a failure, which then also stops it when the events come one after the
other. -/
theorem outcome_independent_of_order (p : Processor) (files : FileTree) (c : Config)
    (events : List Event) (now : Int) :
    let first := Processor.start files c
    let last := shutDown p (p.consume first events)
    (WellFounded fun u t : Schedule ↦ Next p t u) ∧
    ∀ t, Reaches p (start first events) t →
      t.announced.length ≤ 1 ∧
      (t.verdict? = none → ∃ u, Next p t u) ∧
      ∀ ending, t.verdict? = some ending →
        (t.stopped = .shutdown ∧ outcome p now t.state ending = outcomeOf last.state) ∨
          ∃ failure, t.stopped = .stopped failure ∧ last.ending = .stopped failure := by
  intro first last
  refine ⟨next_wellFounded p, fun t hreaches ↦ ?_⟩
  have h : Sound p first events t := .reaches hreaches
  refine ⟨?_, h.exists_next, fun ending hverdict ↦ ?_⟩
  · have hlength := congrArg List.length h.announced
    rw [List.length_append] at hlength
    have hlatch : t.state.budgets.exceeded.toList.length ≤ 1 := Option.length_toList_le
    omega
  · obtain ⟨hstopped, reason, hending, rfl⟩ := verdict?_eq_some_iff.mp hverdict
    have houtcome : outcome p now t.state (reason.withBudget t.state.budgets.exceeded) =
        outcomeOf t.state :=
      outcome_withBudget p now fun hne ↦ h.isSome_exceeded (h.ending reason hending hne)
    obtain ⟨hlast, hlastEnd⟩ := shutDown_consume p first events
    rw [houtcome]
    rcases h.ended (by simp [hending]) hstopped with ⟨hstate, hend⟩ | ⟨hshutdown, hspent, hspent'⟩
    · cases hcase : t.stopped with
      | waiting => exact absurd hcase hstopped
      | shutdown => exact .inl ⟨rfl, congrArg outcomeOf (hlast.trans hstate).symm⟩
      | stopped failure => exact .inr ⟨failure, rfl, hlastEnd.trans (hend.trans hcase)⟩
    · refine .inl ⟨hshutdown, outcomeOf_eq hspent ?_⟩
      rw [hlast]
      exact hspent'

theorem outcome_independent_of_order_sample :
    let first := Processor.start {} Processor.strictConfig
    ∃ t ending, Reaches Processor.sample (start first Processor.failingEvents) t ∧
      t.verdict? = some ending ∧
      outcome Processor.sample 0 t.state ending = (.thresholdExceeded, true) := by
  intro first
  have h := (outcome_independent_of_order Processor.sample {} Processor.strictConfig
    Processor.failingEvents 0).2
  obtain ⟨t, ht, hverdict⟩ :=
    (start_sound Processor.sample first Processor.failingEvents).exists_verdict
  obtain ⟨ending, hending⟩ := Option.isSome_iff_exists.mp hverdict
  let last := shutDown Processor.sample (Processor.sample.consume first Processor.failingEvents)
  have hlast : last.ending = .shutdown := by decide +kernel
  have houtcome : outcomeOf last.state = (.thresholdExceeded, true) := by decide +kernel
  refine ⟨t, ending, ht, hending, ?_⟩
  rcases (h t ht).2.2 ending hending with ⟨-, hsame⟩ | ⟨failure, -, hfailure⟩
  · exact hsame.trans houtcome
  · exact absurd (hlast.symm.trans hfailure) (by simp)

end Run.Schedule

end WebTestRun
