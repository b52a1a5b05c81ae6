import WebTestRun.Proofs.Processor.Ends

/-!
# Attempts that are in flight

What is declared for a test when an attempt starts goes with the attempt until it ends, and the
attempt remembers whether it had diagnostic messages. So the same holds of every attempt that a run
keeps.

* `Processor.InFlight` — what holds of an attempt while it runs.
* `State.InFlight.step` — it holds of all attempts that run, whatever happens.
* `Processor.Kept`, `kept_run` — what holds of the attempts that a run keeps, against what they
  were when they ended.
-/

set_option autoImplicit false

namespace WebTestRun.Processor

variable {p : Processor} {s : State} {n : String}

/-- What holds of an attempt at a test while it runs. -/
structure InFlight (p : Processor) (n : String) (r : Attempt.Running) : Prop where
  /-- Its expectation is the one that is declared for the test. -/
  declared : r.expected = (p.expectations.get n).verdicts
  /-- It is known whether it had diagnostic messages. -/
  heard : r.hasStderr = !r.messages.isEmpty

/-- All attempts that run are as they should be. -/
def State.InFlight (p : Processor) (s : State) : Prop :=
  ∀ n r, Keyed.find? n s.running = some r → Processor.InFlight p n r

/-! ## One attempt -/

theorem InFlight.report {before after : Attempt.Running} (h : InFlight p n before)
    {subtest status : String} {message : Option String}
    (hreport : before.report subtest status message = .ok after) : InFlight p n after := by
  rw [Attempt.Running.report] at hreport
  dsimp only at hreport
  split at hreport
  · cases hreport
  · obtain rfl := Except.ok.inj hreport
    refine ⟨h.declared, ?_⟩
    show (before.hasStderr || _) = _
    rw [h.heard]
    cases Attempt.said message with
    | none => simp
    | some m => simp

/-- What holds of an attempt that has ended, before its artifacts are written. -/
theorem InFlight.finish {r : Attempt.Running} (h : InFlight p n r) {status : String}
    {message : Option String} {ended : Int} {a : Attempt} {judged : List Log}
    (hfinish : r.finish status message ended = .ok (a, judged)) :
    a.expected = (p.expectations.get n).verdicts ∧ a.hasStderr = !a.messages.isEmpty := by
  obtain ⟨known, -, hended⟩ := Answer.map_eq_ok_iff.mp hfinish
  obtain rfl := (Prod.mk.inj hended).1
  refine ⟨h.declared, ?_⟩
  show (r.hasStderr || _) = _
  rw [h.heard]
  cases Attempt.said message with
  | none => simp
  | some m => simp

/-! ## One event -/

theorem State.InFlight.insert (h : s.InFlight p) {r : Attempt.Running}
    (hr : Processor.InFlight p n r) :
    ∀ m q, Keyed.find? m (Keyed.insert n r s.running) = some q → Processor.InFlight p m q := by
  intro m q hq
  rw [Keyed.find?_insert] at hq
  split at hq
  · rename_i hnm
    rw [← Option.some.inj hq, ← hnm]
    exact hr
  · exact h m q hq

theorem State.InFlight.erase (h : s.InFlight p) (n : String) :
    ∀ m q, Keyed.find? m (Keyed.erase n s.running) = some q → Processor.InFlight p m q := by
  intro m q hq
  rw [Keyed.find?_erase] at hq
  split at hq
  · cases hq
  · exact h m q hq

theorem inFlight_testStart (h : s.InFlight p) (time : Int) (test : TestId) :
    (p.testStart s time test).state.InFlight p := by
  unfold testStart
  dsimp only
  split
  · exact h
  · split
    · exact h
    · split
      · exact h
      · exact h.insert ⟨rfl, rfl⟩

theorem inFlight_testStatus (h : s.InFlight p) (test : TestId) (subtest : String)
    (report : StatusReport) : (testStatus s test subtest report).state.InFlight p := by
  unfold testStatus
  dsimp only
  split
  · exact h
  · rename_i hrunning
    split
    · exact h
    · rename_i hreport
      exact h.insert ((h _ _ hrunning).report hreport)

theorem inFlight_testEnd (h : s.InFlight p) (time : Int) (test : TestId) (report : StatusReport)
    (screenshots : List Screenshot) :
    (p.testEnd s time test report screenshots).state.InFlight p := by
  unfold testEnd
  dsimp only
  split
  · exact h
  · split
    · exact h.erase _
    · split
      · exact h.erase _
      · exact h.erase _

/-- **Every event leaves the attempts that run as they should be.** -/
theorem State.InFlight.step (h : s.InFlight p) (e : Event) : (p.step s e).state.InFlight p := by
  unfold Processor.step
  split
  · exact h
  · split
    · exact h
    · exact inFlight_testStart h _ _
    · exact inFlight_testStatus h _ _ _
    · exact inFlight_testEnd h _ _ _ _
    · exact h
    · exact h
    · unfold processOutput
      split <;> exact h
    · exact h
    · exact h
    · exact h

theorem start_inFlight (p : Processor) (t : FileTree) (c : Config) : (start t c).InFlight p := by
  intro n r h
  cases h

/-! ## Attempts that are kept -/

/-- What an attempt has in common with what was kept of it, and what holds of it. -/
structure Kept (p : Processor) (ended kept : Attempt) : Prop where
  /-- The name is the same. -/
  name : kept.name = ended.name
  /-- The expectation is the one that is declared for the test. -/
  declared : kept.expected = (p.expectations.get kept.name).verdicts
  /-- It is known whether it had diagnostic messages. -/
  heard : kept.hasStderr = !ended.messages.isEmpty

/-- The attempt that ends with an event, before its artifacts are written. -/
def endings (s : State) (e : Event) : List Attempt := (ending? s e).toList.map (·.1)

theorem Ends.kept {e : Event} {after : State} {ended : Attempt × List Screenshot}
    {kept : Attempt} {w : Extraction.Writing} (h : Ends p s e after ended kept w)
    (hfiled : s.Filed) (hflight : s.InFlight p) : Kept p ended.1 kept := by
  obtain ⟨test, report, running, judged, -, -, hrunning, hfinish⟩ := exists_of_ending? h.ending
  obtain ⟨hdeclared, hheard⟩ := (hflight _ _ hrunning).finish hfinish
  have hname : ended.1.name = test.name :=
    (Attempt.Running.finish_name hfinish).trans (hfiled _ _ hrunning)
  obtain ⟨steps, stats, -, rfl⟩ := Extraction.exists_plan_of_extract h.extract
  exact ⟨rfl, hdeclared.trans (hname ▸ rfl), hheard⟩

/-- **What a run keeps of its attempts.** -/
theorem kept_run (hfiled : s.Filed) (hflight : s.InFlight p) {events : List Event}
    (hgoes : p.Along p.GoesOn s events) :
    List.Forall₂ (Kept p) (p.collect endings s events)
      (p.collect (fun s e ↦ (p.result? s e).toList) s events) := by
  induction events generalizing s with
  | nil => exact .nil
  | cons e rest ih =>
    refine List.rel_append ?_ (ih (hfiled.step e) (hflight.step e) hgoes.2)
    rcases quiet_or_ends hgoes.1 with ⟨hending, hresult, -⟩ | ⟨ended, kept, w, hresult, hends⟩
    · rw [endings, hending]
      simp only [hresult]
      exact .nil
    · rw [endings, hends.ending]
      simp only [hresult]
      exact .cons (hends.kept hfiled hflight) .nil

/-- Lists that correspond have something for everything in the other one. -/
theorem exists_of_forall₂ {α β : Type} {R : α → β → Prop} {as : List α} {bs : List β}
    (h : List.Forall₂ R as bs) : (∀ a ∈ as, ∃ b ∈ bs, R a b) ∧ ∀ b ∈ bs, ∃ a ∈ as, R a b := by
  induction h with
  | nil => exact ⟨nofun, nofun⟩
  | @cons a b as bs hab h ih =>
    obtain ⟨hleft, hright⟩ := ih
    refine ⟨List.forall_mem_cons.mpr ⟨⟨b, List.mem_cons_self, hab⟩, fun c hc ↦ ?_⟩,
      List.forall_mem_cons.mpr ⟨⟨a, List.mem_cons_self, hab⟩, fun c hc ↦ ?_⟩⟩
    · obtain ⟨d, hd, hcd⟩ := hleft c hc
      exact ⟨d, List.mem_cons_of_mem b hd, hcd⟩
    · obtain ⟨d, hd, hdc⟩ := hright c hc
      exact ⟨d, List.mem_cons_of_mem a hd, hdc⟩

end WebTestRun.Processor
