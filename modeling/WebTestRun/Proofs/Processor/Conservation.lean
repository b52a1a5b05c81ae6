import WebTestRun.Proofs.Json.Printable
import WebTestRun.Proofs.Processor.Run

/-!
# No attempt is lost

Attempts start and end by turns. Every end that is accepted gives one result, which is uploaded
once and kept once under the name of its test; nothing else is uploaded or kept.

* `Processor.turns` — the starts and ends that are accepted.
* `Processor.Account` — how the results of some events show in the state after them.
* `account_run` — they show so after every run that goes on: in what was uploaded, in what is kept
  and in what is in flight.
-/

set_option autoImplicit false

namespace WebTestRun

namespace Processor

variable {p : Processor}

/-- What happens to an attempt. -/
inductive Turn where
  | starts | ends
  deriving DecidableEq, Repr

/-- The start or the end of an attempt that is accepted, with the name of its test. A start is
accepted unless it is rejected, an end if its test is in flight; nothing is accepted from a runner
that reports its tests itself. -/
def turnsOf (s : State) (e : Event) (answered : Bool) : List (String × Turn) :=
  if s.reportsItself then []
  else match e.action with
    | .testStart test => if answered then [(test.name, .starts)] else []
    | .testEnd test _ _ => if Keyed.has test.name s.running then [(test.name, .ends)] else []
    | _ => []

/-- The start or the end of an attempt that is accepted with an event. -/
def turns (p : Processor) (s : State) (e : Event) : List (String × Turn) :=
  turnsOf s e (p.step s e).answer.isOk

/-- The names of the tests whose attempts end, in order. -/
def endsOf (turns : List (String × Turn)) : List String :=
  (turns.filter fun t ↦ t.2 = .ends).map (·.1)

/-- The last turn of a test. -/
def lastTurn? (n : String) (turns : List (String × Turn)) : Option Turn :=
  (turns.filter fun t ↦ t.1 = n).getLast?.map (·.2)

/-- What is uploaded for an attempt. -/
def record (p : Processor) (a : Attempt) : Json :=
  Upload.ofAttempt p.namePrefix p.extraction.store.outputRoot a.summary? a

/-- An event is processed, or it is rejected. -/
def GoesOn (p : Processor) (s : State) (e : Event) : Prop :=
  (p.step s e).answer.isOk = true ∨ rejects (p.step s e).answer = true

instance (p : Processor) (s : State) (e : Event) : Decidable (p.GoesOn s e) :=
  inferInstanceAs (Decidable (_ ∨ _))

/-! ## Results and where they show -/

/-- How results, and the turns that they come from, show in what was uploaded and in the state
after them. -/
structure Account (p : Processor) (before after : State) (results : List Attempt)
    (turns : List (String × Turn)) (uploads : List Json) : Prop where
  /-- There is one result for each end, in order. -/
  named : results.map (·.name) = endsOf turns
  /-- Each result is uploaded, in order. -/
  uploaded : uploads = results.map p.record
  /-- Each result is kept under its name, in order. -/
  attempts : ∀ n, after.history.attempts n =
    before.history.attempts n ++ results.filter fun a ↦ a.name = n
  /-- No other test is kept. -/
  tests : ∀ n, n ∈ Keyed.keys after.history.tests ↔
    n ∈ Keyed.keys before.history.tests ∨ n ∈ results.map (·.name)
  /-- No test is kept twice. -/
  nodup : (Keyed.keys before.history.tests).Nodup → (Keyed.keys after.history.tests).Nodup
  /-- A test is in flight if its last turn is a start. -/
  running : ∀ n, Keyed.has n after.running =
    ((lastTurn? n turns).map fun t ↦ decide (t = .starts)).getD (Keyed.has n before.running)

theorem Account.of_running {before after : State} {turns : List (String × Turn)}
    (hhistory : after.history.tests = before.history.tests) (hends : endsOf turns = [])
    (hrunning : ∀ n, Keyed.has n after.running =
      ((lastTurn? n turns).map fun t ↦ decide (t = .starts)).getD (Keyed.has n before.running)) :
    Account p before after [] turns [] where
  named := hends.symm
  uploaded := rfl
  attempts n := by
    rw [List.filter_nil, List.append_nil, History.attempts, History.attempts, hhistory]
  tests n := by
    rw [hhistory]
    simp
  nodup h := by
    rw [hhistory]
    exact h
  running := hrunning

theorem Account.trans {first second third : State} {results results' : List Attempt}
    {turns turns' : List (String × Turn)} {uploads uploads' : List Json}
    (h : Account p first second results turns uploads)
    (h' : Account p second third results' turns' uploads') :
    Account p first third (results ++ results') (turns ++ turns') (uploads ++ uploads') where
  named := by
    rw [List.map_append, h.named, h'.named]
    simp [endsOf]
  uploaded := by rw [h.uploaded, h'.uploaded, List.map_append]
  attempts n := by rw [h'.attempts, h.attempts, List.filter_append, List.append_assoc]
  tests n := by rw [h'.tests, h.tests, List.map_append, List.mem_append, or_assoc]
  nodup hfirst := h'.nodup (h.nodup hfirst)
  running n := by
    rw [h'.running, h.running, lastTurn?, lastTurn?, lastTurn?, List.filter_append,
      List.getLast?_append]
    cases (turns'.filter fun t ↦ t.1 = n).getLast? <;> rfl

theorem turnsOf_eq_nil {s : State} {e : Event} {answered : Bool}
    (hstart : ∀ test, e.action = .testStart test → s.reportsItself = true ∨ answered = false)
    (hend : ∀ test report screenshots, e.action = .testEnd test report screenshots →
      s.reportsItself = true ∨ Keyed.find? test.name s.running = none) :
    turnsOf s e answered = [] := by
  rw [turnsOf]
  split
  · rfl
  · rename_i hfollowed
    split
    · rename_i test haction
      rw [(hstart test haction).resolve_left hfollowed]
      rfl
    · rename_i test report screenshots haction
      rw [Keyed.has, (hend test report screenshots haction).resolve_left hfollowed]
      rfl
    · rfl

/-- An event that neither starts nor ends an attempt changes no account. -/
theorem account_of_quiet {s s' : State} {e : Event} {answered : Bool}
    (hhistory : s'.history.tests = s.history.tests)
    (hrunning : ∀ n, Keyed.has n s'.running = Keyed.has n s.running)
    (hstart : ∀ test, e.action = .testStart test → s.reportsItself = true ∨ answered = false)
    (hend : ∀ test report screenshots, e.action = .testEnd test report screenshots →
      s.reportsItself = true ∨ Keyed.find? test.name s.running = none) :
    Account p s s' (p.result? s e).toList (turnsOf s e answered) [] := by
  rw [result?_eq_none hend, turnsOf_eq_nil hstart hend]
  exact .of_running hhistory rfl hrunning

/-- An attempt that ends is kept under its name. -/
theorem account_keep {s : State} {n : String} {a : Attempt} (hname : a.name = n)
    (files : FileTree) (logs : List Log) :
    Account p s
      (p.keep { s with running := Keyed.erase n s.running, files, crashLog := [] } a logs).state
      [a] [(n, .ends)]
      (p.keep { s with running := Keyed.erase n s.running, files, crashLog := [] } a
        logs).uploads where
  named := by simp [endsOf, hname]
  uploaded := rfl
  attempts m := by
    show (s.history.push a).attempts m = _
    rw [History.attempts_push]
    by_cases hm : a.name = m <;> simp [hm]
  tests m := by
    show m ∈ Keyed.keys (Keyed.put a.name _ s.history.tests) ↔ _
    rw [Keyed.mem_keys_put, List.map_singleton, List.mem_singleton]
  nodup := Keyed.nodup_keys_put _
  running m := by
    show Keyed.has m (Keyed.erase n s.running) = _
    rw [Keyed.has_erase]
    by_cases hm : n = m <;> simp [hm, lastTurn?]

/-- **What one event does to results**, if the run goes on. -/
theorem account_step {s : State} (hfiled : s.Filed) {e : Event} (hgoes : p.GoesOn s e) :
    Account p s (p.step s e).state (p.result? s e).toList (p.turns s e) (p.step s e).uploads := by
  have heffect := p.effect s e
  rw [GoesOn] at hgoes
  rw [turns]
  generalize p.step s e = st at heffect hgoes
  cases heffect with
  | ignored test haction hself =>
    exact account_of_quiet rfl (fun _ ↦ rfl) (fun _ _ ↦ .inl hself) fun _ _ _ _ ↦ .inl hself
  | other haction state response logs hrunning hhistory =>
    refine account_of_quiet (congrArg _ hhistory) (fun n ↦ ?_) (fun _ h ↦ ?_) fun _ _ _ h ↦ ?_
    · rw [hrunning]
    · rw [h] at haction
      cases haction
    · rw [h] at haction
      cases haction
  | rejected test haction hself hend reason logs =>
    exact account_of_quiet rfl (fun _ ↦ rfl) (fun _ _ ↦ .inr rfl)
      fun _ _ _ h ↦ .inr (hend _ _ _ h)
  | started test haction hself running hname history hhistory logs =>
    have hresult : p.result? s e = none := result?_eq_none_of_ne (by simp [haction])
    have hturns : turnsOf s e true = [(test.name, .starts)] := by
      rw [turnsOf, hself, haction]
      rfl
    rw [hresult]
    refine hturns ▸ .of_running hhistory rfl fun n ↦ ?_
    show Keyed.has n (Keyed.insert test.name running s.running) = _
    rw [Keyed.has_insert]
    by_cases hn : test.name = n <;> simp [hn, lastTurn?]
  | reported test subtest report haction hself before after hrunning hname logs =>
    refine account_of_quiet rfl (Keyed.has_insert_of_find? hrunning) (fun _ h ↦ ?_)
      fun _ _ _ h ↦ ?_
    · rw [haction] at h
      cases h
    · rw [haction] at h
      cases h
  | ended test report screenshots haction hself running hrunning attempt hresult hname files logs =>
    have hturns (answered : Bool) : turnsOf s e answered = [(test.name, .ends)] := by
      rw [turnsOf, hself, haction]
      simp [Keyed.has, hrunning]
    rw [hresult, hturns]
    exact account_keep (hname.trans (hfiled _ _ hrunning)) files logs
  | failed test haction running hrunning hfiled failure hfailure logs =>
    -- A run that goes on never fails.
    rcases hgoes with h | h
    · cases h
    · rw [rejects_error_eq_false hfailure] at h
      cases h

/-- **What a run does to results.** -/
theorem account_run {s : State} (hfiled : s.Filed) {events : List Event}
    (hgoes : p.Along p.GoesOn s events) :
    Account p s (p.run s events) (p.collect (fun s e ↦ (p.result? s e).toList) s events)
      (p.collect p.turns s events) (p.collect (fun s e ↦ (p.step s e).uploads) s events) := by
  induction events generalizing s with
  | nil => exact .of_running rfl rfl fun _ ↦ rfl
  | cons e rest ih => exact (account_step hfiled hgoes.1).trans (ih (hfiled.step e) hgoes.2)

/-- **No attempt is lost, doubled or misfiled.** After a run that goes on, every accepted end gave
one result under the name of its test. The results were uploaded in order and each as one line;
they are kept in order, each under its name, and no other test is kept. A test is in flight exactly
if its last accepted turn is a start. -/
theorem no_attempt_lost (p : Processor) (t : FileTree) (c : Config) (events : List Event)
    (hgoes : p.Along p.GoesOn (start t c) events) :
    let after := p.run (start t c) events
    let results := p.collect (fun s e ↦ (p.result? s e).toList) (start t c) events
    let turns := p.collect p.turns (start t c) events
    let uploads := p.collect (fun s e ↦ (p.step s e).uploads) (start t c) events
    (results.map (·.name) = endsOf turns ∧ uploads = results.map p.record ∧
      Text.lines (uploads.flatMap fun j ↦ (Upload.line j).toList) =
        uploads.map fun j ↦ j.written.toList) ∧
    ((∀ n, after.history.attempts n = results.filter fun a ↦ a.name = n) ∧
      (∀ n, n ∈ Keyed.keys after.history.tests ↔ n ∈ endsOf turns) ∧
      (Keyed.keys after.history.tests).Nodup) ∧
    ∀ n, Keyed.has n after.running = true ↔ lastTurn? n turns = some .starts := by
  intro after results turns uploads
  have haccount : Account p (start t c) after results turns uploads :=
    account_run (start_filed t c) hgoes
  refine ⟨⟨haccount.named, haccount.uploaded, ?_⟩, ⟨haccount.attempts, fun n ↦ ?_, ?_⟩, fun n ↦ ?_⟩
  · have hline : (fun j ↦ (Upload.line j).toList) = fun j ↦ j.written.toList ++ ['\n'] :=
      funext fun j ↦ String.toList_append
    rw [hline]
    exact Json.lines_written uploads
  · rw [haccount.tests, haccount.named]
    simp [start, Keyed.keys]
  · exact haccount.nodup List.nodup_nil
  · rw [haccount.running]
    cases lastTurn? n turns with
    | none => simp [start, Keyed.has]
    | some t => simp

theorem no_attempt_lost_sample :
    let turns := sample.collect sample.turns (start {} {}) sampleEvents
    let results := sample.collect (fun s e ↦ (sample.result? s e).toList) (start {} {}) sampleEvents
    results.map (·.name) = ["external/wpt/b", "external/wpt/a"] ∧
      endsOf turns = ["external/wpt/b", "external/wpt/a"] ∧
      (sample.run (start {} {}) sampleEvents).history.attempts "external/wpt/b" =
        results.filter (fun a ↦ a.name = "external/wpt/b") := by
  have h := no_attempt_lost sample {} {} sampleEvents (by decide +kernel)
  have hends : endsOf (sample.collect sample.turns (start {} {}) sampleEvents) =
      ["external/wpt/b", "external/wpt/a"] := by decide +kernel
  exact ⟨h.1.1.trans hends, hends, h.2.1.1 "external/wpt/b"⟩

end Processor

end WebTestRun
