import Mathlib.Data.List.ReduceOption
import WebTestRun.Proofs.Artifact.Written
import WebTestRun.Proofs.Json.Ordered
import WebTestRun.Proofs.Processor.Ends

/-!
# Crash logs

Crashed browsers do not say which test they ran. What they write is kept until an attempt ends,
whichever it is, and goes to that attempt. So the crash logs of a run, one after the other, and
what is still kept are all that crashed browsers wrote, in order.

* `Processor.shares` — what they wrote, cut where attempts end.
* `Processor.crashLogs` — what the crash logs of attempts hold.
* `crashLogs_run` — every crash log holds one share, and what is still kept is the last.
* `crash_logs_conserved` — nothing is lost, doubled or moved.
-/

set_option autoImplicit false

namespace WebTestRun

/-! ## Shares of lines -/

/-- The lines of a sequence, cut where it holds no line. -/
def sharesOf (marks : List (Option String)) : List (List String) :=
  (marks.splitOn none).map List.reduceOption

theorem sharesOf_none (marks : List (Option String)) :
    sharesOf (none :: marks) = [] :: sharesOf marks := by
  rw [sharesOf, List.splitOn_cons_eq_if_modifyHead, if_pos (beq_self_eq_true _), List.map_cons,
    ← sharesOf]
  rfl

theorem sharesOf_some (line : String) (marks : List (Option String)) :
    sharesOf (some line :: marks) = (sharesOf marks).modifyHead (line :: ·) := by
  rw [sharesOf, sharesOf, List.splitOn_cons_eq_if_modifyHead, if_neg (by simp)]
  cases marks.splitOn none with
  | nil => rfl
  | cons share rest => rfl

theorem sharesOf_append (lines : List String) (marks : List (Option String)) :
    sharesOf (lines.map some ++ marks) = (sharesOf marks).modifyHead (lines ++ ·) := by
  induction lines with
  | nil => exact (List.modifyHead_id ▸ rfl)
  | cons line lines ih =>
    rw [List.map_cons, List.cons_append, sharesOf_some, ih, List.modifyHead_modifyHead]
    rfl

theorem sharesOf_ne_nil (marks : List (Option String)) : sharesOf marks ≠ [] := by
  rw [sharesOf, ne_eq, List.map_eq_nil_iff]
  exact List.splitOn_ne_nil none marks

/-- Cutting loses no line. -/
theorem flatten_sharesOf (marks : List (Option String)) :
    (sharesOf marks).flatten = marks.reduceOption := by
  induction marks with
  | nil => rfl
  | cons mark marks ih =>
    cases mark with
    | none =>
      rw [sharesOf_none, List.flatten_cons, List.nil_append, ih, List.reduceOption_cons_of_none]
    | some line =>
      rw [sharesOf_some, List.reduceOption_cons_of_some, ← ih]
      cases h : sharesOf marks with
      | nil => exact absurd h (sharesOf_ne_nil marks)
      | cons share rest => rfl

/-! ## Crash logs -/

/-- What the file holds that is recorded as the crash log of an attempt, if one is recorded. -/
def Extraction.crashLog? (x : Extraction) (iteration : Nat) (files : FileTree) (a : Attempt) :
    Option (Option String) :=
  (a.artifacts.get? "crash_log").map fun paths ↦
    (crashLogKind.path a.name).toOption.bind fun subpath ↦
      if paths = [x.store.recorded iteration subpath] then
        (files.readText (x.store.file iteration subpath)).toOption
      else none

/-- The crash log for a share: there is none if crashed browsers wrote nothing. -/
def crashLogOf (lines : List String) : Option (Option String) :=
  if lines.isEmpty then none else some (some (String.join lines))

/-- The texts of crash logs are the lines of their shares. -/
theorem join_crashLogOf (shares : List (List String)) :
    String.join (shares.map crashLogOf).reduceOption.reduceOption =
      String.join shares.flatten := by
  induction shares with
  | nil => rfl
  | cons lines shares ih =>
    rw [List.map_cons, List.flatten_cons, String.join_append, ← ih, crashLogOf]
    split
    · rename_i hempty
      rw [List.isEmpty_iff.mp hempty, List.reduceOption_cons_of_none]
      exact (String.empty_append).symm
    · rw [List.reduceOption_cons_of_some, List.reduceOption_cons_of_some, String.join_cons]

namespace Processor

variable {p : Processor} {s : State} {e : Event}

/-- What the crash log of the attempt that ends with an event holds, if one ends. -/
def crashLogs (p : Processor) (s : State) (e : Event) : List (Option (Option String)) :=
  (p.result? s e).toList.map (p.extraction.crashLog? s.iteration (p.step s e).state.files)

/-- The lines that crashed browsers write with an event, and an end where an attempt ends. -/
def marks (p : Processor) (s : State) (e : Event) : List (Option String) :=
  (p.crashLines e).map some ++ (endsOf (p.turns s e)).map fun _ ↦ none

/-- What crashed browsers write with some events: the lines before the first end that is accepted,
those between one end and the next, and those after the last. -/
def shares (p : Processor) (s : State) (events : List Event) : List (List String) :=
  sharesOf (p.collect p.marks s events)

/-! ## One event -/

/-- The artifacts of every attempt are written, and the run goes on. -/
def GoesWell (p : Processor) (s : State) (e : Event) : Prop := p.GoesOn s e ∧ p.Saves s e

instance (p : Processor) (s : State) (e : Event) : Decidable (p.GoesWell s e) :=
  inferInstanceAs (Decidable (_ ∧ _))

theorem marks_of_quiet (hfiled : s.Filed) (hgoes : p.GoesOn s e) (h : p.result? s e = none) :
    p.marks s e = (p.crashLines e).map some := by
  have hnamed := (account_step hfiled hgoes).named
  rw [h] at hnamed
  rw [marks, ← hnamed]
  exact List.append_nil _

theorem marks_of_ends {after : State} {ended : Attempt × List Screenshot} {kept : Attempt}
    {w : Extraction.Writing} (hfiled : s.Filed) (hgoes : p.GoesOn s e)
    (h : Ends p s e after ended kept w) : p.marks s e = [none] := by
  have hnamed := (account_step hfiled hgoes).named
  rw [h.result] at hnamed
  rw [marks, ← hnamed, h.crashLines]
  rfl

/-- **What is kept goes to the attempt that ends**, be it a failure or not. -/
theorem crashLogs_of_ends {ended : Attempt × List Screenshot} {kept : Attempt}
    {w : Extraction.Writing} (hsaves : p.Saves s e)
    (h : Ends p s e (p.step s e).state ended kept w) :
    p.crashLogs s e = [crashLogOf s.crashLog] := by
  have hlog :=
    Extraction.extract_crashLog p.extraction s.iteration (hsaves ended h.ending) h.extract
  have hname : kept.name = ended.1.name := Extraction.extract_name h.extract
  rw [crashLogs, h.result, Option.toList_some, List.map_singleton, h.files, Extraction.crashLog?,
    crashLogOf, hname]
  split at hlog
  · rename_i hempty
    rw [hlog, if_pos hempty, Option.map_none]
  · rename_i hlines
    obtain ⟨subpath, hpath, hrecorded, htext⟩ := hlog
    rw [hrecorded, if_neg hlines, Option.map_some, hpath]
    simp only [Except.toOption, Option.bind_some, htext, if_true]

/-! ## Runs -/

/-- **Every crash log holds one share**, in order, and what is still kept is the last one. What was
kept before the run goes to the first. -/
theorem crashLogs_run (hfiled : s.Filed) {events : List Event}
    (h : p.Along p.GoesWell s events) :
    let shares := (p.shares s events).modifyHead (s.crashLog ++ ·)
    p.collect p.crashLogs s events = shares.dropLast.map crashLogOf ∧
      shares.getLast? = some (p.run s events).crashLog := by
  induction events generalizing s with
  | nil =>
    have hshares : (p.shares s []).modifyHead (s.crashLog ++ ·) = [s.crashLog] := by
      rw [shares, collect, sharesOf, List.splitOn_nil]
      simp [List.reduceOption_nil]
    rw [hshares]
    exact ⟨rfl, rfl⟩
  | cons e rest ih =>
    obtain ⟨⟨hgoes, hsaves⟩, hrest⟩ := h
    obtain ⟨hlogs, hkept⟩ := ih (hfiled.step e) hrest
    rw [collect, run_cons]
    rcases quiet_or_ends hgoes with ⟨-, hresult, hquiet⟩ | ⟨ended, kept, w, hresult, hends⟩
    · -- No attempt ends, so all that is written is kept for the first share of the rest.
      have hshares : (p.shares s (e :: rest)).modifyHead (s.crashLog ++ ·) =
          (p.shares (p.step s e).state rest).modifyHead ((p.step s e).state.crashLog ++ ·) := by
        rw [shares, collect, marks_of_quiet hfiled hgoes hresult, sharesOf_append,
          List.modifyHead_modifyHead, hquiet.crashLog]
        simp only [Function.comp_def, List.append_assoc]
        rfl
      have hnone : p.crashLogs s e = [] := by rw [crashLogs, hresult]; rfl
      rw [hshares, hnone, List.nil_append]
      exact ⟨hlogs, hkept⟩
    · -- What is kept goes to the attempt, and the rest starts with nothing.
      have hshares : (p.shares s (e :: rest)).modifyHead (s.crashLog ++ ·) =
          s.crashLog ::
            (p.shares (p.step s e).state rest).modifyHead ((p.step s e).state.crashLog ++ ·) := by
        rw [shares, collect, marks_of_ends hfiled hgoes hends, List.singleton_append,
          sharesOf_none, hends.crashLog, List.modifyHead_cons, List.append_nil]
        exact congrArg _ (List.modifyHead_id ▸ rfl)
      obtain ⟨share, more, hmore⟩ := List.exists_cons_of_ne_nil
        (sharesOf_ne_nil (p.collect p.marks (p.step s e).state rest))
      rw [hshares, crashLogs_of_ends hsaves hends, hlogs]
      rw [shares, hmore, List.modifyHead_cons] at hkept ⊢
      exact ⟨rfl, hkept⟩

theorem lines_of_marks (p : Processor) (s : State) (events : List Event) :
    (p.collect p.marks s events).reduceOption = events.flatMap p.crashLines := by
  induction events generalizing s with
  | nil => rfl
  | cons e rest ih =>
    have hends : ((endsOf (p.turns s e)).map fun _ ↦ (none : Option String)).reduceOption = [] := by
      rw [List.map_const', List.reduceOption_replicate_none]
    have hlines : ((p.crashLines e).map some).reduceOption = p.crashLines e := by
      rw [List.reduceOption, List.filterMap_map]
      exact List.filterMap_some
    rw [collect, List.reduceOption_append, ih, marks, List.reduceOption_append, hends, hlines,
      List.append_nil, List.flatMap_cons]

/-- **The output of crashed browsers is conserved.** After a run that goes on and whose artifacts
are written, the crash logs in the order in which attempts ended, and then what is still kept, are
all lines that crashed browsers wrote, in order: for each output of a command that contains the name
of an executable to watch, the text as it is or the JSON of any other value, which has its members
in the order of their keys if it was read. Cut where ends are accepted, each share of lines is the
crash log of the attempt that ends there; an attempt has no crash log exactly if its share is empty,
and the last share is still kept. -/
theorem crash_logs_conserved (p : Processor) (t : FileTree) (c : Config) (events : List Event)
    (h : p.Along p.GoesWell (start t c) events) :
    let logs := p.collect p.crashLogs (start t c) events
    let pending := (p.run (start t c) events).crashLog
    let lines := events.flatMap fun e ↦ match e.action with
      | .processOutput command data =>
        if ∃ executable ∈ p.crashLogExecutables, executable.toList <:+: command.toList then
          match data with
          | .string text => [text ++ "\n"]
          | value => [value.written ++ "\n"]
        else []
      | _ => []
    let shares := p.shares (start t c) events
    String.join (logs.reduceOption.reduceOption ++ pending) = String.join lines ∧
    shares.flatten = lines ∧
    logs = shares.dropLast.map crashLogOf ∧ shares.getLast? = some pending ∧
    ∀ line e, Event.read line = .ok e → ∀ command data, e.action = .processOutput command data →
      data.Ordered := by
  intro logs pending lines shares
  have hrun := crashLogs_run (start_filed t c) h
  have hstart : shares.modifyHead ((start t c).crashLog ++ ·) = shares :=
    List.modifyHead_id ▸ rfl
  rw [show p.shares (start t c) events = shares from rfl, hstart] at hrun
  obtain ⟨hlogs, hkept⟩ := hrun
  have hlines : shares.flatten = lines :=
    (flatten_sharesOf _).trans (lines_of_marks p (start t c) events)
  refine ⟨?_, hlines, hlogs, hkept, fun line e hread command data haction ↦
    Event.read_ordered hread haction⟩
  have hsplit : shares = shares.dropLast ++ [pending] := by
    obtain ⟨before, hbefore⟩ := List.getLast?_eq_some_iff.mp hkept
    rw [hbefore, List.dropLast_concat]
  calc String.join (logs.reduceOption.reduceOption ++ pending)
      = String.join shares.dropLast.flatten ++ String.join pending := by
        rw [String.join_append, show logs = _ from hlogs, join_crashLogOf]
    _ = String.join (shares.dropLast ++ [pending]).flatten := by
        rw [List.flatten_append, String.join_append, List.flatten_singleton]
    _ = String.join lines := by rw [← hsplit, hlines]

/-- Browsers that crash write a text and a value before an attempt ends, and another value after
the last one. What other processes write does not count. -/
def outputEvents : List Event :=
  [{ action := .testStart ⟨"a", none⟩ },
   { action := .processOutput "/bin/chromedriver --port=1" (.string "gone") },
   { action := .processOutput "sh" (.string "other") },
   { action := .processOutput "chromedriver" (.object [("a", .null), ("b", .array [.bool true])]) },
   { action := .testEnd ⟨"a", none⟩ { status := "PASS" } [] },
   { action := .testStart ⟨"b", none⟩ },
   { action := .testEnd ⟨"b", none⟩ { status := "PASS" } [] },
   { action := .processOutput "chromedriver" .null }]

theorem crash_logs_conserved_sample :
    sample.collect sample.crashLogs (start {} {}) outputEvents =
        [some (some "gone\n\x7b\"a\":null,\"b\":[true]\x7d\n"), none] ∧
      (sample.run (start {} {}) outputEvents).crashLog = ["null\n"] := by
  have hshares : sample.shares (start {} {}) outputEvents =
      [["gone\n", "\x7b\"a\":null,\"b\":[true]\x7d\n"], [], ["null\n"]] := by
    decide +kernel
  obtain ⟨-, -, hlogs, hkept, -⟩ :=
    crash_logs_conserved sample {} {} outputEvents (by decide +kernel)
  rw [hshares] at hlogs hkept
  exact ⟨hlogs, (Option.some.inj hkept).symm⟩

end Processor

end WebTestRun
