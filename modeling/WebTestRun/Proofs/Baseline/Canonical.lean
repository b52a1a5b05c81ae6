import WebTestRun.Proofs.Baseline.Grammar

/-!
# Baselines that are read and written again

Outcomes whose names and messages fit their lines are read back as they were written. What is read
from a text without carriage returns always fits, so a baseline that is read and written again
declares the same, and its text does not change any more.

* `Outcomes.Lossless` — nothing of outcomes is lost on the way through their text.
* `ItemsSound`, `addLines_sound` — what holds of the items that are read from a body.
* `lossless_of_read` — what is read from a text without carriage returns is lossless.
* `baseline_round_trip` — both round trips.
-/

set_option autoImplicit false

namespace WebTestRun

open Text

/-- No line of the message of an outcome ends in a carriage return. -/
def Outcome.KeepsLines (o : Outcome) : Prop :=
  ∀ m ∈ o.message, ∀ l ∈ m.toList.splitOn '\n', l.getLast? ≠ some '\r'

instance (o : Outcome) : Decidable o.KeepsLines :=
  inferInstanceAs (Decidable (∀ m ∈ o.message, ∀ l ∈ m.toList.splitOn '\n', l.getLast? ≠ some '\r'))

/-- Outcomes that are read back as they were written. -/
structure Outcomes.Lossless (o : Outcomes) : Prop extends o.Readable where
  /-- No line of the message of the harness error ends in a carriage return. -/
  harnessMessage : ∀ e ∈ o.harnessError, e.KeepsLines
  /-- No line of the message of a subtest ends in a carriage return. -/
  messages : ∀ s ∈ o.subtests, s.2.KeepsLines

theorem Outcome.asRead_eq_self {o : Outcome} (h : o.KeepsLines) : o.asRead = o := by
  obtain ⟨statuses, message⟩ := o
  cases message with
  | none => rfl
  | some m => rw [asRead, readMessage_eq_self (h m rfl)]

theorem Outcomes.Lossless.asRead_eq_self {o : Outcomes} (h : o.Lossless) : o.asRead = o := by
  have hharness : o.harnessError.map Outcome.asRead = o.harnessError := by
    cases he : o.harnessError with
    | none => rfl
    | some e => rw [Option.map_some, Outcome.asRead_eq_self (h.harnessMessage e he)]
  have hsubtests : o.subtests.map (fun s ↦ (s.1, s.2.asRead)) = o.subtests :=
    (List.map_congr_left fun s hs ↦ by rw [Outcome.asRead_eq_self (h.messages s hs)]).trans
      (List.map_id' _)
  rw [asRead, hharness, hsubtests]

theorem Outcome.keepsLines_of_notMem {o : Outcome} (h : ∀ m ∈ o.message, '\r' ∉ m.toList) :
    o.KeepsLines := by
  intro m hm l hl hlast
  exact h m hm (mem_of_mem_splitOn hl (List.mem_of_getLast? hlast))

namespace Baseline

/-! ## One line of a body -/

theorem IsStatusList.ne_nil {s : List Char} {statuses : Choice Recorded}
    (h : IsStatusList s statuses) : statuses.toList ≠ [] := by
  obtain ⟨rs, hne, -, rfl⟩ := h
  obtain ⟨r, rs, rfl⟩ := List.exists_cons_of_ne_nil hne
  exact List.ne_nil_of_mem (Choice.mem_toList.mpr (Choice.has_ofList.mpr List.mem_cons_self))

/-- What a line without line ends says: statuses are there, and texts have no line ends. -/
def BodyLine.Sound : BodyLine → Prop
  | .message content => '\r' ∉ content.toList
  | .harnessError statuses => statuses.toList ≠ []
  | .subtest name statuses => statuses.toList ≠ [] ∧ '\n' ∉ name.toList ∧ '\r' ∉ name.toList

theorem BodyLine.sound_of_read {line : List Char} {l : BodyLine} (h : BodyLine.read line = .ok l)
    (hnewline : '\n' ∉ line) (hreturn : '\r' ∉ line) : l.Sound := by
  rcases BodyLine.cases_of_read h with ⟨content, rfl, rfl⟩ | ⟨subtest, statuses, hopens, rfl⟩
  · rw [List.mem_append, not_or] at hreturn
    simpa [Sound] using hreturn.2
  · cases hopens with
    | subtest hs =>
      refine ⟨hs.ne_nil, ?_, ?_⟩
      · rw [String.toList_ofList]
        exact fun hn ↦ hnewline (by simp [hn])
      · rw [String.toList_ofList]
        exact fun hr ↦ hreturn (by simp [hr])
    | harness hs => exact hs.ne_nil

/-! ## The items of a body -/

/-- Items whose statuses, names and messages are written so that they can be read back. -/
structure ItemsSound (items : List Item) : Prop where
  /-- Each has a status. -/
  statuses : ∀ i ∈ items, i.statuses.toList ≠ []
  /-- No name holds a line end. -/
  names : ∀ i ∈ items, ∀ n ∈ i.subtest, '\n' ∉ n.toList ∧ '\r' ∉ n.toList
  /-- No message holds a carriage return. -/
  messages : ∀ i ∈ items, ∀ l ∈ i.messageLines, '\r' ∉ l.toList
  /-- No two have one name. -/
  nodup : (items.filterMap Item.subtest).Nodup

theorem ItemsSound.nil : ItemsSound [] := ⟨by simp, by simp, by simp, by simp⟩

/-- An item that was just opened is sound, if it is no second one of its name. -/
theorem ItemsSound.cons {items : List Item} (h : ItemsSound items) {subtest : Option String}
    {statuses : Choice Recorded} (hstatuses : statuses.toList ≠ [])
    (hname : ∀ n ∈ subtest, '\n' ∉ n.toList ∧ '\r' ∉ n.toList)
    (hnew : ∀ n ∈ subtest, n ∉ items.filterMap Item.subtest) :
    ItemsSound (⟨subtest, statuses, []⟩ :: items) where
  statuses := List.forall_mem_cons.mpr ⟨hstatuses, h.statuses⟩
  names := List.forall_mem_cons.mpr ⟨hname, h.names⟩
  messages := List.forall_mem_cons.mpr ⟨by simp, h.messages⟩
  nodup := by
    cases subtest with
    | none => exact h.nodup
    | some n =>
      rw [List.filterMap_cons]
      exact List.nodup_cons.mpr ⟨hnew n rfl, h.nodup⟩

theorem ItemsSound.message {i : Item} {items : List Item} (h : ItemsSound (i :: items))
    {content : String} (hcontent : '\r' ∉ content.toList) :
    ItemsSound ({ i with messageLines := i.messageLines ++ [content] } :: items) where
  statuses := List.forall_mem_cons.mpr (List.forall_mem_cons.mp h.statuses)
  names := List.forall_mem_cons.mpr (List.forall_mem_cons.mp h.names)
  messages := by
    obtain ⟨hi, hitems⟩ := List.forall_mem_cons.mp h.messages
    refine List.forall_mem_cons.mpr ⟨fun l hl ↦ ?_, hitems⟩
    rcases List.mem_append.mp hl with hl | hl
    · exact hi l hl
    · rw [List.mem_singleton.mp hl]
      exact hcontent
  nodup := h.nodup

/-- **A sound line keeps items sound.** -/
theorem ItemsSound.addLine {items items' : List Item} (h : ItemsSound items) {l : BodyLine}
    (hl : l.Sound) (hadd : Baseline.addLine items l = .ok items') : ItemsSound items' := by
  cases l with
  | message content =>
    cases items with
    | nil => cases hadd
    | cons i items =>
      obtain rfl := Except.ok.inj hadd
      exact h.message hl
  | harnessError statuses =>
    rw [Baseline.addLine] at hadd
    split at hadd
    · cases hadd
    · obtain rfl := Except.ok.inj hadd
      exact h.cons hl (by simp) (by simp)
  | subtest name statuses =>
    rw [Baseline.addLine] at hadd
    split at hadd
    · cases hadd
    · rename_i hnew
      obtain rfl := Except.ok.inj hadd
      refine h.cons hl.1 (by simpa using hl.2) fun n hn ↦ ?_
      obtain rfl := Option.some.inj hn
      simpa using hnew

theorem addLines_sound {items items' : List Item} {body : List (List Char)}
    (h : ItemsSound items) (hbody : ∀ l ∈ body, '\n' ∉ l ∧ '\r' ∉ l)
    (hadd : addLines items body = .ok items') : ItemsSound items' := by
  induction body generalizing items with
  | nil =>
    obtain rfl := Except.ok.inj hadd
    exact h
  | cons l body ih =>
    obtain ⟨hl, hbody⟩ := List.forall_mem_cons.mp hbody
    rw [addLines_cons] at hadd
    obtain ⟨items₁, hfirst, hrest⟩ := Answer.bind_eq_ok_iff.mp hadd
    obtain ⟨said, hread, hsaid⟩ := Answer.bind_eq_ok_iff.mp hfirst
    exact ih (h.addLine (BodyLine.sound_of_read hread hl.1 hl.2) hsaid) hbody hrest

/-! ## The outcomes of items -/

theorem keys_outcomesOf (items : List Item) :
    Keyed.keys (outcomesOf items).subtests = items.filterMap Item.subtest := by
  rw [Keyed.keys, outcomesOf, List.map_filterMap]
  refine List.filterMap_congr fun i _ ↦ ?_
  rw [Option.map_map]
  exact Option.map_id'

theorem exists_of_harnessError {items : List Item} {e : Outcome}
    (he : e ∈ (outcomesOf items).harnessError) : ∃ i ∈ items, i.outcome = e := by
  obtain ⟨i, hi, rfl⟩ := Option.map_eq_some_iff.mp he
  exact ⟨i, List.mem_of_find?_eq_some hi, rfl⟩

theorem exists_of_mem_subtests {items : List Item} {s : String × Outcome}
    (hs : s ∈ (outcomesOf items).subtests) :
    ∃ i ∈ items, i.subtest = some s.1 ∧ i.outcome = s.2 := by
  obtain ⟨i, hi, hs⟩ := List.mem_filterMap.mp hs
  obtain ⟨n, hn, rfl⟩ := Option.map_eq_some_iff.mp hs
  exact ⟨i, hi, hn, rfl⟩

theorem Item.keepsLines_outcome {i : Item} (h : ∀ l ∈ i.messageLines, '\r' ∉ l.toList) :
    i.outcome.KeepsLines := by
  refine Outcome.keepsLines_of_notMem fun m hm hr ↦ ?_
  rw [Item.outcome] at hm
  dsimp only at hm
  split at hm
  · cases hm
  · obtain rfl := Option.some.inj hm
    rw [String.toList_intercalate] at hr
    rcases mem_of_mem_intercalate hr with hr | ⟨l, hl, hr⟩
    · exact absurd hr (by decide)
    · obtain ⟨line, hline, rfl⟩ := List.mem_map.mp hl
      exact h line hline hr

/-- **The outcomes of sound items are lossless.** -/
theorem ItemsSound.lossless {items : List Item} (h : ItemsSound items) :
    (outcomesOf items).Lossless where
  harness e he := by
    obtain ⟨i, hi, rfl⟩ := exists_of_harnessError he
    exact h.statuses i hi
  statuses s hs := by
    obtain ⟨i, hi, -, hs⟩ := exists_of_mem_subtests hs
    rw [← hs]
    exact h.statuses i hi
  names s hs := by
    obtain ⟨i, hi, hname, -⟩ := exists_of_mem_subtests hs
    obtain ⟨hnewline, hreturn⟩ := h.names i hi s.1 hname
    exact ⟨hnewline, fun hlast ↦ hreturn (List.mem_of_getLast? hlast)⟩
  nodup := by
    rw [keys_outcomesOf]
    exact h.nodup
  harnessMessage e he := by
    obtain ⟨i, hi, rfl⟩ := exists_of_harnessError he
    exact Item.keepsLines_outcome (h.messages i hi)
  messages s hs := by
    obtain ⟨i, hi, -, hs⟩ := exists_of_mem_subtests hs
    rw [← hs]
    exact Item.keepsLines_outcome (h.messages i hi)

theorem ItemsSound.reverse {items : List Item} (h : ItemsSound items) :
    ItemsSound items.reverse where
  statuses i hi := h.statuses i (List.mem_reverse.mp hi)
  names i hi := h.names i (List.mem_reverse.mp hi)
  messages i hi := h.messages i (List.mem_reverse.mp hi)
  nodup := by
    rw [List.filterMap_reverse]
    exact (List.reverse_perm _).nodup_iff.mpr h.nodup

/-! ## The whole text -/

/-- **What is read from a text without carriage returns is lossless**, and it has a header unless
all of it passes. -/
theorem lossless_of_read {text : String} {b : Baseline} (htext : '\r' ∉ text.toList)
    (h : read text = .ok b) : b = {} ∨ ∃ header, b.header = some header ∧ b.outcomes.Lossless := by
  have hplain : ∀ l ∈ filled (lines text.toList), '\n' ∉ l ∧ '\r' ∉ l := by
    intro l hl
    have hchars {c : Char} (hc : c ∈ l) := mem_of_mem_lines (List.mem_of_mem_filter hl) hc
    exact ⟨fun hn ↦ (hchars hn).2 rfl, fun hr ↦ htext (hchars hr).1⟩
  have hdeclares := read_eq_ok_iff.mp h
  generalize filled (lines text.toList) = ls at hplain hdeclares
  cases hdeclares with
  | allPass => exact .inl rfl
  | framed hframe hbody =>
    obtain ⟨back, back', -, -, rfl⟩ := hframe
    have hsound : ItemsSound _ := addLines_sound .nil (fun l hl ↦ hplain l (by simp [hl]))
      (addLines_eq_ok_iff.mpr hbody)
    have hlossless := hsound.reverse.lossless
    rw [List.reverse_reverse] at hlossless
    exact .inr ⟨_, rfl, hlossless⟩

theorem read_text_of_lossless {header : Header} {o : Outcomes} (ho : o.Lossless)
    (hpass : o.allPass = false) : read (o.baselineText header) = .ok ⟨some header, o⟩ := by
  rw [read_baselineText header hpass ho.toReadable, ho.asRead_eq_self]

theorem text_of_allPass {b : Baseline} (h : b.outcomes.allPass = true) :
    b.text = textOfLines [allPassMarker] := by
  rw [text, Outcomes.baselineText, Outcomes.baselineLines, if_pos h]

/-- **Baselines make both round trips.** Outcomes that fit their lines and do not all pass are read
back from their text as they are, with the header, and give the same text again. A text without
carriage returns that is a baseline is read and written: that text is a baseline as well, it
declares the same unless all of it passes, and it gives itself again. -/
theorem baseline_round_trip :
    (∀ (header : Header) (o : Outcomes), o.Lossless → o.allPass = false →
      ∃ b, read (o.baselineText header) = .ok b ∧ b.header = some header ∧ b.outcomes = o ∧
        b.text = o.baselineText header) ∧
    ∀ (text : String) (b : Baseline), '\r' ∉ text.toList → read text = .ok b →
      ∃ b', read b.text = .ok b' ∧ (b.outcomes.allPass = false → b'.outcomes = b.outcomes) ∧
        b'.text = b.text := by
  constructor
  · exact fun header o ho hpass ↦ ⟨_, read_text_of_lossless ho hpass, rfl, rfl, rfl⟩
  · intro text b htext hread
    cases hpass : b.outcomes.allPass with
    | true =>
      have htextOf : b.text = textOfLines [allPassMarker] := text_of_allPass hpass
      refine ⟨{}, ?_, by simp, ?_⟩
      · rw [htextOf, read_allPassMarker]
      · rw [htextOf]
        exact text_of_allPass rfl
    | false =>
      rcases lossless_of_read htext hread with rfl | ⟨header, hheader, ho⟩
      · cases hpass
      · have hb : read b.text = .ok ⟨some header, b.outcomes⟩ := by
          rw [Baseline.text, hheader]
          exact read_text_of_lossless ho hpass
        exact ⟨_, hb, fun _ ↦ rfl, by rw [Baseline.text, Baseline.text, hheader]⟩

/-- Outcomes whose names and messages look like other parts of a baseline. -/
def oddOutcomes : Outcomes where
  harnessError := some (.single .timeout (some ""))
  subtests :=
    [("] [PASS] ", ⟨.ofList [.pass, .fail], some "  \n\nHarness: the test ran to completion."⟩),
      ("", .single .notRun)]

/-- A baseline with its lines in another order than they are written in, and with an empty one. -/
def looseText : String :=
  "This is a wdspec test.\n[PASS FAIL PASS] a\n\n  m\nHarness Error. [ERROR]\n" ++
    "Harness: the test ran to completion.\n"

theorem baseline_round_trip_sample :
    (oddOutcomes.Lossless ∧ oddOutcomes.allPass = false ∧
      ∃ b, read (oddOutcomes.baselineText .testharness) = .ok b ∧ b.outcomes = oddOutcomes) ∧
    '\r' ∉ looseText.toList ∧ ∃ b, read looseText = .ok b ∧ b.outcomes.allPass = false ∧
      ∃ b', read b.text = .ok b' ∧ b'.outcomes = b.outcomes ∧ b'.text = b.text := by
  have hodd : oddOutcomes.Lossless := by
    refine ⟨⟨?_, ?_, ?_, ?_⟩, ?_, ?_⟩ <;> decide
  have hpass : oddOutcomes.allPass = false := by decide
  obtain ⟨b, hread, -, houtcomes, -⟩ := baseline_round_trip.1 .testharness oddOutcomes hodd hpass
  have hplain : '\r' ∉ looseText.toList := by decide
  have hloose : (read looseText).map (fun b ↦ b.outcomes.allPass) = .ok false := by
    decide +kernel
  obtain ⟨loose, hread', hpass'⟩ := Answer.map_eq_ok_iff.mp hloose
  obtain ⟨b', hagain, hsame, htext⟩ := baseline_round_trip.2 looseText loose hplain hread'
  exact ⟨⟨hodd, hpass, b, hread, houtcomes⟩, hplain, loose, hread', hpass', b', hagain,
    hsame hpass', htext⟩

end Baseline

end WebTestRun
