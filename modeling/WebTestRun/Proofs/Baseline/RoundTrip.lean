import WebTestRun.Baseline.Read
import WebTestRun.Baseline.Written
import WebTestRun.Proofs.Collection.Answer
import WebTestRun.Proofs.Text.Pieces

/-!
# Baselines that are written and read again

A baseline is written item by item and read line by line. Every line that is written says, when it
is read, what it was written for, so the items that are read are those that were written. Only a
carriage return at the end of a line of a message is lost.

* `readStatuses_eq_ok_iff` — what a list of statuses says.
* `addLines` — the lines of a body, read without their numbers.
* `Outcome.asRead`, `Outcomes.asRead` — what is left of outcomes on the way.
* `read_baselineText` — the baseline that is read from the text of outcomes.
-/

set_option autoImplicit false

namespace WebTestRun

open Text

/-! ## What is left of outcomes -/

/-- The lines of a message as they are read back. -/
def readMessageLines (message : Option String) : List String :=
  match message with
  | none => []
  | some m => (m.toList.splitOn '\n').map fun l ↦ String.ofList (dropReturn l)

/-- A message as it is read back: its lines without carriage returns at their ends. -/
def readMessage (message : Option String) : Option String :=
  message.map fun m ↦ "\n".intercalate (readMessageLines (some m))

theorem readMessage_eq_self {m : String}
    (h : ∀ l ∈ m.toList.splitOn '\n', l.getLast? ≠ some '\r') :
    readMessage (some m) = some m := by
  have hlines : readMessageLines (some m) = (m.toList.splitOn '\n').map String.ofList :=
    List.map_congr_left fun l hl ↦ by rw [dropReturn_of_getLast? (h l hl)]
  rw [readMessage, Option.map_some, hlines, Option.some.injEq, ← String.toList_inj,
    String.toList_intercalate, List.map_map]
  have hpieces : (m.toList.splitOn '\n').map (String.toList ∘ String.ofList) =
      m.toList.splitOn '\n' :=
    (List.map_congr_left fun l _ ↦ String.toList_ofList).trans (List.map_id _)
  rw [hpieces]
  exact List.intercalate_splitOn '\n'

/-- An outcome as it is read back. -/
def Outcome.asRead (o : Outcome) : Outcome := ⟨o.statuses, readMessage o.message⟩

/-- Outcomes as they are read back. -/
def Outcomes.asRead (o : Outcomes) : Outcomes where
  harnessError := o.harnessError.map Outcome.asRead
  subtests := o.subtests.map fun s ↦ (s.1, s.2.asRead)

/-- Outcomes whose statuses and names can be read back. -/
structure Outcomes.Readable (o : Outcomes) : Prop where
  /-- A harness error has a status. -/
  harness : ∀ e ∈ o.harnessError, e.statuses.toList ≠ []
  /-- Each subtest has a status. -/
  statuses : ∀ s ∈ o.subtests, s.2.statuses.toList ≠ []
  /-- Each name stands on one line. -/
  names : ∀ s ∈ o.subtests, OneLine s.1.toList
  /-- No two subtests share a name. -/
  nodup : (Keyed.keys o.subtests).Nodup

/-! ## Statuses -/

theorem Recorded.name_plain (r : Recorded) :
    (Named.name r).toList ≠ [] ∧ ∀ c ∈ (Named.name r).toList, isBlank c = false := by
  have hname : (Named.name r).toList ≠ [] := by cases r <;> decide
  have hplain : ((Named.name r).toList.all fun c ↦ !isBlank c) = true := by cases r <;> decide
  exact ⟨hname, fun c hc ↦ by simpa using List.all_eq_true.mp hplain c hc⟩

theorem Recorded.ofStatusName?_eq_some_iff {s : String} {r : Recorded} :
    Recorded.ofStatusName? s = some r ↔ s = Named.name r := by
  constructor
  · intro h
    obtain ⟨status, hstatus, hr⟩ := Option.bind_eq_some_iff.mp h
    rw [← Named.ofName?_eq_some_iff.mp hstatus]
    cases status <;> cases hr <;> rfl
  · rintro rfl
    cases r <;> decide

theorem Outcome.toList_statusText (o : Outcome) :
    o.statusText.toList =
      [' '].intercalate (o.statuses.toList.map fun r ↦ (Named.name r).toList) := by
  rw [statusText, String.toList_intercalate, Choice.names, List.map_map]
  rfl

/-- The statuses of an outcome are written with the characters of their names, and blanks. -/
theorem Outcome.notMem_statusText {c : Char} (hc : c ≠ ' ')
    (h : ∀ r : Recorded, c ∉ (Named.name r).toList) (o : Outcome) : c ∉ o.statusText.toList := by
  rw [toList_statusText]
  induction o.statuses.toList with
  | nil => simp
  | cons r rs ih =>
    cases rs with
    | nil => simpa using h r
    | cons q rs =>
      rw [List.map_cons] at ih
      rw [List.map_cons, List.map_cons, List.intercalate_cons_cons, List.mem_append,
        List.mem_append, not_or, not_or]
      exact ⟨⟨h r, by simpa using hc⟩, ih⟩

theorem Outcome.bracket_notMem_statusText (o : Outcome) : ']' ∉ o.statusText.toList :=
  o.notMem_statusText (by decide) fun r ↦ by cases r <;> decide

theorem Outcome.newline_notMem_statusText (o : Outcome) : '\n' ∉ o.statusText.toList :=
  o.notMem_statusText (by decide) fun r ↦ by cases r <;> decide

namespace Baseline

/-- **What a list of statuses says**: which statuses stand in it, with blanks between them. There
is one at least. -/
theorem readStatuses_eq_ok_iff {s : List Char} {statuses : Choice Recorded} :
    readStatuses s = .ok statuses ↔ ∃ rs : List Recorded, rs ≠ [] ∧
      words s = rs.map (fun r ↦ (Named.name r).toList) ∧ statuses = .ofList rs := by
  have hwords (f : List Char → Except Fault Recorded)
      (hf : ∀ w r, f w = .ok r ↔ w = (Named.name r).toList) (rs : List Recorded) :
      (words s).mapM f = .ok rs ↔ words s = rs.map fun r ↦ (Named.name r).toList := by
    simp only [Answer.mapM_eq_ok_iff, hf]
    rw [← List.forall₂_map_right_iff (R := Eq), List.forall₂_eq_eq_eq]
  have hread (w : List Char) (r : Recorded) :
      Recorded.ofStatusName? (String.ofList w) = some r ↔ w = (Named.name r).toList := by
    rw [Recorded.ofStatusName?_eq_some_iff, ← String.toList_inj, String.toList_ofList]
  rw [readStatuses, Answer.bind_eq_ok_iff]
  refine exists_congr fun rs ↦ ?_
  rw [hwords _ fun w r ↦ by rw [← hread]; cases Recorded.ofStatusName? (String.ofList w) <;> simp]
  cases rs with
  | nil => simp
  | cons r rs =>
    have hne : r :: rs ≠ [] := List.cons_ne_nil r rs
    rw [and_iff_right hne, eq_comm (b := Choice.ofList (r :: rs))]
    exact and_congr_right fun _ ↦ Iff.of_eq (Except.ok.injEq _ _)

/-- **Statuses are read back**, unless there is none. -/
theorem readStatuses_statusText {o : Outcome} (h : o.statuses.toList ≠ []) :
    readStatuses o.statusText.toList = .ok o.statuses := by
  refine readStatuses_eq_ok_iff.mpr ⟨o.statuses.toList, h, ?_, ?_⟩
  · rw [Outcome.toList_statusText]
    refine words_intercalate fun w hw ↦ ?_
    obtain ⟨r, -, rfl⟩ := List.mem_map.mp hw
    exact Recorded.name_plain r
  · ext r
    rw [Bool.eq_iff_iff, Choice.has_ofList, Choice.mem_toList]

/-! ## Lines -/

theorem BodyLine.read_message (content : List Char) :
    BodyLine.read (indent.toList ++ content) = .ok (.message (String.ofList content)) := by
  unfold BodyLine.read
  rw [isPrefixOf?_append]

/-- A line that starts with a bracket is about a subtest, or it is nothing. -/
theorem BodyLine.read_bracket (rest : List Char) :
    BodyLine.read ('[' :: rest) = match cutOnce [']', ' '] rest with
      | some (statuses, name) => (readStatuses statuses).map (.subtest (String.ofList name))
      | none => .error (.unexpectedLine (String.ofList ('[' :: rest))) := by
  have hindent : indent.toList.isPrefixOf? ('[' :: rest) = none :=
    isPrefixOf?_cons_of_ne (by decide) _ _
  have hharness : harnessPrefix.toList.isPrefixOf? ('[' :: rest) = none :=
    isPrefixOf?_cons_of_ne (by decide) _ _
  cases hcut : cutOnce [']', ' '] rest <;> simp only [BodyLine.read, hindent, hharness, hcut]

/-- A line that starts as one of a harness error is one of it, or it is nothing. -/
theorem BodyLine.read_harnessPrefix (rest : List Char) :
    BodyLine.read (harnessPrefix.toList ++ rest) = match [']'].isSuffixOf? (trimEnd rest) with
      | some statuses => (readStatuses statuses).map .harnessError
      | none => .error (.unexpectedLine (String.ofList (harnessPrefix.toList ++ rest))) := by
  have hindent : indent.toList.isPrefixOf? (harnessPrefix.toList ++ rest) = none :=
    isPrefixOf?_cons_of_ne (by decide) _ _
  cases hsuffix : [']'].isSuffixOf? (trimEnd rest) <;>
    simp only [BodyLine.read, hindent, isPrefixOf?_append, hsuffix]

theorem BodyLine.read_subtest {o : Outcome} (h : o.statuses.toList ≠ []) (name : String) :
    BodyLine.read ("[" ++ o.statusText ++ "] " ++ name).toList =
      .ok (.subtest name o.statuses) := by
  have hline : ("[" ++ o.statusText ++ "] " ++ name).toList =
      '[' :: (o.statusText.toList ++ ([']', ' '] ++ name.toList)) := by
    simp [String.toList_append]
  rw [hline, BodyLine.read_bracket, cutOnce_append o.bracket_notMem_statusText]
  dsimp only
  rw [readStatuses_statusText h, String.ofList_toList]
  rfl

theorem BodyLine.read_harnessError {o : Outcome} (h : o.statuses.toList ≠ []) :
    BodyLine.read (harnessPrefix ++ o.statusText ++ "]").toList =
      .ok (.harnessError o.statuses) := by
  have hline : (harnessPrefix ++ o.statusText ++ "]").toList =
      harnessPrefix.toList ++ (o.statusText.toList ++ [']']) := by
    simp [String.toList_append]
  rw [hline, BodyLine.read_harnessPrefix, trimEnd_append_of_not_blank _ _ (by decide),
    isSuffixOf?_eq_some_iff.mpr rfl]
  dsimp only
  rw [readStatuses_statusText h]
  rfl

/-! ## The body -/

/-- Items with several more lines of the body, which are not numbered. -/
def addLines (items : List Item) (body : List (List Char)) : Except Fault (List Item) :=
  body.foldlM (fun items l ↦ (BodyLine.read l).bind (addLine items)) items

theorem addLines_cons (items : List Item) (l : List Char) (body : List (List Char)) :
    addLines items (l :: body) =
      ((BodyLine.read l).bind (addLine items)).bind fun items ↦ addLines items body :=
  rfl

theorem addLines_append (items : List Item) (body rest : List (List Char)) :
    addLines items (body ++ rest) =
      (addLines items body).bind fun items ↦ addLines items rest :=
  List.foldlM_append

/-- The numbers of lines only tell where a fault is. -/
theorem foldlM_readLine_eq_ok_iff {items read : List Item} {body : List (Nat × List Char)} :
    body.foldlM readLine items = .ok read ↔ addLines items (body.map (·.2)) = .ok read := by
  induction body generalizing items with
  | nil =>
    show (Except.ok items : Except Error _) = .ok read ↔
      (Except.ok items : Except Fault _) = .ok read
    rw [Except.ok.injEq, Except.ok.injEq]
  | cons l body ih =>
    rw [List.foldlM_cons, List.map_cons, addLines_cons, readLine]
    cases (BodyLine.read l.2).bind (addLine items) with
    | ok items => exact ih
    | error fault => simp [bind, Except.bind]

/-- The lines of a message go to the item that was opened last. -/
theorem addLines_message (i : Item) (items : List Item) (content : List (List Char)) :
    addLines (i :: items) (content.map (indent.toList ++ ·)) =
      .ok ({ i with messageLines := i.messageLines ++ content.map String.ofList } :: items) := by
  induction content generalizing i with
  | nil =>
    rw [List.map_nil, List.map_nil, List.append_nil]
    rfl
  | cons l content ih =>
    rw [List.map_cons, addLines_cons, BodyLine.read_message]
    show addLines ({ i with messageLines := i.messageLines ++ [String.ofList l] } :: items) _ = _
    rw [ih, List.map_cons, List.append_assoc, List.singleton_append]

/-- The lines of the message of an outcome, without line ends. -/
def messageBody (o : Outcome) : List (List Char) :=
  o.messageLines.map fun l ↦ dropReturn l.toList

theorem messageBody_eq (o : Outcome) :
    ∃ content : List (List Char), messageBody o = content.map (indent.toList ++ ·) ∧
      content.map String.ofList = readMessageLines o.message := by
  cases hm : o.message with
  | none => exact ⟨[], by simp [messageBody, Outcome.messageLines, hm], rfl⟩
  | some m =>
    refine ⟨(m.toList.splitOn '\n').map dropReturn, ?_, ?_⟩
    · simp only [messageBody, Outcome.messageLines, hm, List.map_map]
      refine List.map_congr_left fun l _ ↦ ?_
      simp only [Function.comp_apply, String.toList_append, String.toList_ofList]
      exact dropReturn_append (by decide) l
    · rw [List.map_map]
      rfl

/-- **A subtest is read back** as one item more. -/
theorem addLines_subtestLines {items : List Item} {name : String} {o : Outcome}
    (hs : o.statuses.toList ≠ []) (hname : OneLine name.toList)
    (hnew : ∀ i ∈ items, i.subtest ≠ some name) :
    addLines items ((o.subtestLines name).map fun l ↦ dropReturn l.toList) =
      .ok (⟨some name, o.statuses, readMessageLines o.message⟩ :: items) := by
  obtain ⟨content, hbody, hread⟩ := messageBody_eq o
  have hopening : ("[" ++ o.statusText ++ "] ").toList.getLast? = some ' ' := by
    rw [String.toList_append, List.getLast?_append]
    rfl
  have hfirst : dropReturn ("[" ++ o.statusText ++ "] " ++ name).toList =
      ("[" ++ o.statusText ++ "] " ++ name).toList := by
    rw [String.toList_append, dropReturn_append (by rw [hopening]; decide),
      dropReturn_of_getLast? hname.carriageReturn]
  have hfresh : (items.any fun i ↦ i.subtest == some name) = false := by simpa using hnew
  rw [Outcome.subtestLines, List.map_cons, addLines_cons, hfirst, BodyLine.read_subtest hs]
  show (addLine items (.subtest name o.statuses)).bind (addLines · (messageBody o)) = _
  rw [addLine, hfresh, hbody]
  exact (addLines_message _ items content).trans (by rw [hread]; rfl)

/-- **A harness error is read back** as one item more. -/
theorem addLines_harnessLines {items : List Item} {o : Outcome} (hs : o.statuses.toList ≠ [])
    (hnew : ∀ i ∈ items, i.subtest ≠ none) :
    addLines items (o.harnessLines.map fun l ↦ dropReturn l.toList) =
      .ok (⟨none, o.statuses, readMessageLines o.message⟩ :: items) := by
  obtain ⟨content, hbody, hread⟩ := messageBody_eq o
  have hfirst : dropReturn (harnessPrefix ++ o.statusText ++ "]").toList =
      (harnessPrefix ++ o.statusText ++ "]").toList :=
    dropReturn_of_getLast? (by simp)
  have hfresh : (items.any fun i ↦ i.subtest.isNone) = false := by simpa using hnew
  rw [Outcome.harnessLines, List.map_cons, addLines_cons, hfirst, BodyLine.read_harnessError hs]
  show (addLine items (.harnessError o.statuses)).bind (addLines · (messageBody o)) = _
  rw [addLine, hfresh, hbody]
  exact (addLines_message _ items content).trans (by rw [hread]; rfl)

/-- The items of subtests. -/
def itemsOf (subtests : List (String × Outcome)) : List Item :=
  subtests.map fun s ↦ ⟨some s.1, s.2.statuses, readMessageLines s.2.message⟩

theorem addLines_subtests {items : List Item} {subtests : List (String × Outcome)}
    (hs : ∀ s ∈ subtests, s.2.statuses.toList ≠ [])
    (hname : ∀ s ∈ subtests, OneLine s.1.toList) (hnodup : (Keyed.keys subtests).Nodup)
    (hnew : ∀ s ∈ subtests, ∀ i ∈ items, i.subtest ≠ some s.1) :
    addLines items ((subtests.flatMap fun s ↦ s.2.subtestLines s.1).map
      fun l ↦ dropReturn l.toList) = .ok ((itemsOf subtests).reverse ++ items) := by
  induction subtests generalizing items with
  | nil => rfl
  | cons s subtests ih =>
    rw [List.forall_mem_cons] at hs hname hnew
    rw [Keyed.keys, List.map_cons, List.nodup_cons] at hnodup
    rw [List.flatMap_cons, List.map_append, addLines_append,
      addLines_subtestLines hs.1 hname.1 hnew.1]
    refine (ih hs.2 hname.2 hnodup.2 fun t ht i hi ↦ ?_).trans (by simp [itemsOf])
    rcases List.mem_cons.mp hi with rfl | hi
    · intro h
      exact hnodup.1 (List.mem_map.mpr ⟨t, ht, (Option.some.inj h).symm⟩)
    · exact hnew.2 t ht i hi

/-! ## The whole text -/

theorem filledLines_map_snd (text : List Char) :
    (filledLines text).map (·.2) = (lines text).filter fun l ↦ !l.isEmpty := by
  rw [filledLines, ← map_snd_numberedLines, List.filter_map]
  rfl

/-- A line that is read back from a text: it stands on one line, and that line is not empty even
without a carriage return at its end. -/
structure IsLine (l : String) : Prop where
  newline : '\n' ∉ l.toList
  length : 2 ≤ l.toList.length

theorem IsLine.dropReturn_ne_nil {l : String} (h : IsLine l) : dropReturn l.toList ≠ [] := by
  have hlength := h.length
  rw [dropReturn]
  split
  · refine List.ne_nil_of_length_pos ?_
    rw [List.length_dropLast]
    omega
  · exact List.ne_nil_of_length_pos (by omega)

theorem filledLines_textOfLines {ls : List String} (h : ∀ l ∈ ls, IsLine l) :
    (filledLines (textOfLines ls).toList).map (·.2) = ls.map fun l ↦ dropReturn l.toList := by
  have htext : (textOfLines ls).toList = (ls.map String.toList).flatMap fun l ↦ l ++ ['\n'] := by
    rw [textOfLines, String.toList_ofList, List.flatMap_map]
  have hnewline : ∀ l ∈ ls.map String.toList, '\n' ∉ l := by
    intro l hl
    obtain ⟨l', hl', rfl⟩ := List.mem_map.mp hl
    exact (h l' hl').newline
  rw [filledLines_map_snd, htext, lines_flatMap_of_newline hnewline, List.map_map,
    List.filter_eq_self.mpr]
  · rfl
  · intro l hl
    obtain ⟨l', hl', rfl⟩ := List.mem_map.mp hl
    simpa using (h l' hl').dropReturn_ne_nil

theorem isLine_messageLines {o : Outcome} : ∀ l ∈ o.messageLines, IsLine l := by
  intro l hl
  rw [Outcome.messageLines] at hl
  split at hl
  · simp at hl
  · obtain ⟨piece, hpiece, rfl⟩ := List.mem_map.mp hl
    have hnewline := notMem_of_mem_splitOn hpiece
    constructor
    · simpa [indent, String.toList_append] using hnewline
    · simp [indent, String.toList_append]

theorem isLine_subtestLines {name : String} (hname : '\n' ∉ name.toList) (o : Outcome) :
    ∀ l ∈ o.subtestLines name, IsLine l := by
  have hfirst : IsLine ("[" ++ o.statusText ++ "] " ++ name) := by
    constructor
    · simpa [String.toList_append] using ⟨o.newline_notMem_statusText, hname⟩
    · simp only [String.toList_append, List.length_append]
      have : "[".toList.length = 1 := rfl
      have : "] ".toList.length = 2 := rfl
      omega
  exact List.forall_mem_cons.mpr ⟨hfirst, isLine_messageLines⟩

theorem isLine_harnessLines (o : Outcome) : ∀ l ∈ o.harnessLines, IsLine l := by
  have hfirst : IsLine (harnessPrefix ++ o.statusText ++ "]") := by
    constructor
    · have : '\n' ∉ harnessPrefix.toList := by decide
      simpa [String.toList_append, this] using o.newline_notMem_statusText
    · simp only [String.toList_append, List.length_append]
      have : harnessPrefix.toList.length = 16 := rfl
      omega
  exact List.forall_mem_cons.mpr ⟨hfirst, isLine_messageLines⟩

/-- What several lines say: the first and the last one are looked at before those between. -/
theorem ofLines_cons_concat (first last : Nat × List Char) (body : List (Nat × List Char)) :
    ofLines (first :: (body ++ [last])) = match Header.ofLine? first.2 with
      | none => .error ⟨first.1, .missingHeader⟩
      | some header =>
        if trimEnd last.2 == footer.toList then
          (readBody body).map fun items ↦ ⟨some header, outcomesOf items⟩
        else .error ⟨last.1, .missingFooter⟩ := by
  have hmore : (body ++ [last]).isEmpty = false := by simp
  simp only [ofLines, hmore, Bool.false_and, List.getLast?_concat, List.dropLast_concat]
  rfl

/-- A header, a body that can be read and a footer are a baseline. -/
theorem ofLines_of_map_snd {ls : List (Nat × List Char)} {header : Header}
    {body : List (List Char)} {items : List Item}
    (hls : ls.map (·.2) = header.line.toList :: (body ++ [footer.toList]))
    (hbody : addLines [] body = .ok items) :
    ofLines ls = .ok ⟨some header, outcomesOf items.reverse⟩ := by
  obtain ⟨first, rest, rfl, hfirst, hrest⟩ := List.map_eq_cons_iff.mp hls
  obtain ⟨middle, ends, rfl, hmiddle, hends⟩ := List.map_eq_append_iff.mp hrest
  obtain ⟨last, rfl, hlast⟩ := List.map_eq_singleton_iff.mp hends
  have hheader : Header.ofLine? first.2 = some header := by
    rw [hfirst]
    cases header <;> decide
  have hfooter : (trimEnd last.2 == footer.toList) = true := by
    rw [hlast]
    decide
  have hread : readBody middle = .ok items.reverse := by
    rw [readBody, foldlM_readLine_eq_ok_iff.mpr (by rw [hmiddle, hbody])]
    rfl
  rw [ofLines_cons_concat, hheader]
  dsimp only
  rw [if_pos hfooter, hread]
  rfl

/-- The item of a harness error. -/
def harnessItems (o : Outcomes) : List Item :=
  o.harnessError.toList.map fun e ↦ ⟨none, e.statuses, readMessageLines e.message⟩

theorem Item.outcome_of_readMessageLines (subtest : Option String) (o : Outcome) :
    (Item.mk subtest o.statuses (readMessageLines o.message)).outcome = o.asRead := by
  rw [Item.outcome, Outcome.asRead, readMessage]
  cases o.message with
  | none => rfl
  | some m =>
    have hlines : (readMessageLines (some m)).isEmpty = false := by simp [readMessageLines]
    simp only [hlines]
    rfl

theorem find?_itemsOf (subtests : List (String × Outcome)) :
    (itemsOf subtests).find? (fun i ↦ i.subtest.isNone) = none := by
  rw [List.find?_eq_none]
  intro i hi
  obtain ⟨s, -, rfl⟩ := List.mem_map.mp hi
  simp

theorem filterMap_itemsOf (subtests : List (String × Outcome)) :
    (itemsOf subtests).filterMap (fun i ↦ i.subtest.map fun name ↦ (name, i.outcome)) =
      subtests.map fun s ↦ (s.1, s.2.asRead) := by
  induction subtests with
  | nil => rfl
  | cons s subtests ih =>
    rw [itemsOf, List.map_cons, List.filterMap_cons, ← itemsOf, ih]
    simp only [Option.map_some, Item.outcome_of_readMessageLines, List.map_cons]

/-- The items of outcomes declare what is left of them. -/
theorem outcomesOf_items (o : Outcomes) :
    outcomesOf (harnessItems o ++ itemsOf o.subtests) = o.asRead := by
  rw [outcomesOf, List.find?_append, List.filterMap_append, find?_itemsOf, filterMap_itemsOf,
    harnessItems, Outcomes.asRead]
  cases o.harnessError with
  | none => rfl
  | some e => simp [Item.outcome_of_readMessageLines]

/-- The marker alone is the baseline that declares nothing. -/
theorem read_allPassMarker : read (textOfLines [allPassMarker]) = .ok {} := by
  rfl

/-- **The baseline that is read from the text of outcomes** declares the same outcomes, up to the
carriage returns at the ends of the lines of their messages. -/
theorem read_baselineText (header : Header) {o : Outcomes} (hpass : o.allPass = false)
    (ho : o.Readable) : read (o.baselineText header) = .ok ⟨some header, o.asRead⟩ := by
  have hsubtests : addLines (harnessItems o).reverse ((o.subtests.flatMap fun s ↦
      s.2.subtestLines s.1).map fun l ↦ dropReturn l.toList) =
      .ok ((itemsOf o.subtests).reverse ++ (harnessItems o).reverse) := by
    refine addLines_subtests ho.statuses ho.names ho.nodup fun s _ i hi ↦ ?_
    obtain ⟨e, -, rfl⟩ := List.mem_map.mp (List.mem_reverse.mp hi)
    simp
  have hharness : addLines [] ((o.harnessError.toList.flatMap Outcome.harnessLines).map
      fun l ↦ dropReturn l.toList) = .ok (harnessItems o).reverse := by
    rw [harnessItems]
    cases he : o.harnessError with
    | none => rfl
    | some e =>
      rw [Option.toList_some, List.flatMap_singleton]
      exact addLines_harnessLines (ho.harness e he) (by simp)
  have hbody : addLines [] ((o.harnessError.toList.flatMap Outcome.harnessLines ++
      o.subtests.flatMap fun s ↦ s.2.subtestLines s.1).map fun l ↦ dropReturn l.toList) =
      .ok (harnessItems o ++ itemsOf o.subtests).reverse := by
    rw [List.map_append, addLines_append, hharness, List.reverse_append]
    exact hsubtests
  have hlines : (filledLines (o.baselineText header).toList).map (·.2) =
      header.line.toList :: ((o.harnessError.toList.flatMap Outcome.harnessLines ++
        o.subtests.flatMap fun s ↦ s.2.subtestLines s.1).map (fun l ↦ dropReturn l.toList) ++
        [footer.toList]) := by
    rw [Outcomes.baselineText, Outcomes.baselineLines, hpass, filledLines_textOfLines]
    · rw [if_neg Bool.false_ne_true, List.map_cons, List.map_append]
      cases header <;> rfl
    · rw [if_neg Bool.false_ne_true]
      intro l hl
      rw [List.mem_cons, List.mem_append, List.mem_append, List.mem_flatMap, List.mem_flatMap,
        List.mem_singleton] at hl
      rcases hl with rfl | (⟨e, -, hl⟩ | ⟨s, hs, hl⟩) | rfl
      · cases header <;> constructor <;> decide
      · exact isLine_harnessLines e l hl
      · exact isLine_subtestLines (ho.names s hs).newline s.2 l hl
      · constructor <;> decide
  rw [read, ofLines_of_map_snd hlines hbody, List.reverse_reverse, outcomesOf_items]

end Baseline

end WebTestRun
