import WebTestRun.Baseline.Basic
import WebTestRun.Text.Blank
import WebTestRun.Text.Cut
import WebTestRun.Text.Line

/-!
# Reading a baseline

Empty lines are left out first, so a line of a message is never empty: it starts with the indent.
Then the text is the marker line alone, or a header, a body and a footer. The body is read line
by line; each line opens an item or adds a line to the message of the item above it.

* `Baseline.BodyLine.read` — what one line of the body says.
* `Baseline.Item`, `Baseline.addLine` — the items read so far.
* `Baseline.read` — the baseline of a text.
-/

set_option autoImplicit false

namespace WebTestRun.Baseline

open Text

/-! ## One line of the body -/

/-- What a line of the body says. -/
inductive BodyLine where
  /-- A line of a message, without its indent. -/
  | message (content : String)
  | harnessError (statuses : Choice Recorded)
  | subtest (name : String) (statuses : Choice Recorded)

/-- The statuses of a list with blanks between them. -/
def readStatuses (s : List Char) : Except Fault (Choice Recorded) := do
  let statuses ← (words s).mapM fun w ↦
    match Recorded.ofStatusName? (String.ofList w) with
    | some r => .ok r
    | none => .error (.unknownStatus (String.ofList w))
  if statuses.isEmpty then .error .emptyStatuses else .ok (.ofList statuses)

/-- What a line of the body says. The statuses of a subtest end at the first bracket that a blank
follows, so its name may hold brackets. -/
def BodyLine.read (line : List Char) : Except Fault BodyLine :=
  let unexpected := Fault.unexpectedLine (String.ofList line)
  match indent.toList.isPrefixOf? line with
  | some content => .ok (.message (String.ofList content))
  | none =>
    match harnessPrefix.toList.isPrefixOf? line with
    | some rest =>
      match [']'].isSuffixOf? (trimEnd rest) with
      | some statuses => (readStatuses statuses).map .harnessError
      | none => .error unexpected
    | none =>
      match line with
      | '[' :: rest =>
        match cutOnce [']', ' '] rest with
        | some (statuses, name) => (readStatuses statuses).map (.subtest (String.ofList name))
        | none => .error unexpected
      | _ => .error unexpected

/-! ## Items -/

/-- An item of the body. -/
structure Item where
  /-- The name of the subtest; nothing for the harness error. -/
  subtest : Option String
  /-- The statuses. -/
  statuses : Choice Recorded
  /-- The lines of the message. -/
  messageLines : List String := []

/-- The outcome that an item declares. -/
def Item.outcome (i : Item) : Outcome :=
  ⟨i.statuses, if i.messageLines.isEmpty then none else some ("\n".intercalate i.messageLines)⟩

/-- The items with one more line of the body. The item that was opened last comes first. -/
def addLine (items : List Item) : BodyLine → Except Fault (List Item)
  | .message content =>
    match items with
    | [] => .error .orphanMessage
    | i :: rest => .ok ({ i with messageLines := i.messageLines ++ [content] } :: rest)
  | .harnessError statuses =>
    if items.any fun i ↦ i.subtest.isNone then .error .secondHarnessError
    else .ok (⟨none, statuses, []⟩ :: items)
  | .subtest name statuses =>
    if items.any fun i ↦ i.subtest == some name then .error (.duplicateSubtest name)
    else .ok (⟨some name, statuses, []⟩ :: items)

/-- The items with one more numbered line of the body. -/
def readLine (items : List Item) (line : Nat × List Char) : Except Error (List Item) :=
  match (BodyLine.read line.2).bind (addLine items) with
  | .ok items => .ok items
  | .error fault => .error ⟨line.1, fault⟩

/-- The items of a body, in their order. -/
def readBody (body : List (Nat × List Char)) : Except Error (List Item) :=
  (body.foldlM readLine []).map List.reverse

/-- The outcomes that items declare. -/
def outcomesOf (items : List Item) : Outcomes where
  harnessError := (items.find? fun i ↦ i.subtest.isNone).map Item.outcome
  subtests := items.filterMap fun i ↦ i.subtest.map fun name ↦ (name, i.outcome)

/-! ## The whole text -/

/-- The header that a line is, up to blanks at its end. -/
def Header.ofLine? (line : List Char) : Option Header :=
  [Header.testharness, .wdspec].find? fun h ↦ trimEnd line == h.line.toList

/-- The lines that are not empty, with their numbers. -/
def filledLines (text : List Char) : List (Nat × List Char) :=
  (numberedLines text).filter fun l ↦ !l.2.isEmpty

/-- The baseline of its lines. -/
def ofLines (lines : List (Nat × List Char)) : Except Error Baseline :=
  match lines with
  | [] => .error ⟨1, .missingHeader⟩
  | first :: rest =>
    if rest.isEmpty && trim first.2 == allPassMarker.toList then .ok {}
    else match Header.ofLine? first.2 with
      | none => .error ⟨first.1, .missingHeader⟩
      | some header =>
        match rest.getLast? with
        | none => .error ⟨first.1, .missingFooter⟩
        | some last =>
          if trimEnd last.2 == footer.toList then
            (readBody rest.dropLast).map fun items ↦ ⟨some header, outcomesOf items⟩
          else .error ⟨last.1, .missingFooter⟩

/-- The baseline of a text. -/
def read (text : String) : Except Error Baseline := ofLines (filledLines text.toList)

end WebTestRun.Baseline
