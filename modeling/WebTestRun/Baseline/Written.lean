import WebTestRun.Baseline.Basic

/-!
# The text of a baseline

* `Outcomes.baselineText` — the baseline that declares given outcomes.
* `Baseline.text` — the text of a baseline.
-/

set_option autoImplicit false

namespace WebTestRun

/-- Lines as a text: each is ended by a newline. -/
def textOfLines (lines : List String) : String :=
  String.ofList (lines.flatMap fun l ↦ l.toList ++ ['\n'])

/-- The statuses of an outcome with blanks between them. -/
def Outcome.statusText (o : Outcome) : String := " ".intercalate o.statuses.names

/-- The lines of the message of an outcome. -/
def Outcome.messageLines (o : Outcome) : List String :=
  match o.message with
  | none => []
  | some m => (m.toList.splitOn '\n').map fun l ↦ Baseline.indent ++ String.ofList l

/-- The lines of a subtest. -/
def Outcome.subtestLines (name : String) (o : Outcome) : List String :=
  ("[" ++ o.statusText ++ "] " ++ name) :: o.messageLines

/-- The lines of a harness error. -/
def Outcome.harnessLines (o : Outcome) : List String :=
  (Baseline.harnessPrefix ++ o.statusText ++ "]") :: o.messageLines

/-- The lines of the baseline that declares given outcomes. -/
def Outcomes.baselineLines (header : Baseline.Header) (o : Outcomes) : List String :=
  if o.allPass then [Baseline.allPassMarker]
  else
    header.line :: (o.harnessError.toList.flatMap Outcome.harnessLines ++
      o.subtests.flatMap (fun s ↦ s.2.subtestLines s.1) ++ [Baseline.footer])

/-- The baseline that declares given outcomes. -/
def Outcomes.baselineText (header : Baseline.Header) (o : Outcomes) : String :=
  textOfLines (o.baselineLines header)

/-- The text of a baseline. One without a header is written for the more common harness. -/
def Baseline.text (b : Baseline) : String :=
  b.outcomes.baselineText (b.header.getD .testharness)

end WebTestRun
