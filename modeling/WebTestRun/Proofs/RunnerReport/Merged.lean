import Mathlib.Data.List.Forall2
import Mathlib.Data.List.TakeWhile
import WebTestRun.Proofs.Collection.Answer
import WebTestRun.Proofs.Json.Equality
import WebTestRun.Proofs.Json.Ordered
import WebTestRun.Proofs.Json.Printable
import WebTestRun.RunnerReport

/-!
# What is merged

A merged report has the members of the first object, and in its list of results those of all others
after its own. Nothing is lost, and merging the merged report changes nothing more. Without an
object in every line nothing is merged, and nothing is written.

* `objects?` — the objects of a report, one for each line that is not blank.
* `Merged` — a report is the first object with the results of others: `Merged.addRetry`,
  `addRetries_eq_ok`.
* `Offends` — the first line that is no object, by its number.
* `merged_of_objects` — all of it.
-/

set_option autoImplicit false

namespace WebTestRun.RunnerReport

/-- The members of an object. -/
abbrev Members := List (String × Json)

/-- The objects in the lines of a text that are not blank. -/
def objects? (contents : String) : Option (List Members) :=
  ((Text.lines contents.toList).filter fun l ↦ !Text.allBlank l).mapM fun l ↦
    members? (String.ofList l)

/-! ## The results of all lines -/

/-- The results that are listed in some objects, in order. -/
def listed (objects : List Members) : List Json :=
  objects.flatMap fun m ↦ (list? m resultsKey).getD []

/-- The results of an object with those of others: its own come first, and a list is there if one of
them has one. What is no list stays as it is. -/
def resultsOf (first : Members) (later : List Members) : Option Json :=
  match Keyed.find? resultsKey first with
  | some (.array items) => some (.array (items ++ listed later))
  | some value => some value
  | none =>
    if later.any fun m ↦ (list? m resultsKey).isSome then some (.array (listed later)) else none

/-- A report is an object with the results of others. -/
structure Merged (first : Members) (later : List Members) (report : Members) : Prop where
  /-- It has every member once. -/
  ordered : Keyed.Ordered report
  /-- All other members are those of the object. -/
  others (k : String) (hk : k ≠ resultsKey) : Keyed.find? k report = Keyed.find? k first
  /-- The results are those of all. -/
  results : Keyed.find? resultsKey report = resultsOf first later

theorem listed_concat (later : List Members) (m : Members) :
    listed (later ++ [m]) = listed later ++ (list? m resultsKey).getD [] := by
  simp [listed]

theorem Merged.nil {first : Members} (h : Keyed.Ordered first) : Merged first [] first where
  ordered := h
  others _ _ := rfl
  results := by
    rw [resultsOf]
    split <;> simp_all [listed]

/-- The results with those of one more object. -/
def extend : Option Json → Option (List Json) → Option Json
  | value, none => value
  | none, some more => some (.array more)
  | some (.array items), some more => some (.array (items ++ more))
  | some value, some _ => some value

theorem extend_none (value : Option Json) : extend value none = value := by
  rcases value with _ | value
  · rfl
  · cases value <;> rfl

theorem resultsOf_concat (first : Members) (later : List Members) (m : Members) :
    resultsOf first (later ++ [m]) = extend (resultsOf first later) (list? m resultsKey) := by
  rw [resultsOf, resultsOf, listed_concat, List.any_append]
  cases hm : list? m resultsKey with
  | none =>
    rw [Option.getD_none, List.append_nil, List.any_cons, hm, List.any_nil]
    simp [extend]
  | some more =>
    cases hresults : Keyed.find? resultsKey first with
    | none =>
      -- A list is there now, and none of the others had one unless it was there before.
      cases hany : later.any fun m ↦ (list? m resultsKey).isSome with
      | true => simp [extend, hm]
      | false =>
        have hnone : listed later = [] := by
          rw [listed, List.flatMap_eq_nil_iff]
          intro other hother
          have hother := List.any_eq_false.mp hany other hother
          rw [Bool.not_eq_true, Option.isSome_eq_false_iff, Option.isNone_iff_eq_none] at hother
          rw [hother]
          rfl
        simp [extend, hm, hnone]
    | some value => cases value <;> simp [extend]

/-! ## One retry -/

theorem find?_addRetry (path : String) (number : Nat) (report retry : Members) (k : String) :
    Keyed.find? k (addRetry path number report retry).1 =
      if k = resultsKey then extend (Keyed.find? resultsKey report) (list? retry resultsKey)
      else Keyed.find? k report := by
  rw [addRetry]
  by_cases hk : k = resultsKey
  · rw [if_pos hk, hk]
    cases hretry : list? retry resultsKey with
    | none => rw [extend_none]
    | some more =>
      cases hreport : Keyed.find? resultsKey report with
      | none => simp [extend, Keyed.find?_insert]
      | some value => cases value <;> simp [extend, hreport, Keyed.find?_insert]
  · have hother (value : Json) :
        Keyed.find? k (Keyed.insert resultsKey value report) = Keyed.find? k report := by
      rw [Keyed.find?_insert, if_neg (Ne.symm hk)]
    rw [if_neg hk]
    split
    · rfl
    · split
      · exact hother _
      · exact hother _
      · rfl

theorem ordered_addRetry (path : String) (number : Nat) {report : Members} (retry : Members)
    (h : Keyed.Ordered report) : Keyed.Ordered (addRetry path number report retry).1 := by
  unfold addRetry
  split
  · exact h
  · split
    · exact Keyed.ordered_insert _ _ h
    · exact Keyed.ordered_insert _ _ h
    · exact h

/-- **The results of a retry come after all others.** -/
theorem Merged.addRetry {first report : Members} {later : List Members}
    (h : Merged first later report) (path : String) (number : Nat) (retry : Members) :
    Merged first (later ++ [retry]) (addRetry path number report retry).1 where
  ordered := ordered_addRetry path number retry h.ordered
  others k hk := by rw [find?_addRetry, if_neg hk, h.others k hk]
  results := by rw [find?_addRetry, if_pos rfl, resultsOf_concat, h.results]

/-! ## All retries -/

/-- **All retries are merged** if each of their lines is an object. -/
theorem addRetries_eq_ok {first report : Members} {done later : List Members}
    (h : Merged first done report) (path : String) (number : Nat) {lines : List (Nat × String)}
    (hlines : List.Forall₂ (fun l m ↦ members? l.2 = some m) lines later) :
    ∃ logs merged, addRetries path number report lines = (logs, .ok merged) ∧
      Merged first (done ++ later) merged := by
  induction hlines generalizing report done number with
  | nil => exact ⟨[], report, rfl, by rwa [List.append_nil]⟩
  | @cons line retry lines later hretry _ ih =>
    obtain ⟨logs, merged, hmerged, hsame⟩ := ih (h.addRetry path number retry) (number + 1)
    rw [addRetries, hretry]
    dsimp only
    rw [hmerged]
    exact ⟨_, merged, rfl, by rwa [List.append_assoc] at hsame⟩

/-- A line that is no object ends the merging. -/
theorem addRetries_eq_error (path : String) (number : Nat) (report : Members)
    {before after : List (Nat × String)} {line : Nat × String}
    (hbefore : ∀ l ∈ before, (members? l.2).isSome = true) (hline : members? line.2 = none) :
    ∃ logs, addRetries path number report (before ++ line :: after) =
      (logs, .error (.notObject path line.1)) := by
  induction before generalizing report number with
  | nil =>
    rw [List.nil_append, addRetries, hline]
    exact ⟨[], rfl⟩
  | cons l before ih =>
    obtain ⟨hl, hbefore⟩ := List.forall_mem_cons.mp hbefore
    obtain ⟨retry, hretry⟩ := Option.isSome_iff_exists.mp hl
    obtain ⟨logs, hrest⟩ := ih (number + 1) (addRetry path number report retry).1 hbefore
    rw [List.cons_append, addRetries, hretry]
    dsimp only
    rw [hrest]
    exact ⟨_, rfl⟩

/-! ## The lines of a text -/

theorem mapM_filledLines (contents : String) :
    (filledLines contents).mapM (fun l ↦ members? l.2) = objects? contents := by
  rw [objects?, ← Text.map_snd_numberedLines, List.filter_map, filledLines, List.mapM_map,
    List.mapM_map]
  rfl

/-- A line is blank or an object. -/
def fits (line : List Char) : Bool :=
  Text.allBlank line || (members? (String.ofList line)).isSome

/-- The first line of a text that is neither blank nor an object has a number. -/
def Offends (contents : String) (number : Nat) : Prop :=
  ∃ before line after, Text.lines contents.toList = before ++ line :: after ∧
    number = before.length + 1 ∧ fits line = false ∧ ∀ l ∈ before, fits l = true

/-- If not every line fits, there is a first one that does not. -/
theorem exists_offends {contents : String} (h : objects? contents = none) :
    ∃ number, Offends contents number := by
  have hsplit := List.takeWhile_append_dropWhile (p := fits) (l := Text.lines contents.toList)
  cases hrest : (Text.lines contents.toList).dropWhile fits with
  | nil =>
    rw [List.dropWhile_eq_nil_iff] at hrest
    have hobjects : objects? contents = some _ :=
      Answer.mapM_eq_some_iff_filterMap.mpr ⟨fun l hl ↦ ?_, rfl⟩
    · rw [hobjects] at h
      cases h
    · obtain ⟨hmem, hfilled⟩ := List.mem_filter.mp hl
      have hfits := hrest l hmem
      rw [fits, (Bool.not_eq_true' _).mp hfilled, Bool.false_or] at hfits
      exact hfits
  | cons line after =>
    refine ⟨_, _, line, after, (hrest ▸ hsplit).symm, rfl, ?_, ?_⟩
    · have hhead := List.head?_dropWhile_not fits (Text.lines contents.toList)
      rw [hrest] at hhead
      simpa using hhead
    · exact fun l hl ↦ List.all_eq_true.mp List.all_takeWhile l hl

/-- The lines that are not blank, numbered from some number on. -/
def filledFrom (number : Nat) (lines : List (List Char)) : List (Nat × String) :=
  (((lines.zipIdx number).map fun p ↦ (p.2 + 1, p.1)).filter fun l ↦ !Text.allBlank l.2).map
    fun l ↦ (l.1, String.ofList l.2)

theorem filledLines_eq (contents : String) :
    filledLines contents = filledFrom 0 (Text.lines contents.toList) := rfl

theorem filledFrom_cons {line : List Char} (h : Text.allBlank line = false) (number : Nat)
    (lines : List (List Char)) : filledFrom number (line :: lines) =
      (number + 1, String.ofList line) :: filledFrom (number + 1) lines := by
  rw [filledFrom, List.zipIdx_cons, List.map_cons, List.filter_cons_of_pos (by simp [h]),
    List.map_cons, ← filledFrom]

theorem filledFrom_append (number : Nat) (lines more : List (List Char)) :
    filledFrom number (lines ++ more) =
      filledFrom number lines ++ filledFrom (number + lines.length) more := by
  rw [filledFrom, List.zipIdx_append, List.map_append, List.filter_append, List.map_append,
    ← filledFrom, ← filledFrom]

theorem exists_of_mem_filledFrom {number : Nat} {lines : List (List Char)} {l : Nat × String}
    (h : l ∈ filledFrom number lines) :
    ∃ line ∈ lines, Text.allBlank line = false ∧ l.2 = String.ofList line := by
  obtain ⟨numbered, hfilled, rfl⟩ := List.mem_map.mp h
  obtain ⟨hnumbered, hblank⟩ := List.mem_filter.mp hfilled
  obtain ⟨indexed, hindexed, rfl⟩ := List.mem_map.mp hnumbered
  exact ⟨indexed.1, List.fst_mem_of_mem_zipIdx hindexed, (Bool.not_eq_true' _).mp hblank, rfl⟩

/-- Where the first line that does not fit stands among those that are not blank. -/
theorem Offends.exists_filledLines {contents : String} {number : Nat}
    (h : Offends contents number) : ∃ before line after,
      filledLines contents = before ++ (number, line) :: after ∧
        (∀ l ∈ before, (members? l.2).isSome = true) ∧ members? line = none := by
  obtain ⟨before, line, after, hlines, rfl, hline, hbefore⟩ := h
  rw [fits, Bool.or_eq_false_iff, Option.isSome_eq_false_iff, Option.isNone_iff_eq_none] at hline
  refine ⟨filledFrom 0 before, String.ofList line, filledFrom (before.length + 1) after, ?_,
    fun l hl ↦ ?_, hline.2⟩
  · rw [filledLines_eq, hlines, filledFrom_append, Nat.zero_add, filledFrom_cons hline.1]
  · obtain ⟨other, hother, hblank, htext⟩ := exists_of_mem_filledFrom hl
    have hfits := hbefore other hother
    rw [fits, hblank, Bool.false_or] at hfits
    rwa [htext]

/-! ## Merging -/

theorem ordered_of_members? {text : String} {members : Members}
    (h : members? text = some members) : Keyed.Ordered members := by
  rw [members?] at h
  split at h
  · rename_i read hread
    obtain rfl := Option.some.inj h
    obtain ⟨d, -, hjson⟩ := Option.bind_eq_some_iff.mp hread
    cases Document.ordered_of_json? hjson with
    | object hkeys => exact hkeys
  · cases h

/-- **Objects are merged** into the first one. -/
theorem merge_of_objects (path : String) {contents : String} {first : Members}
    {later : List Members} (h : objects? contents = some (first :: later)) :
    ∃ logs report, merge path contents = (logs, .ok report) ∧ Merged first later report := by
  rw [← mapM_filledLines, Answer.mapM_eq_some_iff] at h
  rw [merge]
  cases hfilled : filledLines contents with
  | nil =>
    rw [hfilled] at h
    cases h
  | cons line rest =>
    rw [hfilled] at h
    obtain ⟨hfirst, hrest⟩ := List.forall₂_cons.mp h
    dsimp only
    rw [hfirst]
    exact addRetries_eq_ok (.nil (ordered_of_members? hfirst)) path 1 hrest

/-- A text of blank lines is empty. -/
theorem merge_of_blank (path : String) {contents : String} (h : objects? contents = some []) :
    merge path contents = ([], .error (.empty path)) := by
  rw [← mapM_filledLines, Answer.mapM_eq_some_iff, List.forall₂_nil_right_iff] at h
  rw [merge, h]

/-- The first line that does not fit is reported. -/
theorem merge_of_offends (path : String) {contents : String} {number : Nat}
    (h : Offends contents number) :
    ∃ logs, merge path contents = (logs, .error (.notObject path number)) := by
  obtain ⟨before, line, after, hfilled, hbefore, hline⟩ := h.exists_filledLines
  rw [merge, hfilled]
  cases before with
  | nil =>
    rw [List.nil_append]
    dsimp only
    rw [hline]
    exact ⟨[], rfl⟩
  | cons l before =>
    obtain ⟨hl, hbefore⟩ := List.forall_mem_cons.mp hbefore
    obtain ⟨report, hreport⟩ := Option.isSome_iff_exists.mp hl
    rw [List.cons_append]
    dsimp only
    rw [hreport]
    exact addRetries_eq_error path 1 report hbefore hline

/-- **A merged report is merged already**, if its text is read back. -/
theorem merge_text {report : Members} (hback : Json.ofText? (text report) = some (.object report))
    (path : String) : merge path (text report) = ([], .ok report) := by
  obtain ⟨rest, htext⟩ : ∃ rest, (text report).toList = '{' :: rest := by
    rw [text, Json.written, Json.enclosed, String.toList_append, String.toList_append]
    exact ⟨_, rfl⟩
  have hline : Text.lines (text report).toList = [(text report).toList] :=
    Text.lines_of_newline (by simp [htext]) (Json.written_printable _).oneLine.newline
  have hfilled : Text.allBlank (text report).toList = false := by
    have hbrace : Text.isBlank '{' = false := by decide
    rw [htext, Text.allBlank, List.all_cons, hbrace, Bool.false_and]
  rw [merge, filledLines_eq, hline, filledFrom_cons hfilled, String.ofList_toList]
  dsimp only
  rw [members?, hback]
  rfl

/-! ## Publishing -/

/-- Nothing is written and nothing is uploaded if nothing is merged. -/
theorem publish_of_fault {t : FileTree} {path contents : String} {fault : Fault} {logs : List Log}
    (hread : t.readText path = .ok contents) (h : merge path contents = (logs, .error fault))
    (dir : String) : publish t path dir = { files := t, logs, result := .error fault } := by
  rw [publish, hread]
  dsimp only
  rw [h]

/-- **Merging loses nothing**, whatever the text of a report. If each line that is not blank is an
object, the first object is merged with the results of all others, and merging the text of that
again gives the same, as long as the text is read back. If all lines are blank or one is no object,
the first such line is reported, no file is written, no directory created and nothing uploaded. -/
theorem merged_of_objects (path contents : String) :
    (∀ first later, objects? contents = some (first :: later) →
      ∃ logs report, merge path contents = (logs, .ok report) ∧ Merged first later report ∧
        (Json.ofText? (text report) = some (.object report) →
          merge path (text report) = ([], .ok report))) ∧
    ∀ (t : FileTree) (dir : String), t.readText path = .ok contents →
      (objects? contents = some [] →
        publish t path dir = { files := t, result := .error (.empty path) }) ∧
      (objects? contents = none → ∃ number logs, Offends contents number ∧
        publish t path dir = { files := t, logs, result := .error (.notObject path number) }) := by
  refine ⟨fun first later hobjects ↦ ?_, fun t dir hread ↦ ⟨fun hblank ↦ ?_, fun hnone ↦ ?_⟩⟩
  · obtain ⟨logs, report, hmerge, hmerged⟩ := merge_of_objects path hobjects
    exact ⟨logs, report, hmerge, hmerged, fun hback ↦ merge_text hback path⟩
  · exact publish_of_fault hread (merge_of_blank path hblank) dir
  · obtain ⟨number, hoffends⟩ := exists_offends hnone
    obtain ⟨logs, hmerge⟩ := merge_of_offends path hoffends
    exact ⟨number, logs, hoffends, publish_of_fault hread hmerge dir⟩

/-- An object without results, a blank line and the results of a retry. -/
def sampleText : String := "\x7b\"a\":null\x7d\n \n\x7b\"results\":[true]\x7d\n"

/-- The two objects merged. -/
def sampleMerged : Members := [("a", .null), ("results", .array [.bool true])]

/-- A line that is no object, in a file. -/
def sampleFiles : FileTree where
  here := ["work"]
  entries := [("work/r.json", .file "\x7b\x7d\n\n[1]\n".toUTF8)]

theorem merged_of_objects_sample :
    (objects? sampleText = some [[("a", .null)], [("results", .array [.bool true])]] ∧
      merge "r.json" sampleText = ([], .ok sampleMerged) ∧
      Json.ofText? (text sampleMerged) = some (.object sampleMerged) ∧
      merge "r.json" (text sampleMerged) = ([], .ok sampleMerged)) ∧
    sampleFiles.readText "r.json" = .ok "\x7b\x7d\n\n[1]\n" ∧
      objects? "\x7b\x7d\n\n[1]\n" = none ∧
      ∃ number logs, Offends "\x7b\x7d\n\n[1]\n" number ∧ publish sampleFiles "r.json" "out" =
        { files := sampleFiles, logs, result := .error (.notObject "r.json" number) } := by
  have hobjects : objects? sampleText =
      some [[("a", .null)], [("results", .array [.bool true])]] := by decide +kernel
  have hsample : merge "r.json" sampleText = ([], .ok sampleMerged) := by decide +kernel
  have hback : Json.ofText? (text sampleMerged) = some (.object sampleMerged) := by
    decide +kernel
  have hread : sampleFiles.readText "r.json" = .ok "\x7b\x7d\n\n[1]\n" := by decide +kernel
  have hnone : objects? "\x7b\x7d\n\n[1]\n" = none := by decide +kernel
  obtain ⟨logs, report, hmerge, -, hagain⟩ :=
    (merged_of_objects "r.json" sampleText).1 _ _ hobjects
  rw [hsample] at hmerge
  obtain rfl := Except.ok.inj (Prod.mk.inj hmerge).2
  exact ⟨⟨hobjects, hsample, hback, hagain hback⟩, hread, hnone,
    ((merged_of_objects "r.json" "\x7b\x7d\n\n[1]\n").2 sampleFiles "out" hread).2 hnone⟩

end WebTestRun.RunnerReport
