import WebTestRun.Proofs.Artifact.Written
import WebTestRun.Proofs.Layout.Search
import WebTestRun.Proofs.Processor.Answered
import WebTestRun.Proofs.TestName.Suite

/-!
# Which baseline counts

Baselines of one test may lie in several directories, and those of a test under a suite under two
names. All these places have an order, and the first file among them that can be read as a text
counts. What is written as the new baseline of a test lies at the first place, so it counts from
then on.

* `Layout.Names` — the names under which the baseline of a test is looked for.
* `Layout.places` — where it is looked for, in order, and `Layout.Tells` — what a place says.
* `Layout.found_expectedText_iff` — the baseline is what the first place says that says anything.
* `Layout.baseline_by_precedence` — which baseline counts.
-/

set_option autoImplicit false

namespace WebTestRun.Layout

open TestName (Unnameable Nameable virtualPrefix)

/-! ## Where a baseline is looked for -/

/-- The names under which the baseline of a test is looked for: its own, and then that of the test
outside of its suite. -/
inductive Names (test : String) : List String → Prop where
  | suite (suite base : String) (hname : test = virtualPrefix ++ suite ++ "/" ++ base)
    (hslash : '/' ∉ suite.toList) : Names test [test, base]
  | plain (h : ∀ suite base, '/' ∉ suite.toList → test ≠ virtualPrefix ++ suite ++ "/" ++ base) :
    Names test [test]

theorem names_candidates (test : String) : Names test (candidates test) := by
  rw [candidates]
  split
  · rename_i suite base hsplit
    obtain ⟨hname, hslash⟩ := TestName.splitVirtual_eq_some_iff.mp hsplit
    exact .suite suite base hname hslash
  · rename_i base hsplit
    exact .plain (TestName.splitVirtual_eq_none_iff.mp hsplit).2

/-- Where baselines are looked for: under each name in all search directories and then beside the
tests. The baselines of a test whose files cannot be named are at no place. -/
def places (l : Layout) (names : List String) : List (Except Unnameable String) :=
  names.flatMap fun name ↦ (l.searchPath ++ [l.dir]).map fun dir ↦
    (baselineName name).map (Path.join dir)

/-- What a place says: the text of the file there, if it can be read as one, or that a test cannot
be named. -/
inductive Tells (t : FileTree) : Except Unnameable String → Except Unnameable String → Prop where
  | text {path text : String} (h : t.readText path = .ok text) : Tells t (.ok path) (.ok text)
  | unnameable (e : Unnameable) : Tells t (.error e) (.error e)

/-- What a place says, if anything. -/
def tell? (t : FileTree) : Except Unnameable String → Option (Except Unnameable String)
  | .ok path => (t.readText path).toOption.map .ok
  | .error e => some (.error e)

variable {l : Layout} {t : FileTree} {test : String}

theorem tell?_eq_some_iff (place answer : Except Unnameable String) :
    tell? t place = some answer ↔ Tells t place answer := by
  cases place with
  | ok path =>
    rw [tell?, Option.map_eq_some_iff]
    constructor
    · rintro ⟨text, htext, rfl⟩
      exact .text (Answer.toOption_eq_some_iff.mp htext)
    · rintro ⟨htext⟩
      exact ⟨_, Answer.toOption_eq_some_iff.mpr htext, rfl⟩
  | error e =>
    rw [tell?, Option.some.injEq]
    constructor
    · rintro rfl
      exact .unnameable e
    · rintro ⟨⟩
      rfl

/-! ## What is found -/

/-- What a search found: nothing, a text, or that a test cannot be named. -/
def found : Except Unnameable (Option String × List Log) → Option (Except Unnameable String)
  | .ok (text, _) => text.map .ok
  | .error e => some (.error e)

theorem found_eq_ok_iff {x : Except Unnameable (Option String × List Log)} {text : String} :
    found x = some (.ok text) ↔ ∃ logs, x = .ok (some text, logs) := by
  rcases x with e | ⟨text?, logs⟩
  · simp [found]
  · cases text? <;> simp [found]

theorem found_eq_error_iff {x : Except Unnameable (Option String × List Log)} {e : Unnameable} :
    found x = some (.error e) ↔ x = .error e := by
  rcases x with e | ⟨text?, logs⟩
  · simp [found]
  · cases text? <;> simp [found]

theorem found_eq_none_iff {x : Except Unnameable (Option String × List Log)} :
    found x = none ↔ ∃ logs, x = .ok (none, logs) := by
  rcases x with e | ⟨text?, logs⟩
  · simp [found]
  · cases text? <;> simp [found]

theorem findSome?_tell? (paths : List String) :
    (paths.map Except.ok).findSome? (tell? t) =
      (paths.findSome? fun path ↦ (t.readText path).toOption).map .ok := by
  rw [List.findSome?_map, List.map_findSome?]
  rfl

/-- **What is found is what the first place says** that says anything. -/
theorem found_firstBaseline (names : List String) :
    found (l.firstBaseline t test names) = (l.places names).findSome? (tell? t) := by
  induction names with
  | nil => rfl
  | cons name rest ih =>
    rw [places, List.flatMap_cons, List.findSome?_append, ← places, ← ih, firstBaseline]
    cases hname : baselineName name with
    | error e =>
      -- There is always a directory to search, so the search ends here.
      cases l.searchPath <;> rfl
    | ok file =>
      have hplaces :
          (l.searchPath ++ [l.dir]).map (fun dir ↦ (Except.ok file).map (Path.join dir)) =
            (l.searchDirs.map fun dir ↦ Path.join dir file).map (Except.ok (ε := Unnameable)) := by
        rw [List.map_map]
        rfl
      rw [hplaces, findSome?_tell?, ← firstReadable_eq_findSome? t test]
      dsimp only [bind, Except.bind]
      generalize firstReadable t test (l.searchDirs.map fun dir ↦ Path.join dir file) = first
      obtain ⟨text?, logs⟩ := first
      cases text? with
      | some text => rfl
      | none =>
        rw [Option.map_none, Option.none_or]
        cases l.firstBaseline t test rest with
        | error e => rfl
        | ok found => rfl

/-! ## Which baseline counts -/

/-- The first place that says anything is listened to. -/
theorem found_expectedText_iff {answer : Except Unnameable String} :
    found (l.expectedText t test) = some answer ↔
      FirstOf (Tells t) (l.places (candidates test)) answer := by
  rw [expectedText, found_firstBaseline]
  exact findSome?_eq_some_iff_firstOf tell?_eq_some_iff

/-- Nothing is found if no place says anything. -/
theorem found_expectedText_eq_none_iff :
    found (l.expectedText t test) = none ↔
      ∀ place ∈ l.places (candidates test), ∀ answer, ¬Tells t place answer := by
  rw [expectedText, found_firstBaseline, List.findSome?_eq_none_iff]
  simp only [eq_none_iff_of_eq_some_iff tell?_eq_some_iff]

/-- A new baseline is written where baselines are looked for first. -/
theorem exists_places_eq_cons (l : Layout) (test : String) :
    ∃ rest, l.places (candidates test) =
      (baselineName test).map (Path.join l.versionDir) :: rest := by
  obtain ⟨names, hnames⟩ := exists_candidates_eq_cons test
  rw [hnames, places, List.flatMap_cons, versionDir]
  cases l.searchPath with
  | nil => exact ⟨_, rfl⟩
  | cons dir dirs => exact ⟨_, rfl⟩

/-- A baseline that was written counts, whatever other baselines there are. -/
theorem expectedText_writeFile {name text : String} (hname : baselineName test = .ok name)
    (h : (Artifact.writeFile t (Path.join l.versionDir name) text.toUTF8).2.isOk = true) :
    ∃ logs, l.expectedText
      (Artifact.writeFile t (Path.join l.versionDir name) text.toUTF8).1 test =
        .ok (some text, logs) := by
  obtain ⟨rest, hplaces⟩ := l.exists_places_eq_cons test
  have htext : (Artifact.writeFile t (Path.join l.versionDir name) text.toUTF8).1.readText
      (Path.join l.versionDir name) = .ok text := by
    rw [FileTree.readText, Artifact.read_writeFile h]
    simp only [bind, Except.bind, Extraction.fromUTF8?_toUTF8]
  rw [← found_eq_ok_iff, found_expectedText_iff, hplaces, hname]
  exact ⟨[], _, rest, rfl, .text htext, by simp⟩

/-- **Which baseline counts**, in every tree of files and for every test. It is the text of the
first file that can be read as one, among the places for the name of the test and then, if it is
under a suite, for its name outside. There is none exactly if no place has such a file. Nothing is
answered exactly if a test that cannot be named is reached first, and that is never so if the files
of all these tests can be named. A baseline that is written for a test is the one that counts, also
if a reset writes it. -/
theorem baseline_by_precedence (l : Layout) (t : FileTree) (test : String) :
    Names test (candidates test) ∧
      (∀ text, (∃ logs, l.expectedText t test = .ok (some text, logs)) ↔
        FirstOf (Tells t) (l.places (candidates test)) (.ok text)) ∧
      ((∃ logs, l.expectedText t test = .ok (none, logs)) ↔
        ∀ place ∈ l.places (candidates test), ∀ answer, ¬Tells t place answer) ∧
      (∀ e, l.expectedText t test = .error e ↔
        FirstOf (Tells t) (l.places (candidates test)) (.error e)) ∧
      ((∀ name ∈ candidates test, Nameable name) →
        ∃ found, l.expectedText t test = .ok found) ∧
      (∀ name text, baselineName test = .ok name →
        (Artifact.writeFile t (Path.join l.versionDir name) text.toUTF8).2.isOk = true →
          ∃ logs, l.expectedText
            (Artifact.writeFile t (Path.join l.versionDir name) text.toUTF8).1 test =
              .ok (some text, logs)) ∧
      ∀ (x : Extraction) (w : Extraction.Writing) (name text : String),
        baselineName test = .ok name →
          (Artifact.writeFile w.files (Path.join x.layout.versionDir name) text.toUTF8).2.isOk =
            true →
            ∃ logs, x.layout.expectedText (x.reset test name text w).files test =
              .ok (some text, logs) := by
  refine ⟨names_candidates test, fun text ↦ ?_, ?_, fun e ↦ ?_, fun hnames ↦ ?_,
    fun name text ↦ expectedText_writeFile, fun x w name text hname h ↦ ?_⟩
  · rw [← found_eq_ok_iff, found_expectedText_iff]
  · rw [← found_eq_none_iff, found_expectedText_eq_none_iff]
  · rw [← found_eq_error_iff, found_expectedText_iff]
  · cases hanswer : l.expectedText t test with
    | ok found => exact ⟨found, rfl⟩
    | error e =>
      obtain ⟨hmem, hnot⟩ := l.expectedText_failsWith t test e hanswer
      exact absurd (hnames _ hmem) hnot
  · rw [Extraction.reset_files]
    exact expectedText_writeFile hname h

/-- A baseline beside the tests, which lie above the working directory. -/
def sampleFiles : FileTree where
  here := ["c"]
  entries := [("t", .directory), ("t/a-expected.txt", .file "x".toUTF8)]

/-- A test without a baseline under its own name has that of the test outside of its suite, until
one is written for it, below the root. -/
theorem baseline_by_precedence_sample :
    let l := Layout.ofDir "../t" ["/p"]
    let path := Path.join l.versionDir "virtual/s/a-expected.txt"
    (∀ name ∈ candidates "virtual/s/a.html", Nameable name) ∧
      (∃ logs, l.expectedText sampleFiles "virtual/s/a.html" = .ok (some "x", logs)) ∧
      baselineName "virtual/s/a.html" = .ok "virtual/s/a-expected.txt" ∧
      (Artifact.writeFile sampleFiles path "y".toUTF8).2.isOk = true ∧
      ∃ logs, l.expectedText (Artifact.writeFile sampleFiles path "y".toUTF8).1
        "virtual/s/a.html" = .ok (some "y", logs) := by
  intro l path
  obtain ⟨-, -, -, -, -, hwrite, -⟩ := baseline_by_precedence l sampleFiles "virtual/s/a.html"
  have hname : baselineName "virtual/s/a.html" = .ok "virtual/s/a-expected.txt" := by
    decide +kernel
  have hok : (Artifact.writeFile sampleFiles path "y".toUTF8).2.isOk = true := by decide +kernel
  exact ⟨by decide +kernel, found_eq_ok_iff.mp (by decide +kernel), hname, hok,
    hwrite _ _ hname hok⟩

/-- Not every test has an answer to what its baseline is. -/
theorem exists_unanswered_lookup :
    ¬∀ (l : Layout) (t : FileTree) (test : String), ∃ found, l.expectedText t test = .ok found := by
  intro h
  obtain ⟨found, hfound⟩ := h ⟨"t", []⟩ {} "a.é//"
  have herror : (⟨"t", []⟩ : Layout).expectedText {} "a.é//" = .error ⟨"a.é//"⟩ := by
    decide +kernel
  rw [herror] at hfound
  cases hfound

end WebTestRun.Layout
