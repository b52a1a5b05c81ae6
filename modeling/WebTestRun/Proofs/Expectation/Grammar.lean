import WebTestRun.Proofs.Expectation.Declared

/-!
# The grammar of expectations files

A line of an expectations file is a sequence of words, and a grammar says which sequences declare
something and what: words for bugs, tags between brackets, a test, results between brackets, and
nothing after them. Reading a line finds exactly this. So a file can be read if each of its lines
is silent or declares something, and the first line that does neither is blamed. What the lines
before it declare is kept.

* `IsBug`, `IsTest`, `AreResults`, `Declares` — words and lines.
* `Line.ofWords_eq_ok_iff` — what is read of words is what the grammar says.
* `Says`, `Fits`, `Expectations.HasInForce` — what a line of a file says, and what several declare
  on a platform.
* `Expectations.addText_by_grammar` — what is read of a file.
-/

set_option autoImplicit false

namespace WebTestRun

namespace Expectation

/-! ## The grammar -/

/-- A word for a bug. -/
def IsBug (word : String) : Prop := ∃ p ∈ bugPrefixes, p.toList <+: word.toList

/-- A word for a test, or for all tests that start with a text. -/
inductive IsTest : String → String → Bool → Prop where
  /-- A test has no star. -/
  | single {word : String} (hbracket : ¬ ['['] <+: word.toList) (hstar : '*' ∉ word.toList) :
      IsTest word word false
  /-- The star that stands for the rest of a test comes last. -/
  | glob {text : String} (hbracket : ¬ ['['] <+: (text ++ "*").toList)
      (hstar : '*' ∉ text.toList) : IsTest (text ++ "*") text true

/-- The word for a verdict. -/
def resultWord : Verdict → String
  | .pass => "Pass"
  | .failure => "Failure"
  | .skip => "Skip"
  | .timeout => "Timeout"
  | .crash => "Crash"

/-- The word for a slow test. -/
def slowWord : String := "Slow"

/-- A word that may stand among results. -/
def IsResult (word : String) : Prop := word = slowWord ∨ ∃ v, word = resultWord v

/-- Words for results, and what they declare. -/
structure AreResults (words : List String) (e : Expectation) : Prop where
  /-- There are no other words. -/
  known : ∀ word ∈ words, IsResult word
  /-- The verdicts are those whose words are there. -/
  verdicts : ∀ v, e.verdicts.has v = true ↔ resultWord v ∈ words
  /-- The test is slow if the word for it is there. -/
  slow : e.slow = true ↔ slowWord ∈ words

/-- What words declare. -/
inductive Declares : List String → Line → Prop where
  /-- Without tags, the words for bugs go on as far as they can. -/
  | untagged {bugs results : List String} {word test : String} {glob : Bool} {e : Expectation}
      (hbugs : ∀ bug ∈ bugs, IsBug bug) (hword : ¬ IsBug word) (htest : IsTest word test glob)
      (hresults : AreResults results e) :
      Declares (bugs ++ word :: "[" :: (results ++ ["]"])) ⟨[], test, glob, e⟩
  /-- The tags end at the first closing bracket. -/
  | tagged {bugs tags results : List String} {word test : String} {glob : Bool} {e : Expectation}
      (hbugs : ∀ bug ∈ bugs, IsBug bug) (htags : "]" ∉ tags) (htest : IsTest word test glob)
      (hresults : AreResults results e) :
      Declares (bugs ++ "[" :: (tags ++ "]" :: word :: "[" :: (results ++ ["]"])))
        ⟨tags, test, glob, e⟩

/-- A line of a file says nothing: it is blank, or a comment from its first character on. -/
def Silent (line : List Char) : Prop := content line = [] ∨ ['#'] <+: content line

/-- A line of a file declares something: it is not silent, and its words do. -/
def Says (line : List Char) (l : Line) : Prop :=
  ¬ Silent line ∧ ∃ words, Text.Spaced (content line) words ∧ Declares (words.map String.ofList) l

/-- A line of a file is silent or declares something. -/
def Fits (line : List Char) : Prop := Silent line ∨ ∃ l, Says line l

/-! ## Words -/

theorem isBug_iff {word : String} : isBug word = true ↔ IsBug word := by
  simp only [isBug, List.any_eq_true, Text.hasPrefix, List.isPrefixOf_iff_prefix, IsBug]

/-- The words for bugs in front of others are those up to the first other word. -/
theorem dropWhile_isBug_eq {bugs rest : List String} (hbugs : ∀ bug ∈ bugs, IsBug bug)
    (hrest : ∀ word ∈ rest.head?, ¬ IsBug word) : (bugs ++ rest).dropWhile isBug = rest := by
  rw [List.dropWhile_append_of_pos fun bug hbug ↦ isBug_iff.mpr (hbugs bug hbug)]
  cases rest with
  | nil => rfl
  | cons word rest =>
    exact List.dropWhile_cons_of_neg fun hword ↦ hrest word rfl (isBug_iff.mp hword)

/-- All words are words for bugs and others after them. -/
theorem exists_bugs (words : List String) :
    ∃ bugs, words = bugs ++ words.dropWhile isBug ∧ (∀ bug ∈ bugs, IsBug bug) ∧
      ∀ word ∈ (words.dropWhile isBug).head?, ¬ IsBug word := by
  refine ⟨words.takeWhile isBug, List.takeWhile_append_dropWhile.symm,
    fun bug hbug ↦ isBug_iff.mp (List.mem_takeWhile_imp hbug), fun word hword ↦ ?_⟩
  rw [← isBug_iff, Bool.not_eq_true]
  have hnot := List.head?_dropWhile_not isBug words
  rw [Option.mem_def.mp hword] at hnot
  exact hnot

/-- A list ends at the first closing bracket. -/
theorem bracketed?_eq_some_iff {words inside after : List String} :
    bracketed? words = some (inside, after) ↔
      words = inside ++ "]" :: after ∧ "]" ∉ inside := by
  have hopen {ws : List String} : (∀ w ∈ ws, decide (w ≠ "]") = true) ↔ "]" ∉ ws := by
    simp only [decide_eq_true_eq]
    exact ⟨fun h hmem ↦ h _ hmem rfl, fun h w hw heq ↦ h (heq ▸ hw)⟩
  constructor
  · intro h
    have hwords := List.takeWhile_append_dropWhile (p := fun w ↦ decide (w ≠ "]")) (l := words)
    rw [bracketed?] at h
    split at h
    · cases h
    · rename_i close rest hdrop
      obtain ⟨rfl, rfl⟩ := Prod.mk.inj (Option.some.inj h)
      have hclose := List.head?_dropWhile_not (fun w ↦ decide (w ≠ "]")) words
      rw [hdrop] at hclose
      obtain rfl : close = "]" := by simpa using hclose
      rw [hdrop] at hwords
      exact ⟨hwords.symm, hopen.mp fun w hw ↦
        List.mem_takeWhile_imp (p := fun w ↦ decide (w ≠ "]")) hw⟩
  · rintro ⟨rfl, hinside⟩
    rw [bracketed?, List.dropWhile_append_of_pos (hopen.mpr hinside),
      List.takeWhile_append_of_pos (hopen.mpr hinside), List.dropWhile_cons_of_neg (by simp),
      List.takeWhile_cons_of_neg (by simp), List.append_nil]

/-! ### Tags -/

theorem readTags_of_ne {words : List String} (h : words.head? ≠ some "[") :
    readTags words = .ok ([], words) := by
  rw [readTags]
  rintro rest rfl
  exact h rfl

theorem readTags_eq_ok_iff {words tags rest : List String} :
    readTags words = .ok (tags, rest) ↔
      (words = "[" :: (tags ++ "]" :: rest) ∧ "]" ∉ tags) ∨
        (words.head? ≠ some "[" ∧ tags = [] ∧ words = rest) := by
  by_cases hopen : words.head? = some "["
  · obtain ⟨inner, rfl⟩ := List.head?_eq_some_iff.mp hopen
    have hread : readTags ("[" :: inner) = .ok (tags, rest) ↔
        bracketed? inner = some (tags, rest) := by
      rw [readTags]
      cases bracketed? inner <;> simp
    rw [hread, bracketed?_eq_some_iff, List.cons.injEq]
    simp
  · have hne : words ≠ "[" :: (tags ++ "]" :: rest) := by
      rintro rfl
      exact hopen rfl
    rw [readTags_of_ne hopen, Except.ok.injEq, Prod.mk.injEq, eq_comm (a := [])]
    exact ⟨fun h ↦ .inr ⟨hopen, h⟩, fun h ↦ h.elim (fun h ↦ absurd h.1 hne) (·.2)⟩

/-! ### Tests -/

theorem readTest_eq_ok_iff {word test : String} {glob : Bool} :
    readTest word = .ok (test, glob) ↔ IsTest word test glob := by
  have hbracket : Text.hasPrefix "[" word = true ↔ ['['] <+: word.toList :=
    List.isPrefixOf_iff_prefix
  constructor
  · intro h
    rw [readTest] at h
    split at h
    · cases h
    · rename_i hopen
      rw [hbracket] at hopen
      split at h
      · rename_i hcut
        obtain ⟨rfl, rfl⟩ := Prod.mk.inj (Except.ok.inj h)
        exact .single hopen (Text.cutOnce_singleton_eq_none_iff.mp hcut)
      · rename_i before after hcut
        obtain ⟨hword, hstar⟩ := Text.cutOnce_singleton_eq_some_iff.mp hcut
        split at h
        · rename_i hafter
          obtain ⟨rfl, rfl⟩ := Prod.mk.inj (Except.ok.inj h)
          obtain rfl := List.isEmpty_iff.mp hafter
          obtain rfl : word = String.ofList before ++ "*" := by
            rw [← String.toList_inj, hword, String.toList_append, String.toList_ofList]
            rfl
          exact .glob hopen (by rwa [String.toList_ofList])
        · cases h
  · intro h
    cases h with
    | single hopen hstar =>
      rw [readTest, if_neg (mt hbracket.mp hopen), Text.cutOnce_singleton_eq_none_iff.mpr hstar]
    | glob hopen hstar =>
      have hcut : Text.cutOnce ['*'] (test ++ "*").toList = some (test.toList, []) :=
        Text.cutOnce_singleton_eq_some_iff.mpr ⟨String.toList_append, hstar⟩
      rw [readTest, if_neg (mt hbracket.mp hopen), hcut]
      simp

/-! ### Results -/

theorem resultWord_injective {v w : Verdict} (h : resultWord v = resultWord w) : v = w := by
  revert h
  cases v <;> cases w <;> decide

theorem resultWord_ne_slowWord (v : Verdict) : resultWord v ≠ slowWord := by
  cases v <;> decide

theorem not_isResult_bracket : ¬ IsResult "]" := by
  rintro (h | ⟨v, h⟩)
  · exact absurd h (by decide)
  · revert h
    cases v <;> decide

/-- A known result adds what it stands for. -/
theorem exists_addResult (e : Expectation) {word : String} (h : IsResult word) :
    ∃ e', addResult e word = .ok e' ∧
      (∀ v, e'.verdicts.has v = true ↔ e.verdicts.has v = true ∨ resultWord v = word) ∧
      (e'.slow = true ↔ e.slow = true ∨ slowWord = word) := by
  rcases h with rfl | ⟨w, rfl⟩
  · refine ⟨{ e with slow := true }, rfl, fun v ↦ ?_, by simp⟩
    simp [resultWord_ne_slowWord]
  · refine ⟨{ e with verdicts := e.verdicts.insert w }, by cases w <;> rfl, fun v ↦ ?_, ?_⟩
    · rw [Choice.has_insert, or_comm]
      exact or_congr_right ⟨congrArg resultWord, resultWord_injective⟩
    · simp [(resultWord_ne_slowWord w).symm]

theorem addResult_error {e : Expectation} {word : String} (h : ¬ IsResult word) :
    addResult e word = .error (.unknownResult word) := by
  have hslow : word ≠ "Slow" := fun hword ↦ h (.inl hword)
  have hresult (v : Verdict) : word ≠ resultWord v := fun hword ↦ h (.inr ⟨v, hword⟩)
  rw [addResult]
  · exact hslow
  · exact hresult .pass
  · exact hresult .failure
  · exact hresult .crash
  · exact hresult .timeout
  · exact hresult .skip

/-- Results are added to an expectation if all are known. -/
theorem foldlM_addResult_eq_ok_iff {words : List String} {e e' : Expectation} :
    words.foldlM addResult e = .ok e' ↔ (∀ word ∈ words, IsResult word) ∧
      (∀ v, e'.verdicts.has v = true ↔ e.verdicts.has v = true ∨ resultWord v ∈ words) ∧
      (e'.slow = true ↔ e.slow = true ∨ slowWord ∈ words) := by
  induction words generalizing e with
  | nil =>
    have hsame : e = e' ↔ (∀ v, e'.verdicts.has v = true ↔ e.verdicts.has v = true) ∧
        (e'.slow = true ↔ e.slow = true) := by
      constructor
      · rintro rfl
        exact ⟨fun _ ↦ Iff.rfl, Iff.rfl⟩
      · rintro ⟨hverdicts, hslow⟩
        obtain ⟨⟨has⟩, slow⟩ := e
        obtain ⟨⟨has'⟩, slow'⟩ := e'
        obtain rfl : has = has' := funext fun v ↦ Bool.eq_iff_iff.mpr (hverdicts v).symm
        obtain rfl : slow = slow' := Bool.eq_iff_iff.mpr hslow.symm
        rfl
    simpa [pure, Except.pure] using hsame
  | cons word words ih =>
    rw [List.foldlM_cons, List.forall_mem_cons]
    by_cases hknown : IsResult word
    · obtain ⟨next, hnext, hverdicts, hslow⟩ := exists_addResult e hknown
      rw [hnext]
      show words.foldlM addResult next = .ok e' ↔ _
      rw [ih]
      simp only [hverdicts, hslow, List.mem_cons, or_assoc, hknown, true_and]
    · rw [addResult_error hknown]
      refine iff_of_false (fun h ↦ ?_) fun h ↦ hknown h.1.1
      cases h

/-- **What is read of results is what the grammar says.** -/
theorem foldlM_addResult_none_eq_ok_iff {words : List String} {e : Expectation} :
    words.foldlM addResult none = .ok e ↔ AreResults words e := by
  rw [foldlM_addResult_eq_ok_iff]
  have hempty (v : Verdict) : (none.verdicts.has v = true) = False := eq_false Bool.false_ne_true
  have hquick : (none.slow = true) = False := eq_false Bool.false_ne_true
  simp only [hempty, hquick, false_or]
  exact ⟨fun h ↦ ⟨h.1, h.2.1, h.2.2⟩, fun h ↦ ⟨h.known, h.verdicts, h.slow⟩⟩

theorem AreResults.bracket {words : List String} {e : Expectation} (h : AreResults words e) :
    "]" ∉ words := fun hmem ↦ not_isResult_bracket (h.known _ hmem)

theorem readResults_eq_ok_iff {test : String} {words : List String} {e : Expectation} :
    readResults test words = .ok e ↔
      ∃ results, words = "[" :: (results ++ ["]"]) ∧ AreResults results e := by
  constructor
  · intro h
    rw [readResults.eq_def] at h
    split at h
    · split at h
      · cases h
      · rename_i rest _ results after hresults
        obtain ⟨rfl, -⟩ := bracketed?_eq_some_iff.mp hresults
        obtain ⟨e', he', h⟩ := Answer.bind_eq_ok_iff.mp h
        cases after with
        | nil =>
          obtain rfl := Except.ok.inj h
          exact ⟨results, rfl, foldlM_addResult_none_eq_ok_iff.mp he'⟩
        | cons extra after => cases h
    · cases h
  · rintro ⟨results, rfl, hresults⟩
    rw [readResults, bracketed?_eq_some_iff.mpr ⟨rfl, hresults.bracket⟩]
    exact Answer.bind_eq_ok_iff.mpr ⟨e, foldlM_addResult_none_eq_ok_iff.mpr hresults, rfl⟩

/-! ## Lines -/

theorem not_isBug_bracket : ¬ IsBug "[" := by
  rw [← isBug_iff]
  decide

theorem IsTest.ne_bracket {word test : String} {glob : Bool} (h : IsTest word test glob) :
    word ≠ "[" := by
  have hopen : ¬ ['['] <+: word.toList := by
    cases h with
    | single hbracket => exact hbracket
    | glob hbracket => exact hbracket
  rintro rfl
  exact hopen (List.prefix_refl _)

/-- **What is read of words is what the grammar says.** -/
theorem Line.ofWords_eq_ok_iff {words : List String} {l : Line} :
    Line.ofWords words = .ok l ↔ Declares words l := by
  constructor
  · intro h
    obtain ⟨bugs, hwords, hbugs, hnext⟩ := exists_bugs words
    obtain ⟨⟨tags, tested⟩, htags, h⟩ := Answer.bind_eq_ok_iff.mp h
    cases tested with
    | nil => cases h
    | cons word rest =>
      obtain ⟨⟨test, glob⟩, htest, h⟩ := Answer.bind_eq_ok_iff.mp h
      obtain ⟨e, hread, h⟩ := Answer.bind_eq_ok_iff.mp h
      obtain rfl := Except.ok.inj h
      rw [readTest_eq_ok_iff] at htest
      obtain ⟨results, rfl, hresults⟩ := readResults_eq_ok_iff.mp hread
      rcases readTags_eq_ok_iff.mp htags with ⟨hafter, hopen⟩ | ⟨-, rfl, hafter⟩
      · rw [hwords, hafter]
        exact .tagged hbugs hopen htest hresults
      · rw [hafter] at hnext
        rw [hwords, hafter]
        exact .untagged hbugs (hnext word rfl) htest hresults
  · intro h
    rw [ofWords]
    cases h with
    | untagged hbugs hword htest hresults =>
      have htags := IsTest.ne_bracket htest
      rw [dropWhile_isBug_eq hbugs (by simpa using hword), readTags_of_ne (by simpa using htags)]
      simp only [bind, Except.bind, readTest_eq_ok_iff.mpr htest,
        readResults_eq_ok_iff.mpr ⟨_, rfl, hresults⟩]
      rfl
    | tagged hbugs htags htest hresults =>
      rw [dropWhile_isBug_eq hbugs (by simpa using not_isBug_bracket),
        readTags_eq_ok_iff.mpr (.inl ⟨rfl, htags⟩)]
      simp only [bind, Except.bind, readTest_eq_ok_iff.mpr htest,
        readResults_eq_ok_iff.mpr ⟨_, rfl, hresults⟩]
      rfl

/-- What is read of the content of a line is what the grammar says of its words. -/
theorem Line.read_eq_ok_iff {content : List Char} {l : Line} :
    Line.read content = .ok l ↔
      ∃ words, Text.Spaced content words ∧ Declares (words.map String.ofList) l := by
  rw [Line.read, Line.ofWords_eq_ok_iff]
  constructor
  · intro h
    exact ⟨Text.words content, Text.words_eq_iff.mp rfl, h⟩
  · rintro ⟨words, hwords, h⟩
    rwa [hwords.words_eq]

theorem saysNothing_iff {line : List Char} : saysNothing (content line) = true ↔ Silent line := by
  rw [saysNothing, Silent]
  cases content line with
  | nil => simp
  | cons c rest => simp [List.cons_prefix_cons, eq_comm (a := '#')]

theorem says_iff {line : List Char} {l : Line} :
    Says line l ↔ saysNothing (content line) = false ∧ Line.read (content line) = .ok l := by
  rw [Says, ← saysNothing_iff, Bool.not_eq_true, Line.read_eq_ok_iff]

/-- A line of a file declares one thing. -/
theorem Says.eq {line : List Char} {l l' : Line} (h : Says line l) (h' : Says line l') :
    l = l' := by
  have hread := (says_iff.mp h).2.symm.trans (says_iff.mp h').2
  exact Except.ok.inj hread

end Expectation

/-! ## Files -/

namespace Expectations

open Expectation hiding none

/-- What lines of a file declare where the given tags apply. -/
inductive HasInForce (platform : List String) : List (List Char) → List Line → Prop where
  | nil : HasInForce platform [] []
  | silent {line : List Char} {rest : List (List Char)} {ls : List Line} (h : Silent line)
      (hrest : HasInForce platform rest ls) : HasInForce platform (line :: rest) ls
  /-- All tags of the line apply. -/
  | inForce {line : List Char} {rest : List (List Char)} {l : Line} {ls : List Line}
      (h : Says line l) (happlies : l.appliesTo platform = true)
      (hrest : HasInForce platform rest ls) : HasInForce platform (line :: rest) (l :: ls)
  /-- The line is for another platform. -/
  | elsewhere {line : List Char} {rest : List (List Char)} {l : Line} {ls : List Line}
      (h : Says line l) (happlies : l.appliesTo platform = false)
      (hrest : HasInForce platform rest ls) : HasInForce platform (line :: rest) ls

variable {platform : List String} {t : Expectations} {line : List Char} {ls : List Line}

/-! ### One line -/

theorem readLine_of_silent (platform : List String) (t : Expectations) (h : Silent line) :
    readLine platform t (content line) = .ok t := by
  rw [readLine, if_pos (saysNothing_iff.mpr h)]

theorem readLine_of_says (platform : List String) (t : Expectations) {l : Line} (h : Says line l) :
    readLine platform t (content line) =
      .ok (if l.appliesTo platform then t.addLine l else t) := by
  obtain ⟨hloud, hread⟩ := says_iff.mp h
  rw [readLine, if_neg (by simp [hloud]), hread, Except.map]

/-- A line that does not fit is wrong on any platform. -/
theorem exists_readLine_error (platform : List String) (t : Expectations) (h : ¬ Fits line) :
    ∃ fault, readLine platform t (content line) = .error fault := by
  have hsilent : ¬ Silent line := fun hsilent ↦ h (.inl hsilent)
  rw [← saysNothing_iff, Bool.not_eq_true] at hsilent
  rw [readLine, if_neg (by simp [hsilent])]
  cases hread : Line.read (content line) with
  | error fault => exact ⟨fault, rfl⟩
  | ok l => exact absurd (.inr ⟨l, says_iff.mpr ⟨hsilent, hread⟩⟩) h

/-! ### All lines -/

/-- Lines with their numbers, the first of which follows `k`. -/
def numbered (k : Nat) (lines : List (List Char)) : List (Nat × List Char) :=
  (lines.zipIdx k).map fun p ↦ (p.2 + 1, p.1)

theorem numbered_cons (k : Nat) (line : List Char) (lines : List (List Char)) :
    numbered k (line :: lines) = (k + 1, line) :: numbered (k + 1) lines := rfl

/-- **Lines that declare something are added**, and reading goes on after them. -/
theorem addLines_append {lines : List (List Char)} (h : HasInForce platform lines ls)
    (t : Expectations) (k : Nat) (more : List (List Char)) :
    t.addLines platform (numbered k (lines ++ more)) =
      (ls.foldl addLine t).addLines platform (numbered (k + lines.length) more) := by
  induction h generalizing t k with
  | nil => rfl
  | silent h hrest ih =>
    rw [List.cons_append, numbered_cons, addLines, readLine_of_silent platform t h]
    simp only [ih, List.length_cons, ← Nat.add_assoc k, Nat.add_right_comm k 1]
  | inForce h happlies hrest ih =>
    rw [List.cons_append, numbered_cons, addLines, readLine_of_says platform t h]
    simp only [ih, happlies, if_true, List.foldl_cons, List.length_cons, ← Nat.add_assoc k,
      Nat.add_right_comm k 1]
  | elsewhere h happlies hrest ih =>
    rw [List.cons_append, numbered_cons, addLines, readLine_of_says platform t h]
    simp only [ih, happlies, Bool.false_eq_true, if_false, List.length_cons, ← Nat.add_assoc k,
      Nat.add_right_comm k 1]

/-- Lines all fit, or there is a first one that does not. -/
theorem exists_hasInForce (platform : List String) (lines : List (List Char)) :
    (∃ ls, HasInForce platform lines ls) ∨
      ∃ before line after ls, lines = before ++ line :: after ∧
        HasInForce platform before ls ∧ ¬ Fits line := by
  induction lines with
  | nil => exact .inl ⟨[], .nil⟩
  | cons line rest ih =>
    by_cases hline : Fits line
    · -- A line that fits can stand in front of any lines.
      have hfront {before : List (List Char)} {ls : List Line}
          (h : HasInForce platform before ls) :
          ∃ ls', HasInForce platform (line :: before) ls' := by
        rcases hline with hsilent | ⟨l, hl⟩
        · exact ⟨ls, .silent hsilent h⟩
        · by_cases happlies : l.appliesTo platform = true
          · exact ⟨l :: ls, .inForce hl happlies h⟩
          · exact ⟨ls, .elsewhere hl (Bool.not_eq_true _ ▸ happlies) h⟩
      rcases ih with ⟨ls, h⟩ | ⟨before, wrong, after, ls, rfl, h, hwrong⟩
      · exact .inl (hfront h)
      · obtain ⟨ls', h'⟩ := hfront h
        exact .inr ⟨line :: before, wrong, after, ls', rfl, h', hwrong⟩
    · exact .inr ⟨[], line, rest, [], rfl, .nil, hline⟩

/-- Lines that declare something fit. -/
theorem HasInForce.fits {lines : List (List Char)} (h : HasInForce platform lines ls) :
    ∀ line ∈ lines, Fits line := by
  induction h with
  | nil => simp
  | silent h hrest ih => exact List.forall_mem_cons.mpr ⟨.inl h, ih⟩
  | inForce h happlies hrest ih => exact List.forall_mem_cons.mpr ⟨.inr ⟨_, h⟩, ih⟩
  | elsewhere h happlies hrest ih => exact List.forall_mem_cons.mpr ⟨.inr ⟨_, h⟩, ih⟩

/-- A file whose lines declare something can be read. -/
theorem addText_of_hasInForce {text : String} (t : Expectations)
    (h : HasInForce platform (Text.lines text.toList) ls) :
    t.addText platform text = (ls.foldl addLine t, .ok ()) := by
  have happend := addLines_append h t 0 []
  rw [List.append_nil] at happend
  exact happend

/-- In a file with lines that declare something and one after them that does not fit, this one is
blamed. -/
theorem exists_addText_error {text : String} (t : Expectations)
    {before after : List (List Char)} (hlines : Text.lines text.toList = before ++ line :: after)
    (hbefore : HasInForce platform before ls) (hline : ¬ Fits line) :
    ∃ fault, t.addText platform text =
      (ls.foldl addLine t, .error ⟨before.length + 1, fault⟩) := by
  obtain ⟨fault, hfault⟩ := exists_readLine_error platform (ls.foldl addLine t) hline
  have happend := addLines_append hbefore t 0 (line :: after)
  rw [← hlines, numbered_cons, addLines, hfault, Nat.zero_add] at happend
  exact ⟨fault, happend⟩

/-- **A file is read by its grammar**, by which no line declares two things. It can be read exactly
if each of its lines is silent or declares something, and then what the lines in force declare is
added to the table. Otherwise the first line that does neither is blamed by its number, and what the
lines in force before it declare is added. -/
theorem addText_by_grammar (platform : List String) (t : Expectations) (text : String) :
    (∀ line l l', Says line l → Says line l' → l = l') ∧
    ((t.addText platform text).2 = .ok () ↔ ∀ line ∈ Text.lines text.toList, Fits line) ∧
    (∀ table, t.addText platform text = (table, .ok ()) ↔
      ∃ ls, HasInForce platform (Text.lines text.toList) ls ∧ table = ls.foldl addLine t) ∧
    ∀ table number, (∃ fault, t.addText platform text = (table, .error ⟨number, fault⟩)) ↔
      ∃ before line after ls, Text.lines text.toList = before ++ line :: after ∧
        number = before.length + 1 ∧ HasInForce platform before ls ∧ ¬ Fits line ∧
        table = ls.foldl addLine t := by
  refine ⟨fun line l l' ↦ Says.eq, ?_⟩
  rcases exists_hasInForce platform (Text.lines text.toList) with
    ⟨ls, h⟩ | ⟨before, line, after, ls, hlines, h, hline⟩
  · have hread := addText_of_hasInForce t h
    refine ⟨iff_of_true (by rw [hread]) h.fits, fun table ↦ ⟨fun htable ↦ ⟨ls, h, ?_⟩, ?_⟩,
      fun table number ↦ iff_of_false ?_ ?_⟩
    · rw [hread] at htable
      exact (Prod.mk.inj htable).1.symm
    · rintro ⟨ls', h', rfl⟩
      exact addText_of_hasInForce t h'
    · rintro ⟨fault, hfault⟩
      rw [hread] at hfault
      cases hfault
    · rintro ⟨before, line, after, ls', hlines, -, -, hline, -⟩
      exact hline (h.fits line (by rw [hlines]; simp))
  · obtain ⟨fault, hfault⟩ := exists_addText_error t hlines h hline
    have hwrong : ¬ ∀ line ∈ Text.lines text.toList, Fits line := fun hall ↦
      hline (hall line (by rw [hlines]; simp))
    refine ⟨iff_of_false (by rw [hfault]; nofun) hwrong, fun table ↦ iff_of_false ?_ ?_,
      fun table number ↦ ⟨?_, ?_⟩⟩
    · intro hread
      rw [hfault] at hread
      cases hread
    · rintro ⟨ls', h', -⟩
      exact hwrong h'.fits
    · rintro ⟨fault', hfault'⟩
      rw [hfault] at hfault'
      cases hfault'
      exact ⟨before, line, after, ls, hlines, rfl, h, hline, rfl⟩
    · rintro ⟨before', line', after', ls', hlines', rfl, h', hline', rfl⟩
      exact exists_addText_error t hlines' h' hline'

/-- Lines that fit: a comment, a line for another platform, and one that is in force. -/
def fitting : String :=
  "# tags\ncrbug.com/1 [ Mac ] a [ Crash ]\r\nBug(b) [ LINUX ] b/* [ Slow Pass ]  # [\n"

theorem addText_by_grammar_sample :
    let held : Expectations := ⟨[], [("b/", ⟨.ofList [.pass], true⟩)]⟩
    (∃ ls, HasInForce ["linux"] (Text.lines fitting.toList) ls ∧ held = ls.foldl addLine {}) ∧
      ∃ before line after ls, Text.lines (fitting ++ "c [ Flaky ]\nd [ Pass ]").toList =
          before ++ line :: after ∧
        before.length = 3 ∧ HasInForce ["linux"] before ls ∧ ¬ Fits line ∧
        held = ls.foldl addLine {} := by
  intro held
  obtain ⟨-, -, hread, -⟩ := addText_by_grammar ["linux"] {} fitting
  obtain ⟨-, -, -, hblamed⟩ :=
    addText_by_grammar ["linux"] {} (fitting ++ "c [ Flaky ]\nd [ Pass ]")
  obtain ⟨before, line, after, ls, hlines, hnumber, hbefore, hline, htable⟩ :=
    (hblamed held 4).mp ⟨.unknownResult "Flaky", by rfl⟩
  exact ⟨(hread held).mp (by rfl), before, line, after, ls, hlines, by omega, hbefore, hline,
    htable⟩

end Expectations

end WebTestRun
