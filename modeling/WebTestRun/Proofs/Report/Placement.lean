import WebTestRun.Proofs.Report.Trie
import WebTestRun.Report.Summary

/-!
# Which tests a report shows

Tests are put into the trie of a report in the order in which they first ended. One whose name
meets that of a test in the trie is left out, and leaves nothing behind that could be in the way of
others.

* `History.Sound` — every history has distinct names and no test without attempts.
* `Report.Shows` — what the trie shows after some tests.
* `shows_addTests` — it does so after all of them.
* `trie_of_history` — which tests have a leaf, and what it says.
-/

set_option autoImplicit false

namespace WebTestRun

namespace History

/-- No test is there twice, and none without attempts. -/
structure Sound (h : History) : Prop where
  /-- The names are distinct. -/
  nodup : (Keyed.keys h.tests).Nodup
  /-- Every test has attempts. -/
  attempts : ∀ t ∈ h.tests, t.2 ≠ []

theorem Sound.attempts_of_mem {h : History} (hsound : h.Sound) {t : String × List Attempt}
    (ht : t ∈ h.tests) : h.attempts t.1 = t.2 := by
  rw [History.attempts, Keyed.find?_eq_some_of_mem hsound.nodup ht, Option.getD_some]

theorem sound_empty : Sound {} := ⟨.nil, nofun⟩

theorem Sound.push {h : History} (hsound : h.Sound) (a : Attempt) : (h.push a).Sound where
  nodup := Keyed.nodup_keys_put _ hsound.nodup
  attempts t ht := by
    have hfind := Keyed.find?_eq_some_of_mem (Keyed.nodup_keys_put _ hsound.nodup) ht
    rw [Keyed.find?_put] at hfind
    split at hfind
    · rw [← Option.some.inj hfind]
      simp
    · exact hsound.attempts _ (Keyed.mem_of_find? hfind)

theorem Sound.of_tests_eq {h h' : History} (hsound : h.Sound) (htests : h'.tests = h.tests) :
    h'.Sound :=
  ⟨htests ▸ hsound.nodup, htests ▸ hsound.attempts⟩

end History

namespace Report

open Trie (Meets getAt?)

variable {h : History} {shard : Option Nat} {t : Trie} {done : List (String × List Attempt)}

theorem exists_leaf? (h : History) (shard : Option Nat) (test : String) {attempts : List Attempt}
    (hattempts : attempts ≠ []) : ∃ leaf, leaf? h shard test attempts = some leaf := by
  obtain ⟨first, rest, rfl⟩ := List.exists_cons_of_ne_nil hattempts
  rw [leaf?, List.head?_cons, List.getLast?_cons]
  exact ⟨_, rfl⟩

/-- What a trie shows of the tests that were put into it. -/
structure Shows (h : History) (shard : Option Nat) (done : List (String × List Attempt))
    (t : Trie) : Prop where
  /-- There are no empty directories. -/
  tight : Trie.Children.Tight t.children
  /-- Every leaf is that of a test. -/
  leaf : ∀ path l, getAt? path t.children = some l →
    ∃ d ∈ done, path = Path.segments d.1 ∧ leaf? h shard d.1 d.2 = some l
  /-- A test has a leaf unless it meets an earlier one that has. -/
  placed : ∀ before d after, done = before ++ d :: after →
    ((t.get? d.1).isSome ↔ ∀ earlier ∈ Keyed.keys before, (t.get? earlier).isSome →
      ¬ Meets (Path.segments earlier) (Path.segments d.1))

theorem shows_nil (h : History) (shard : Option Nat) : Shows h shard [] {} where
  tight := .nil
  leaf path l hl := by
    cases path with
    | nil => cases hl
    | cons k path =>
      rw [Trie.getAt?_cons] at hl
      cases hl
  placed before d after hsplit := by simp at hsplit

/-- A leaf that is there is the leaf of an earlier test. -/
theorem Shows.mem_keys (hshows : Shows h shard done t) {test : String}
    (htest : (t.get? test).isSome) : test ∈ Keyed.keys done := by
  obtain ⟨l, hl⟩ := Option.isSome_iff_exists.mp htest
  obtain ⟨d, hd, hpath, -⟩ := hshows.leaf _ l hl
  rw [Path.segments_injective hpath]
  exact List.mem_map.mpr ⟨d, hd, rfl⟩

/-- The splits of a list with one more at its end. -/
theorem concat_eq_iff {α : Type} {done before after : List α} {d e : α} :
    done ++ [d] = before ++ e :: after ↔
      (before = done ∧ e = d ∧ after = []) ∨
        ∃ rest, after = rest ++ [d] ∧ done = before ++ e :: rest := by
  constructor
  · intro heq
    rcases List.eq_nil_or_concat after with rfl | ⟨rest, last, rfl⟩
    · obtain ⟨rfl, hd⟩ := List.append_inj' heq rfl
      exact .inl ⟨rfl, (List.cons.inj hd).1.symm, rfl⟩
    · rw [List.concat_eq_append, ← List.cons_append, ← List.append_assoc] at heq
      obtain ⟨hdone, hd⟩ := List.append_inj' heq rfl
      rw [List.concat_eq_append, (List.cons.inj hd).1]
      exact .inr ⟨rest, rfl, hdone⟩
  · rintro (⟨rfl, rfl, rfl⟩ | ⟨rest, rfl, rfl⟩)
    · rfl
    · simp

/-- What is shown once a test more was put, if it has a leaf exactly unless it meets an earlier one
that has, and nothing else changes. -/
theorem Shows.concat (hshows : Shows h shard done t) {d : String × List Attempt} {t' : Trie}
    (hnew : d.1 ∉ Keyed.keys done) (htight : Trie.Children.Tight t'.children)
    (hsame : ∀ path, path ≠ Path.segments d.1 →
      getAt? path t'.children = getAt? path t.children)
    (hleaf : ∀ l, t'.get? d.1 = some l → leaf? h shard d.1 d.2 = some l)
    (hplaced : (t'.get? d.1).isSome ↔ ∀ path l, getAt? path t.children = some l →
      ¬ Meets path (Path.segments d.1)) : Shows h shard (done ++ [d]) t' where
  tight := htight
  leaf path l hl := by
    by_cases hpath : path = Path.segments d.1
    · rw [hpath] at hl
      exact ⟨d, by simp, hpath, hleaf l hl⟩
    · rw [hsame path hpath] at hl
      obtain ⟨d', hd', hrest⟩ := hshows.leaf path l hl
      exact ⟨d', List.mem_append_left _ hd', hrest⟩
  placed before e after hsplit := by
    have hearlier {n : String} (hn : n ∈ Keyed.keys done) : t'.get? n = t.get? n :=
      hsame _ fun heq ↦ hnew (Path.segments_injective heq ▸ hn)
    rcases concat_eq_iff.mp hsplit with ⟨rfl, rfl, -⟩ | ⟨rest, -, hdone⟩
    · -- The new test: the leaves that it may meet are those of all earlier tests.
      rw [hplaced]
      constructor
      · intro hmeets earlier hmem hsome
        rw [hearlier hmem] at hsome
        obtain ⟨l, hl⟩ := Option.isSome_iff_exists.mp hsome
        exact hmeets _ l hl
      · intro hmeets path l hl
        obtain ⟨d', hd', rfl, -⟩ := hshows.leaf path l hl
        have hmem : d'.1 ∈ Keyed.keys before := List.mem_map.mpr ⟨d', hd', rfl⟩
        refine hmeets d'.1 hmem ?_
        rw [hearlier hmem, Trie.get?, hl]
        rfl
    · have hmem : e.1 ∈ Keyed.keys done := by simp [Keyed.keys, hdone]
      have hbefore : ∀ n ∈ Keyed.keys before, n ∈ Keyed.keys done := by
        intro n hn
        rw [hdone, Keyed.keys, List.map_append]
        exact List.mem_append_left _ hn
      rw [hearlier hmem, hshows.placed before e rest hdone]
      refine forall₂_congr fun n hn ↦ ?_
      rw [hearlier (hbefore n hn)]

/-- **One test more** is shown unless it meets one that is, and nothing is left of it then. -/
theorem shows_addTest (hshows : Shows h shard done t) {d : String × List Attempt}
    (hnew : d.1 ∉ Keyed.keys done) (hattempts : d.2 ≠ []) :
    Shows h shard (done ++ [d]) (addTest h shard t d.1 d.2).1 := by
  obtain ⟨leaf, hleaf⟩ := exists_leaf? h shard d.1 hattempts
  have hspec := Trie.insertAt_spec (l := leaf) (Path.segments_ne_nil d.1) hshows.tight
  rw [addTest, hleaf]
  dsimp only
  rw [Trie.insert]
  cases hinsert : Trie.insertAt leaf (Path.segments d.1) t.children with
  | ok children =>
    rw [hinsert] at hspec
    have hget (path : List String) := hspec.getAt? path
    have hthere : Trie.getAt? (Path.segments d.1) children = some leaf :=
      (hget _).trans (if_pos rfl)
    refine hshows.concat hnew hspec.tight (fun path hpath ↦ (hget path).trans (if_neg hpath))
      (fun l hl ↦ hleaf.trans (hthere.symm.trans hl))
      (iff_of_true (Option.isSome_iff_exists.mpr ⟨leaf, hthere⟩) fun path l hl hmeets ↦ ?_)
    -- Of two leaves in one trie neither lies below the other.
    have hl : Trie.getAt? path children = some l := by rw [hget, if_neg hmeets.1, hl]
    exact Trie.not_meets_of_getAt? hl hthere hmeets
  | error e =>
    rw [hinsert] at hspec
    obtain ⟨path, l, hl, hmeets⟩ := hspec
    have hnone : ¬ (t.get? d.1).isSome := fun hsome ↦ hnew (hshows.mem_keys hsome)
    exact hshows.concat hnew hshows.tight (fun _ _ ↦ rfl)
      (fun l hl ↦ absurd (Option.isSome_iff_exists.mpr ⟨l, hl⟩) hnone)
      (iff_of_false hnone fun hmeets' ↦ hmeets' path l hl hmeets)

/-- **All tests, one after the other.** -/
theorem shows_addTests (hshows : Shows h shard done t) {more : List (String × List Attempt)}
    (hnodup : (Keyed.keys (done ++ more)).Nodup) (hattempts : ∀ d ∈ more, d.2 ≠ []) :
    Shows h shard (done ++ more) (addTests h shard t more).1 := by
  induction more generalizing done t with
  | nil =>
    rw [List.append_nil]
    exact hshows
  | cons d more ih =>
    have hnew : d.1 ∉ Keyed.keys done := by
      rw [Keyed.keys, List.map_append, List.nodup_append] at hnodup
      exact fun hmem ↦ hnodup.2.2 _ hmem _ List.mem_cons_self rfl
    have hone := shows_addTest hshows hnew (hattempts d List.mem_cons_self)
    rw [← List.singleton_append, ← List.append_assoc] at hnodup ⊢
    exact ih hone hnodup fun e he ↦ hattempts e (List.mem_cons_of_mem d he)

/-- The trie of a report shows the tests of its history. -/
theorem shows_ofHistory (hsound : h.Sound) (c : Context) :
    Shows h c.shard h.tests (ofHistory h c).1.tests :=
  shows_addTests (shows_nil h c.shard) hsound.nodup hsound.attempts

/-- If no two tests meet, every test has its leaf. -/
theorem Shows.get?_of_apart (hshows : Shows h shard done t) (hnodup : (Keyed.keys done).Nodup)
    (happart : ∀ n ∈ Keyed.keys done, ∀ m ∈ Keyed.keys done,
      ¬ Meets (Path.segments n) (Path.segments m))
    {d : String × List Attempt} (hd : d ∈ done) : t.get? d.1 = leaf? h shard d.1 d.2 := by
  obtain ⟨before, after, hsplit⟩ := List.append_of_mem hd
  have hsome : (t.get? d.1).isSome := by
    refine (hshows.placed before d after hsplit).mpr fun earlier hearlier _ ↦ ?_
    refine happart earlier ?_ d.1 (List.mem_map.mpr ⟨d, hd, rfl⟩)
    rw [hsplit, Keyed.keys, List.map_append]
    exact List.mem_append_left _ hearlier
  obtain ⟨l, hl⟩ := Option.isSome_iff_exists.mp hsome
  obtain ⟨d', hd', hpath, hleaf⟩ := hshows.leaf _ l hl
  -- The leaf is that of a test with the same name, which is the test itself.
  have hname := Path.segments_injective hpath
  have hattempts : d.2 = d'.2 := by
    have hfind := Keyed.find?_eq_some_of_mem hnodup hd
    rw [hname, Keyed.find?_eq_some_of_mem hnodup hd'] at hfind
    exact (Option.some.inj hfind).symm
  rw [hl, hattempts, hname, hleaf]

/-- What a leaf shows of tests that do not meet, in whatever order they come. -/
theorem Shows.getAt?_of_perm {h' : History} {done' : List (String × List Attempt)} {t' : Trie}
    (hshows : Shows h shard done t) (hshows' : Shows h' shard done' t')
    (hnodup : (Keyed.keys done).Nodup) (hperm : done'.Perm done)
    (happart : ∀ n ∈ Keyed.keys done, ∀ m ∈ Keyed.keys done,
      ¬ Meets (Path.segments n) (Path.segments m))
    (hslow : ∀ test, h'.isSlow test = h.isSlow test) {path : List String} {l : Leaf}
    (hl : getAt? path t'.children = some l) : getAt? path t.children = some l := by
  obtain ⟨d, hd, rfl, hleaf⟩ := hshows'.leaf path l hl
  have hget := hshows.get?_of_apart hnodup happart (hperm.mem_iff.mp hd)
  rw [leaf?, hslow, ← leaf?] at hleaf
  exact hget.trans hleaf

/-- **The order of tests does not matter** to a report if none of them meet. -/
theorem tests_ofHistory_of_perm {h' : History} (hsound : h.Sound) (c : Context)
    (happart : ∀ n ∈ Keyed.keys h.tests, ∀ m ∈ Keyed.keys h.tests,
      ¬ Meets (Path.segments n) (Path.segments m))
    (hperm : h'.tests.Perm h.tests) (hslow : ∀ test, h'.isSlow test = h.isSlow test) :
    (ofHistory h' c).1.tests = (ofHistory h c).1.tests := by
  have hkeys : (Keyed.keys h'.tests).Perm (Keyed.keys h.tests) := hperm.map _
  have hsound' : h'.Sound :=
    ⟨hkeys.nodup_iff.mpr hsound.nodup, fun d hd ↦ hsound.attempts d (hperm.mem_iff.mp hd)⟩
  have happart' : ∀ n ∈ Keyed.keys h'.tests, ∀ m ∈ Keyed.keys h'.tests,
      ¬ Meets (Path.segments n) (Path.segments m) :=
    fun n hn m hm ↦ happart n (hkeys.mem_iff.mp hn) m (hkeys.mem_iff.mp hm)
  have hshows := shows_ofHistory hsound c
  have hshows' := shows_ofHistory hsound' c
  -- A trie without empty directories is known by its leaves.
  refine congrArg Trie.mk <| hshows'.tight.eq_of_getAt? hshows.tight fun path ↦
    Option.ext fun l ↦ ⟨fun hl ↦ ?_, fun hl ↦ ?_⟩
  · exact hshows.getAt?_of_perm hshows' hsound.nodup hperm happart hslow hl
  · exact hshows'.getAt?_of_perm hshows hsound'.nodup hperm.symm happart'
      (fun test ↦ (hslow test).symm) hl

/-- **A report shows the tests that do not meet others.** In the trie of a report on a history:

* a test has a leaf exactly if no earlier test that has one lies on its path or below it;
* every leaf is that of a test, and says what its own attempts come to;
* no directory is empty, and what is in one stands in order.

If no test lies on the path of another, every test has its leaf, and the trie is the same for the
same tests in any other order. -/
theorem trie_of_history (h : History) (c : Context) (hsound : h.Sound) :
    let t := (ofHistory h c).1.tests
    (∀ before test attempts after, h.tests = before ++ (test, attempts) :: after →
      ((t.get? test).isSome ↔ ∀ earlier ∈ Keyed.keys before, (t.get? earlier).isSome →
        ¬ Meets (Path.segments earlier) (Path.segments test))) ∧
    (∀ path l, getAt? path t.children = some l → ∃ test attempts, (test, attempts) ∈ h.tests ∧
      path = Path.segments test ∧ leaf? h c.shard test attempts = some l) ∧
    Trie.Children.Tight t.children ∧
    ((∀ n ∈ Keyed.keys h.tests, ∀ m ∈ Keyed.keys h.tests,
        ¬ Meets (Path.segments n) (Path.segments m)) →
      (∀ test attempts, (test, attempts) ∈ h.tests →
        (t.get? test).isSome ∧ t.get? test = leaf? h c.shard test attempts) ∧
      ∀ h' : History, h'.tests.Perm h.tests → (∀ test, h'.isSlow test = h.isSlow test) →
        (ofHistory h' c).1.tests = t) := by
  intro t
  have hshows := shows_ofHistory hsound c
  refine ⟨fun before test attempts after ↦ hshows.placed before (test, attempts) after, ?_,
    hshows.tight, fun happart ↦ ⟨fun test attempts hmem ↦ ?_, fun h' hperm hslow ↦
      tests_ofHistory_of_perm hsound c happart hperm hslow⟩⟩
  · intro path l hl
    obtain ⟨⟨test, attempts⟩, hmem, hpath, hleaf⟩ := hshows.leaf path l hl
    exact ⟨test, attempts, hmem, hpath, hleaf⟩
  · have hget := hshows.get?_of_apart hsound.nodup happart hmem
    obtain ⟨leaf, hleaf⟩ := exists_leaf? h c.shard test (hsound.attempts _ hmem)
    exact ⟨by rw [hget, hleaf]; rfl, hget⟩

/-- An attempt at a test that passed. -/
def sampleAttempt (test : String) : Attempt where
  name := test
  kind := .reftest
  filePath := test
  started := 0
  expected := .ofList [.pass]
  baselineText := none
  verdict := .pass
  took := 5
  outcomes := {}
  messages := []
  hasStderr := false

/-- Three tests, one of which lies below another. -/
def sampleHistory : History :=
  ((History.push {} (sampleAttempt "a")).push (sampleAttempt "a/b")).push (sampleAttempt "c")

/-- A report on a run that went through. -/
def sampleContext : Context where
  tally := {}
  interrupted := false
  secondsSinceEpoch := 0
  layoutTestsDir := "tests"
  flagName := none
  shard := none

theorem trie_of_history_sample :
    sampleHistory.Sound ∧
      (((ofHistory sampleHistory sampleContext).1.tests.get? "a").isSome ∧
        ¬ ((ofHistory sampleHistory sampleContext).1.tests.get? "a/b").isSome) := by
  have hsound : sampleHistory.Sound :=
    ((History.sound_empty.push _).push _).push _
  obtain ⟨hplaced, -⟩ := trie_of_history sampleHistory sampleContext hsound
  have ha := (hplaced [] "a" _ _ rfl).mpr nofun
  refine ⟨hsound, ha, fun hb ↦ ?_⟩
  have hmeets : Meets (Path.segments "a") (Path.segments "a/b") := by decide +kernel
  exact (hplaced [_] "a/b" _ _ rfl).mp hb "a" List.mem_cons_self ha hmeets

end Report

end WebTestRun
