import WebTestRun.Proofs.TestName.Stem

/-!
# Tests under a suite

The name of a test under a suite is that of the test itself with the suite in front. It tells both,
because the name of no suite holds a slash and no test outside of suites is named like one.

* `splitVirtual_eq_some_iff` — which names are those of tests under a suite.
* `splitVirtual_eq_none_iff` — all others name the test itself.
* `full_suite`, `splitVirtual_full`, `splitVirtual_base` — the names of one test, under a suite and
  outside.
* `splitVirtual_full_eq`, `withoutPublicPrefix_base` — a name tells the suite and what the runner
  calls the test.
* `nameable_full` — files about a test under a suite can be named if those about the test itself
  can.
-/

set_option autoImplicit false

namespace WebTestRun

namespace Text

theorem dropPrefix?_eq_some_iff {pre s rest : String} :
    dropPrefix? pre s = some rest ↔ s = pre ++ rest := by
  constructor
  · intro h
    obtain ⟨tail, htail, rfl⟩ := Option.map_eq_some_iff.mp h
    rw [← String.toList_inj, ← List.isPrefixOf?_eq_some_iff_append_eq.mp htail]
    simp
  · rintro rfl
    exact dropPrefix?_append pre rest

end Text

namespace TestName

theorem withoutSlash_of_not_prefix {url : String} (h : ¬ ['/'] <+: url.toList) :
    withoutSlash url = url := by
  have hnone : Text.dropPrefix? "/" url = none := by
    refine Option.eq_none_iff_forall_ne_some.mpr fun rest hrest ↦ h ?_
    rw [Text.dropPrefix?_eq_some_iff.mp hrest, String.toList_append]
    exact List.prefix_append _ _
  rw [withoutSlash, hnone, Option.getD_none]

theorem withoutSlash_slash (url : String) : withoutSlash ("/" ++ url) = url := by
  rw [withoutSlash, Text.dropPrefix?_append, Option.getD_some]

/-- **A name is that of a test under a suite** if the prefix, a suite without a slash and the name
of the test make it up. -/
theorem splitVirtual_eq_some_iff {name suite base : String} :
    splitVirtual name = (some suite, base) ↔
      name = virtualPrefix ++ suite ++ "/" ++ base ∧ '/' ∉ suite.toList := by
  have hcut : splitVirtual name = (some suite, base) ↔
      (Text.dropPrefix? virtualPrefix name).bind (Text.cutAt? '/') = some (suite, base) := by
    rw [splitVirtual]
    split
    · rename_i suite' base' h
      rw [h]
      simp
    · rename_i h
      simp [h]
  have hslash : String.singleton '/' = "/" := rfl
  rw [hcut, Option.bind_eq_some_iff]
  constructor
  · rintro ⟨rest, hrest, hsuite⟩
    obtain ⟨rfl, hnone⟩ := Text.cutAt?_eq_some_iff.mp hsuite
    exact ⟨by simp only [Text.dropPrefix?_eq_some_iff.mp hrest, hslash, String.append_assoc], hnone⟩
  · rintro ⟨rfl, hnone⟩
    refine ⟨suite ++ "/" ++ base, Text.dropPrefix?_eq_some_iff.mpr ?_,
      Text.cutAt?_eq_some_iff.mpr ⟨rfl, hnone⟩⟩
    simp only [String.append_assoc]

/-- Any other name is that of the test itself. -/
theorem splitVirtual_eq_none_iff {name base : String} :
    splitVirtual name = (none, base) ↔ base = name ∧
      ∀ suite rest, '/' ∉ suite.toList → name ≠ virtualPrefix ++ suite ++ "/" ++ rest := by
  cases h : splitVirtual name with
  | mk suite? test =>
    cases suite? with
    | some suite =>
      obtain ⟨hname, hslash⟩ := splitVirtual_eq_some_iff.mp h
      exact iff_of_false (by simp) fun hall ↦ hall.2 suite test hslash hname
    | none =>
      have htest : test = name := by
        rw [splitVirtual] at h
        split at h
        · cases h
        · exact (Prod.mk.inj h).2.symm
      have hnot (suite rest : String) (hslash : '/' ∉ suite.toList) :
          name ≠ virtualPrefix ++ suite ++ "/" ++ rest := by
        intro hname
        rw [splitVirtual_eq_some_iff.mpr ⟨hname, hslash⟩] at h
        cases h
      rw [Prod.mk.injEq, htest, eq_comm (a := name)]
      exact ⟨fun heq ↦ ⟨heq.2, hnot⟩, fun heq ↦ ⟨rfl, heq.1⟩⟩

/-! ## One test under a suite and outside -/

theorem full_suite {suite : String} (hsuite : suite ≠ "") (test : String) :
    full test (some suite) = virtualPrefix ++ suite ++ "/" ++ base test := by
  rw [full, Option.filter_some, if_pos (by simpa using hsuite)]

/-- A test outside of suites is named below one of two directories. -/
theorem exists_cons_of_base (test : String) :
    ∃ c ∈ ['e', 'w'], ∃ rest, (base test).toList = c :: rest := by
  rw [base]
  split
  · rename_i hinternal
    obtain ⟨rest, hrest⟩ := List.isPrefixOf_iff_prefix.mp hinternal
    exact ⟨'w', by decide, _, hrest.symm⟩
  · exact ⟨'e', by decide, _, String.toList_append⟩

/-- The names of tests do not start with a slash. -/
theorem not_slash_prefix_full (test : String) (suite : Option String) :
    ¬ ['/'] <+: (full test suite).toList := by
  rw [full]
  split
  · rw [String.toList_append, String.toList_append, String.toList_append]
    simp [virtualPrefix]
  · obtain ⟨c, hc, rest, hrest⟩ := exists_cons_of_base test
    rw [hrest, List.cons_prefix_cons]
    rintro ⟨rfl, -⟩
    exact absurd hc (by decide)

/-- No test outside of suites is named like one under a suite. -/
theorem splitVirtual_base (test : String) : splitVirtual (base test) = (none, base test) := by
  refine splitVirtual_eq_none_iff.mpr ⟨rfl, fun suite rest _ hname ↦ ?_⟩
  obtain ⟨c, hc, tail, htail⟩ := exists_cons_of_base test
  rw [hname, String.toList_append, String.toList_append, String.toList_append] at htail
  have hv : c = 'v' := (List.cons.inj htail).1.symm
  rw [hv] at hc
  exact absurd hc (by decide)

theorem splitVirtual_full {suite : String} (hsuite : suite ≠ "") (hslash : '/' ∉ suite.toList)
    (test : String) : splitVirtual (full test (some suite)) = (some suite, base test) :=
  splitVirtual_eq_some_iff.mpr ⟨full_suite hsuite test, hslash⟩

/-- **The name of a test outside of suites tells what the runner calls it**, but for a slash in
front. -/
theorem withoutPublicPrefix_base (test : String) :
    withoutPublicPrefix (base test) = withoutSlash test := by
  rw [base]
  split
  · rename_i hinternal
    -- The prefix of the internal tests is none of the public ones.
    obtain ⟨rest, hrest⟩ := List.isPrefixOf_iff_prefix.mp hinternal
    have hnone : Text.dropPrefix? publicPrefix (withoutSlash test) = none := by
      rw [Option.eq_none_iff_forall_ne_some]
      intro rest' h
      have htest := congrArg String.toList (Text.dropPrefix?_eq_some_iff.mp h)
      rw [← hrest, String.toList_append] at htest
      exact absurd (List.cons.inj htest).1 (by decide)
    rw [withoutPublicPrefix, hnone, Option.getD_none]
  · rw [withoutPublicPrefix, Text.dropPrefix?_append, Option.getD_some]

/-- **The name of a test tells its suite and the test.** -/
theorem splitVirtual_full_eq (test : String) {suite : Option String}
    (hslash : ∀ s ∈ suite, '/' ∉ s.toList) :
    splitVirtual (full test suite) = (suite.filter fun s ↦ !s.isEmpty, full test none) := by
  have hnone : full test none = base test := rfl
  cases h : suite.filter fun s ↦ !s.isEmpty with
  | none =>
    have hfull : full test suite = base test := by rw [full, h]
    rw [hfull, splitVirtual_base, hnone]
  | some s =>
    obtain ⟨hs, hne⟩ := Option.filter_eq_some_iff.mp h
    subst hs
    rw [splitVirtual_full (by simpa using hne) (hslash s rfl), hnone]

/-! ## Files about one test under a suite and outside -/

/-- A name whose variant does not start in its first part is that part and the rest without its
variant. -/
theorem withoutVariant_append {s : String}
    (h : (s.toList.all fun c ↦ c ≠ '?' && c ≠ '#') = true) (t : String) :
    Lookup.withoutVariant (s ++ t) = s ++ Lookup.withoutVariant t := by
  rw [Lookup.withoutVariant, Lookup.withoutVariant, String.toList_append,
    List.takeWhile_append_of_pos (List.all_eq_true.mp h), String.ofList_append,
    String.ofList_toList]

/-- A name whose variant starts in its first part is that part without the variant. -/
theorem withoutVariant_append_of_marked {s : String}
    (h : (s.toList.all fun c ↦ c ≠ '?' && c ≠ '#') = false) (t : String) :
    Lookup.withoutVariant (s ++ t) = Lookup.withoutVariant s := by
  rw [Lookup.withoutVariant, Lookup.withoutVariant, String.toList_append, List.takeWhile_append]
  split
  · rename_i hlength
    rw [← (List.takeWhile_prefix _).eq_of_length hlength, List.all_takeWhile] at h
    cases h
  · rfl

/-- A path of two names can be cut before its extension. -/
theorem nameable_of_withoutVariant {test suite : String}
    (h : Lookup.withoutVariant test = virtualPrefix ++ suite) (hslash : '/' ∉ suite.toList) :
    Nameable test := by
  intro extension hextension
  obtain ⟨front, after, hpath, -⟩ := Path.exists_of_extension? hextension
  cases after with
  | nil =>
    refine ⟨front, '.' :: extension.toList, by simpa [Path.trail] using hpath, ?_⟩
    rw [Text.byteSize_cons, Text.byteSize_toList, Nat.add_comm]
    rfl
  | cons s after =>
    -- The only slash stands after the first name, in which there is no dot.
    have hcut : "virtual".toList ++ '/' :: suite.toList =
        (front ++ '.' :: extension.toList) ++ '/' :: (s ++ Path.trail after) := by
      have hvirtual : virtualPrefix.toList = "virtual".toList ++ ['/'] := by decide
      rw [h, String.toList_append, hvirtual] at hpath
      simpa [Path.trail] using hpath
    have hdot : '.' ∉ "virtual".toList := by decide
    rcases List.append_eq_append_iff.mp hcut with ⟨mid, hfront, hrest⟩ | ⟨mid, hfront, -⟩
    · cases mid with
      | nil => exact absurd (by rw [← List.append_nil "virtual".toList, ← hfront]; simp) hdot
      | cons d mid =>
        rw [List.cons_append, List.cons.injEq] at hrest
        exact absurd (by rw [hrest.2]; simp) hslash
    · exact absurd (by rw [hfront]; simp) hdot

/-- **Files about a test under a suite can be named** if those about the test itself can. -/
theorem nameable_full {suite : String} (hsuite : suite ≠ "") (hslash : '/' ∉ suite.toList)
    {test : String} (h : Nameable (base test)) : Nameable (full test (some suite)) := by
  cases hvariant : suite.toList.all fun c ↦ c ≠ '?' && c ≠ '#' with
  | false =>
    have hpath : Lookup.withoutVariant (full test (some suite)) =
        virtualPrefix ++ Lookup.withoutVariant suite := by
      rw [full_suite hsuite, String.append_assoc, String.append_assoc,
        withoutVariant_append (by decide), withoutVariant_append_of_marked hvariant]
    refine nameable_of_withoutVariant hpath fun hmem ↦ ?_
    rw [Lookup.withoutVariant, String.toList_ofList] at hmem
    exact hslash (List.takeWhile_subset _ hmem)
  | true =>
    have hpath : Lookup.withoutVariant (full test (some suite)) =
        virtualPrefix ++ suite ++ "/" ++ Lookup.withoutVariant (base test) := by
      rw [full_suite hsuite, String.append_assoc, String.append_assoc,
        withoutVariant_append (by decide), withoutVariant_append hvariant,
        withoutVariant_append (by decide), String.append_assoc, String.append_assoc]
    obtain ⟨c, hc, rest, hbase⟩ := exists_cons_of_base test
    have hne (d : Char) (hd : d ∉ ['e', 'w']) : c ≠ d := fun hcd ↦ hd (hcd ▸ hc)
    have hfirst : (Lookup.withoutVariant (base test)).toList =
        c :: rest.takeWhile fun c ↦ c ≠ '?' && c ≠ '#' := by
      rw [Lookup.withoutVariant, String.toList_ofList, hbase, List.takeWhile_cons_of_pos]
      simp [hne '?' (by decide), hne '#' (by decide)]
    intro extension hextension
    rw [hpath, Path.extension?_append_slash _ hfirst (hne '/' (by decide)) (hne '.' (by decide))]
      at hextension
    obtain ⟨kept, cut, hkept, hcut⟩ := h extension hextension
    refine ⟨(virtualPrefix ++ suite ++ "/").toList ++ kept, cut, ?_, hcut⟩
    rw [hpath, String.toList_append, hkept, List.append_assoc]

end TestName

end WebTestRun
