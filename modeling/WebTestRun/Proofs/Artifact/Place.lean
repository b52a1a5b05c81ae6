import WebTestRun.Proofs.Decimal.Digits
import WebTestRun.Proofs.TestName.OutputPath

/-!
# Where artifacts lie

Artifacts of different attempts lie at different places if the attempts are of different iterations
or their tests have different stems. What is recorded of an artifact tells both; the place that its
path leads to does so as well, unless dots or empty names stand in the path.

* `Path.Plain` — every segment of a path is a name, and `Path.eq_of_place_join`.
* `Path.Descends` — a path does not lead up, and `Path.Nested` — one of two directories lies in the
  other: `Path.nested_of_place_join`.
* `Store.recorded_injective`, `Store.file_place` — what is recorded of an artifact, and its place.
* `FileKind.eq_of_place` — files of one test lie at different places.
* `TestName.Plain`, `FileKind.path_plain` — tests whose files have plain paths, and
  `TestName.Descends`, `FileKind.path_descends` — tests whose files have paths that do not lead up.
-/

set_option autoImplicit false

namespace WebTestRun

/-! ## Plain paths -/

namespace Path

/-- Every segment of a path is a name. -/
def Plain (p : String) : Prop := ∀ segment ∈ segments p, IsName segment

/-- No segment of a path leads up. -/
def Descends (p : String) : Prop := ".." ∉ segments p

instance (p : String) : Decidable (Descends p) := inferInstanceAs (Decidable (_ ∉ _))

theorem Plain.descends {p : String} (h : Plain p) : Descends p := fun hup ↦ (h _ hup).2.2 rfl

/-- Segments that do not lead up lead on by the names among them. -/
theorem foldl_step {segments : List String} (h : ".." ∉ segments) (names : List String) :
    segments.foldl step names = names ++ segments.filter fun s ↦ IsName s := by
  induction segments generalizing names with
  | nil => rw [List.foldl_nil, List.filter_nil, List.append_nil]
  | cons s segments ih =>
    rw [List.mem_cons, not_or] at h
    rw [List.foldl_cons, ih h.2, List.filter_cons]
    by_cases hname : IsName s
    · rw [step_of_isName hname, if_pos (decide_eq_true hname), List.append_assoc,
        List.singleton_append]
    · have hnothing : s = "" ∨ s = "." := by
        by_contra hne
        rw [not_or] at hne
        exact hname ⟨hne.1, hne.2, Ne.symm h.1⟩
      rw [step, if_pos (by simpa using hnothing), if_neg (by simpa using hname)]

variable (here : List String)

/-- Below a directory a path leads on from where the directory is. -/
theorem place_join (dir : String) {p : String} (hp : isAbsolute p = false) :
    place here (join dir p) = (segments p).foldl step (place here dir) := by
  rw [place, segments_join dir hp, List.foldl_append, origin, isAbsolute_join dir hp,
    foldl_dirSegments dir step_empty]
  rfl

/-- Below a directory a path that does not lead up leads on by its names. -/
theorem place_join_of_descends (dir : String) {p : String} (hp : isAbsolute p = false)
    (h : Descends p) :
    place here (join dir p) = place here dir ++ (segments p).filter fun s ↦ IsName s := by
  rw [place_join here dir hp, foldl_step h]

/-- Below a directory a plain path leads on by its own segments. -/
theorem place_join_of_plain (dir : String) {p : String} (hp : isAbsolute p = false)
    (hplain : Plain p) : place here (join dir p) = place here dir ++ segments p := by
  rw [place_join_of_descends here dir hp hplain.descends,
    List.filter_eq_self.mpr fun s hs ↦ decide_eq_true (hplain s hs)]

variable {here}

/-- **Different plain paths lead to different places** below one directory. -/
theorem eq_of_place_join {dir p q : String} (hp : isAbsolute p = false)
    (hq : isAbsolute q = false) (hplain : Plain p) (hplain' : Plain q)
    (h : place here (join dir p) = place here (join dir q)) : p = q := by
  rw [place_join_of_plain here dir hp hplain, place_join_of_plain here dir hq hplain'] at h
  exact segments_injective (List.append_cancel_left h)

/-- A path starts at the root if what stands above its last segment does. -/
theorem isAbsolute_iff_head? {p last : String} {above : List String}
    (hp : segments p = above ++ [last]) : isAbsolute p = true ↔ above.head? = some "" := by
  rw [isAbsolute_iff_segments, hp]
  cases above with
  | nil => simp
  | cons first more =>
    obtain ⟨second, rest, hmore⟩ := List.exists_cons_of_ne_nil (List.concat_ne_nil last more)
    simp [hmore]

/-- A path whose last segment is a name leads there from what stands above. -/
theorem place_of_segments {p last : String} {above : List String}
    (hp : segments p = above ++ [last]) (hlast : IsName last) :
    place here p =
      above.foldl step (if above.head? = some "" then [] else here) ++ [last] := by
  rw [place, hp, origin, List.foldl_append, List.foldl_cons, List.foldl_nil,
    step_of_isName hlast]
  simp only [isAbsolute_iff_head? hp]

/-- One of two directories lies in the other, seen from a working directory, or they are the
same. -/
def Nested (here : List String) (dir dir' : String) : Prop :=
  place here dir <+: place here dir' ∨ place here dir' <+: place here dir

instance (here : List String) (dir dir' : String) : Decidable (Nested here dir dir') :=
  inferInstanceAs (Decidable (_ ∨ _))

/-- A directory lies in itself, in whatever way it is told. -/
example : Nested ["c"] "../c/o" "o" ∧ Nested ["c"] "o" "/c/o/t" := by decide +kernel

/-- **Paths that do not lead up lead to different places** below directories that do not lie in each
other. -/
theorem nested_of_place_join {dir dir' p q : String} (hp : isAbsolute p = false)
    (hq : isAbsolute q = false) (hdescends : Descends p) (hdescends' : Descends q)
    (h : place here (join dir p) = place here (join dir' q)) : Nested here dir dir' := by
  rw [place_join_of_descends here dir hp hdescends,
    place_join_of_descends here dir' hq hdescends'] at h
  exact List.prefix_or_prefix_of_prefix (List.prefix_append _ _) ⟨_, h.symm⟩

end Path

/-! ## What is recorded, and where it lies -/

namespace Artifact.Store

/-- A path that starts as the names of tests do. -/
def StartsAsTest (path : String) : Prop :=
  ∃ c ∈ ['e', 'w', 'v'], ∃ rest, path.toList = c :: rest

/-- The name of the directory for the artifacts of a retry. -/
def retryName (iteration : Nat) : String := s!"retry_{iteration}"

/-- The directories that artifacts of an iteration have in front. -/
def retryDirs (iteration : Nat) : List String :=
  if 0 < iteration then [retryName iteration] else []

theorem toList_retryName (iteration : Nat) :
    (retryName iteration).toList = "retry_".toList ++ Nat.toDigits 10 iteration :=
  (String.toList_append).trans (congrArg _ String.toList_ofList)

theorem exists_cons_of_retryName (iteration : Nat) :
    ∃ rest, (retryName iteration).toList = 'r' :: rest :=
  ⟨_, toList_retryName iteration⟩

theorem retryName_isName (iteration : Nat) : Path.IsName (retryName iteration) := by
  obtain ⟨rest, hrest⟩ := exists_cons_of_retryName iteration
  refine ⟨?_, ?_, ?_⟩
  all_goals
    intro heq
    rw [heq] at hrest
    cases hrest

theorem slash_notMem_retryName (iteration : Nat) : '/' ∉ (retryName iteration).toList := by
  rw [toList_retryName, List.mem_append, not_or]
  exact ⟨by decide, Decimal.notMem_toDigits (by decide) iteration⟩

theorem retryName_injective {iteration iteration' : Nat}
    (h : retryName iteration = retryName iteration') : iteration = iteration' := by
  have hlist := congrArg String.toList h
  rw [toList_retryName, toList_retryName] at hlist
  exact Decimal.toDigits_injective (List.append_cancel_left hlist)

variable {iteration iteration' : Nat} {subpath subpath' : String}

theorem StartsAsTest.exists_segments (h : StartsAsTest subpath) :
    ∃ first more, Path.segments subpath = first :: more ∧ first ≠ "" ∧
      ∀ iteration, first ≠ retryName iteration := by
  obtain ⟨c, hc, rest, hsubpath⟩ := h
  have hslash : c ≠ '/' := by
    rintro rfl
    exact absurd hc (by decide)
  obtain ⟨first, more, tail, hsegments, hfirst⟩ := Path.exists_segments_of_cons hsubpath hslash
  refine ⟨first, more, hsegments, fun hempty ↦ ?_, fun iteration hretry ↦ ?_⟩
  · rw [hempty] at hfirst
    cases hfirst
  · obtain ⟨rest', hrest'⟩ := exists_cons_of_retryName iteration
    rw [hretry, hrest', List.cons.injEq] at hfirst
    exact absurd (hfirst.1 ▸ hc) (by decide)

theorem StartsAsTest.isAbsolute (h : StartsAsTest subpath) : Path.isAbsolute subpath = false := by
  obtain ⟨first, more, hsegments, hfirst, -⟩ := h.exists_segments
  exact Path.isAbsolute_of_segments hsegments hfirst

/-- Artifacts of a retry have the directory of the retry in front. -/
theorem segments_relative (h : Path.isAbsolute subpath = false) (iteration : Nat) :
    Path.segments (relative iteration subpath) = retryDirs iteration ++ Path.segments subpath := by
  rw [relative, retryDirs]
  split
  · rw [← retryName, Path.segments_join _ h, Path.dirSegments_of_slash_notMem
      (retryName_isName iteration).1 (slash_notMem_retryName iteration)]
  · rfl

theorem isAbsolute_relative (h : Path.isAbsolute subpath = false) (iteration : Nat) :
    Path.isAbsolute (relative iteration subpath) = false := by
  rw [relative]
  split
  · rw [← retryName, Path.isAbsolute_join _ h]
    exact Path.isAbsolute_of_segments
      (Path.segments_of_slash_notMem (slash_notMem_retryName iteration))
      (retryName_isName iteration).1
  · exact h

/-- The path below the directory of artifacts tells the iteration and the path of the artifact. -/
theorem relative_injective (h : StartsAsTest subpath) (h' : StartsAsTest subpath')
    (heq : relative iteration subpath = relative iteration' subpath') :
    iteration = iteration' ∧ subpath = subpath' := by
  obtain ⟨first, more, hsegments, -, hretry⟩ := h.exists_segments
  obtain ⟨first', more', hsegments', -, hretry'⟩ := h'.exists_segments
  have hpath := congrArg Path.segments heq
  rw [segments_relative h.isAbsolute, segments_relative h'.isAbsolute, retryDirs, retryDirs]
    at hpath
  split at hpath
  · split at hpath
    · obtain ⟨hname, hrest⟩ := List.cons.inj hpath
      exact ⟨retryName_injective hname, Path.segments_injective hrest⟩
    · -- No test is named like the directory of a retry.
      rw [hsegments'] at hpath
      exact absurd (List.cons.inj hpath).1.symm (hretry' _)
  · split at hpath
    · rw [hsegments] at hpath
      exact absurd (List.cons.inj hpath).1 (hretry _)
    · exact ⟨by omega, Path.segments_injective hpath⟩

variable {s : Store} {here : List String}

/-- **What is recorded of an artifact** tells the iteration and the path of the artifact. -/
theorem recorded_injective (h : StartsAsTest subpath) (h' : StartsAsTest subpath')
    (heq : s.recorded iteration subpath = s.recorded iteration' subpath') :
    iteration = iteration' ∧ subpath = subpath' :=
  relative_injective h h' <|
    Path.join_injective (isAbsolute_relative h.isAbsolute _)
      (isAbsolute_relative h'.isAbsolute _) heq

theorem StartsAsTest.plain_relative (h : StartsAsTest subpath) (hplain : Path.Plain subpath)
    (iteration : Nat) : Path.Plain (relative iteration subpath) := by
  rw [Path.Plain, segments_relative h.isAbsolute, retryDirs]
  split
  · exact List.forall_mem_cons.mpr ⟨retryName_isName iteration, hplain⟩
  · exact hplain

theorem StartsAsTest.descends_relative (h : StartsAsTest subpath)
    (hdescends : Path.Descends subpath) (iteration : Nat) :
    Path.Descends (relative iteration subpath) := by
  rw [Path.Descends, segments_relative h.isAbsolute, retryDirs]
  split
  · exact List.not_mem_cons_of_ne_of_not_mem (retryName_isName iteration).2.2.symm hdescends
  · exact hdescends

/-- **The place of an artifact** tells the iteration and the path of the artifact, if that is
plain. -/
theorem file_place (h : StartsAsTest subpath) (h' : StartsAsTest subpath')
    (hplain : Path.Plain subpath) (hplain' : Path.Plain subpath')
    (heq : Path.place here (s.file iteration subpath) =
      Path.place here (s.file iteration' subpath')) :
    iteration = iteration' ∧ subpath = subpath' :=
  relative_injective h h' <|
    Path.eq_of_place_join (isAbsolute_relative h.isAbsolute _)
      (isAbsolute_relative h'.isAbsolute _)
      (h.plain_relative hplain _) (h'.plain_relative hplain' _) heq

/-- **An artifact and a file below another directory** lie at different places, if their paths do
not lead up and none of the directories lies in the other. -/
theorem nested_of_place {dir : String} (h : StartsAsTest subpath) (h' : StartsAsTest subpath')
    (hdescends : Path.Descends subpath) (hdescends' : Path.Descends subpath')
    (heq : Path.place here (s.file iteration subpath) =
      Path.place here (Path.join dir subpath')) :
    Path.Nested here s.dir dir :=
  Path.nested_of_place_join (isAbsolute_relative h.isAbsolute _) h'.isAbsolute
    (h.descends_relative hdescends _) hdescends' heq

/-- The place of an artifact ends in its name, and what stands above does not depend on it. -/
theorem exists_place_file (s : Store) (here : List String) (iteration : Nat)
    (dirs : List String) : ∃ above, ∀ p last, Path.IsName last →
      Path.segments p = dirs ++ [last] →
        Path.place here (s.file iteration p) = above ++ [last] := by
  obtain ⟨retry, hretry⟩ : ∃ retry, ∀ p last, last ≠ "" → Path.segments p = dirs ++ [last] →
      Path.segments (relative iteration p) = retry ++ [last] := by
    unfold relative
    split
    · exact Path.exists_segments_join _ dirs
    · exact ⟨dirs, fun _ _ _ hp ↦ hp⟩
  obtain ⟨above, habove⟩ := Path.exists_segments_join s.dir retry
  exact ⟨_, fun p last hlast hp ↦
    Path.place_of_segments (habove _ last hlast.1 (hretry p last hlast.1 hp)) hlast⟩

end Artifact.Store

/-! ## Tests whose files have plain paths -/

/-- The files of a test lie below directories that have names. -/
def TestName.Plain (test : String) : Prop :=
  ∀ stem ∈ (fileStem test).toOption, ∀ dir ∈ (Path.segments stem).dropLast, Path.IsName dir

/-- The files of a test lie below directories that do not lead up. -/
def TestName.Descends (test : String) : Prop :=
  ∀ stem ∈ (fileStem test).toOption, ".." ∉ (Path.segments stem).dropLast

instance (test : String) : Decidable (TestName.Plain test) :=
  inferInstanceAs (Decidable (∀ stem ∈ (TestName.fileStem test).toOption, _))

instance (test : String) : Decidable (TestName.Descends test) :=
  inferInstanceAs (Decidable (∀ stem ∈ (TestName.fileStem test).toOption, _))

namespace Extraction

open Artifact.Store (StartsAsTest)

variable {k : FileKind} {path : String}

theorem FileKind.startsAsTest {test : TestId} (h : k.path test.name = .ok path) :
    StartsAsTest path := by
  obtain ⟨c, hc, rest, htest⟩ := test.exists_cons_of_name
  have hletter : ∀ d ∈ ['e', 'w', 'v'], d ∉ ['?', '#', '.'] := by simp
  exact ⟨c, hc, TestName.exists_cons_of_outputPath h htest (hletter c hc)⟩

/-- A file of a test lies below the directories of the stem, and its own name has a dash in it. -/
theorem FileKind.exists_segments (hk : k ∈ kinds) {test : String} (h : k.path test = .ok path) :
    ∃ stem ∈ (TestName.fileStem test).toOption, ∃ last, '-' ∈ last.toList ∧
      Path.segments path = (Path.segments stem).dropLast ++ [last] := by
  obtain ⟨stem, hstem, hpath⟩ := exists_of_path h
  obtain ⟨front, last, hsplit, happend⟩ :=
    Text.splitOn_append_of_notMem (slash_notMem_tail k hk) stem.toList
  refine ⟨stem, Answer.toOption_eq_some_iff.mpr hstem, String.ofList (last ++ k.tail), ?_, ?_⟩
  · rw [String.toList_ofList]
    exact List.mem_append_right last (dash_mem_tail k hk)
  · rw [Path.segments, Path.segments, hsplit, hpath, happend, List.map_append, List.map_append,
      List.map_singleton, List.map_singleton, List.dropLast_concat]

/-- A name with a dash in it is neither empty nor dots. -/
theorem isName_of_dash {name : String} (h : '-' ∈ name.toList) : Path.IsName name := by
  refine ⟨?_, ?_, ?_⟩
  all_goals
    rintro rfl
    exact absurd h (by decide)

theorem FileKind.path_plain (hk : k ∈ kinds) {test : String} (h : k.path test = .ok path)
    (hplain : TestName.Plain test) : Path.Plain path := by
  obtain ⟨stem, hstem, last, hdash, hsegments⟩ := exists_segments hk h
  rw [Path.Plain, hsegments, List.forall_mem_append, List.forall_mem_singleton]
  exact ⟨hplain stem hstem, isName_of_dash hdash⟩

theorem FileKind.path_descends (hk : k ∈ kinds) {test : String} (h : k.path test = .ok path)
    (hdescends : TestName.Descends test) : Path.Descends path := by
  obtain ⟨stem, hstem, last, hdash, hsegments⟩ := exists_segments hk h
  rw [Path.Descends, hsegments, List.mem_append, List.mem_singleton, not_or]
  exact ⟨hdescends stem hstem, (isName_of_dash hdash).2.2.symm⟩

/-- **Files of a test that lie at one place are of one kind**, wherever the test leads. -/
theorem FileKind.eq_of_place {k k' : FileKind} (hk : k ∈ kinds) (hk' : k' ∈ kinds)
    {test path path' : String} (h : k.path test = .ok path) (h' : k'.path test = .ok path')
    {s : Artifact.Store} {iteration : Nat}
    {here : List String}
    (heq : Path.place here (s.file iteration path) = Path.place here (s.file iteration path')) :
    k = k' := by
  obtain ⟨stem, hstem, hpath⟩ := exists_of_path h
  obtain ⟨stem', hstem', hpath'⟩ := exists_of_path h'
  obtain rfl : stem = stem' := Except.ok.inj (hstem.symm.trans hstem')
  obtain ⟨front, last, hsplit⟩ : ∃ front last, stem.toList.splitOn '/' = front ++ [last] :=
    ⟨_, _, (List.dropLast_append_getLast (List.splitOn_ne_nil '/' stem.toList)).symm⟩
  -- The two paths only differ in their last names, and both of these name something.
  have hfile {k : FileKind} (hk : k ∈ kinds) {path : String}
      (hpath : path.toList = stem.toList ++ k.tail) :
      Path.segments path = front.map String.ofList ++ [String.ofList (last ++ k.tail)] ∧
        Path.IsName (String.ofList (last ++ k.tail)) := by
    obtain ⟨front', last', hsplit', happend⟩ :=
      Text.splitOn_append_of_notMem (slash_notMem_tail k hk) stem.toList
    obtain ⟨rfl, hlast⟩ := List.append_inj' (hsplit.symm.trans hsplit') rfl
    obtain rfl := List.singleton_inj.mp hlast
    refine ⟨?_, isName_of_dash ?_⟩
    · rw [Path.segments, hpath, happend, List.map_append, List.map_singleton]
    · rw [String.toList_ofList]
      exact List.mem_append_right last (dash_mem_tail k hk)
  obtain ⟨above, habove⟩ := s.exists_place_file here iteration (front.map String.ofList)
  obtain ⟨hsegments, hname⟩ := hfile hk hpath
  obtain ⟨hsegments', hname'⟩ := hfile hk' hpath'
  rw [habove _ _ hname hsegments, habove _ _ hname' hsegments', List.append_cancel_left_eq,
    List.singleton_inj, String.ofList_inj, List.append_cancel_left_eq] at heq
  exact tail_apart k hk k' hk' (heq ▸ List.suffix_refl _)

end Extraction

end WebTestRun
