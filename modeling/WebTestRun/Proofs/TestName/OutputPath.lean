import WebTestRun.Event.Basic
import WebTestRun.Proofs.Artifact.Written
import WebTestRun.Proofs.TestName.Suite

/-!
# Paths of the files about a test

The path of a file about a test is a stem, which follows from the name of the test alone, and after
it what tells the file from other files about the test. Tests share a stem if their names differ in
the extension, or in characters of the variant that no file name may hold.

* `TestName.fileStem` — the stem, and `outputPath_eq`.
* `TestId.exists_cons_of_name`, `exists_cons_of_outputPath` — what paths of files start with.
* `Extraction.stem_of_path_eq` — files of different kinds have different paths, and so have files of
  tests with different stems.
-/

set_option autoImplicit false

namespace WebTestRun

open Text

namespace TestName

/-- What the paths of all files about a test start with. -/
def fileStem (test : String) : Except Unnameable String := outputPath test "" ""

theorem outputPath_eq (test suffix extension : String) :
    outputPath test suffix extension = (fileStem test).map (· ++ suffix ++ extension) := by
  rw [fileStem, outputPath, outputPath]
  dsimp only
  split
  · rfl
  · simp [Except.map]

theorem exists_of_outputPath {test suffix extension path : String}
    (h : outputPath test suffix extension = .ok path) :
    ∃ stem, fileStem test = .ok stem ∧
      path.toList = stem.toList ++ (suffix ++ extension).toList := by
  rw [outputPath_eq] at h
  obtain ⟨stem, hstem, rfl⟩ := Answer.map_eq_ok_iff.mp h
  exact ⟨stem, hstem, by simp⟩

/-! ## What paths start with -/

/-- The stem of a path keeps its first character, unless that is the dot before an extension. -/
theorem exists_cons_of_stem? {path : String} {stem rest : List Char} {c : Char}
    (h : stem? path = some stem) (hpath : path.toList = c :: rest) (hdot : c ≠ '.') :
    ∃ rest', stem = c :: rest' := by
  rw [stem?] at h
  split at h
  · rename_i extension hextension
    obtain ⟨hsize, cut, hcut⟩ := takeBytes?_eq_some_iff.mp h
    cases stem with
    | cons d stem =>
      rw [hpath, List.cons_append, List.cons.injEq] at hcut
      exact ⟨stem, by rw [hcut.1]⟩
    | nil =>
      -- Nothing is left only if there is nothing before the dot.
      obtain ⟨front, after, hdotted, -⟩ := Path.exists_of_extension? hextension
      have hbytes := Path.byteSize_of_extension? hextension
      have hone : '.'.utf8Size = 1 := rfl
      rw [← byteSize_toList path, hdotted] at hsize hbytes
      simp only [byteSize_nil, byteSize_append, byteSize_cons, byteSize_toList, hone]
        at hsize hbytes
      have hfront : front = [] := byteSize_eq_zero_iff.mp (by omega)
      rw [hpath, hfront, List.nil_append, List.cons_append, List.cons.injEq] at hdotted
      exact absurd hdotted.1 hdot
  · rw [hpath] at h
    exact ⟨rest, (Option.some.inj h).symm⟩

/-- The path of a file about a test starts as the name of the test does. -/
theorem exists_cons_of_outputPath {test suffix extension path : String}
    (h : outputPath test suffix extension = .ok path) {c : Char} {rest : List Char}
    (htest : test.toList = c :: rest) (hc : c ∉ ['?', '#', '.']) :
    ∃ rest', path.toList = c :: rest' := by
  simp only [List.mem_cons, List.not_mem_nil, or_false, not_or] at hc
  obtain ⟨hquery, hhash, hdot⟩ := hc
  rw [outputPath] at h
  dsimp only at h
  split at h
  · cases h
  · rename_i stem hstem
    obtain rfl := Except.ok.inj h
    have hpath : (String.ofList
        (test.toList.takeWhile fun c ↦ !(decide (c = '?') || decide (c = '#')))).toList =
          c :: rest.takeWhile fun c ↦ !(decide (c = '?') || decide (c = '#')) := by
      rw [String.toList_ofList, htest, List.takeWhile_cons]
      simp [hquery, hhash]
    obtain ⟨rest', rfl⟩ := exists_cons_of_stem? hstem hpath hdot
    rw [String.toList_append, String.toList_append, String.toList_ofList]
    exact ⟨_, rfl⟩

end TestName

/-- A test is named below one of three directories. -/
theorem TestId.exists_cons_of_name (test : TestId) :
    ∃ c ∈ ['e', 'w', 'v'], ∃ rest, test.name.toList = c :: rest := by
  rw [name, TestName.full]
  split
  · rw [String.toList_append, String.toList_append, String.toList_append]
    exact ⟨'v', by decide, _, rfl⟩
  · obtain ⟨c, hc, hbase⟩ := TestName.exists_cons_of_base test.test
    exact ⟨c, List.mem_append_left ['v'] hc, hbase⟩

/-! ## Files of one test -/

namespace Extraction

/-- What tells a file of a kind from other files about a test. -/
def FileKind.tail (k : FileKind) : List Char := (k.suffix ++ k.extension).toList

/-- No kind of file is named like another with something before it. -/
theorem tail_apart : ∀ k ∈ kinds, ∀ k' ∈ kinds, k.tail <:+ k'.tail → k = k' := by
  decide

theorem slash_notMem_tail : ∀ k ∈ kinds, '/' ∉ k.tail := by
  decide

theorem dash_mem_tail : ∀ k ∈ kinds, '-' ∈ k.tail := by
  decide

theorem FileKind.exists_of_path {k : FileKind} {test path : String} (h : k.path test = .ok path) :
    ∃ stem, TestName.fileStem test = .ok stem ∧ path.toList = stem.toList ++ k.tail :=
  TestName.exists_of_outputPath h

/-- **Files at one path are of one kind, and of tests with one stem.** -/
theorem stem_of_path_eq {k k' : FileKind} (hk : k ∈ kinds) (hk' : k' ∈ kinds)
    {test test' path : String} (h : k.path test = .ok path) (h' : k'.path test' = .ok path) :
    k = k' ∧ TestName.fileStem test = TestName.fileStem test' := by
  obtain ⟨stem, hstem, hpath⟩ := FileKind.exists_of_path h
  obtain ⟨stem', hstem', hpath'⟩ := FileKind.exists_of_path h'
  have hsame : k = k' := by
    rcases List.suffix_or_suffix_of_suffix ⟨stem.toList, hpath.symm⟩ ⟨stem'.toList, hpath'.symm⟩
      with hsuffix | hsuffix
    · exact tail_apart k hk k' hk' hsuffix
    · exact (tail_apart k' hk' k hk hsuffix).symm
  rw [hpath, hsame] at hpath'
  rw [hstem, hstem', String.toList_inj.mp (List.append_cancel_right hpath')]
  exact ⟨hsame, rfl⟩

end Extraction

end WebTestRun
