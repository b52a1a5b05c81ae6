import WebTestRun.Proofs.Collection.Answer
import WebTestRun.Layout

/-!
# The files that a baseline is searched in

What is found is the text of the first file that can be read as one, so it is the same in all trees
whose files read the same there.

* `Layout.Searches` — the paths at which the baseline of a test is searched.
* `Layout.firstReadable_eq_findSome?` — the first file that can be read.
* `Layout.expectedText_congr` — a baseline depends on the files that it is searched in.
-/

set_option autoImplicit false

namespace WebTestRun.Layout

/-- A path at which the baseline of a test is searched. -/
def Searches (l : Layout) (test path : String) : Prop :=
  ∃ candidate ∈ candidates test, ∃ name, baselineName candidate = .ok name ∧
    ∃ dir ∈ l.searchDirs, path = Path.join dir name

theorem firstReadable_eq_findSome? (t : FileTree) (test : String) (paths : List String) :
    (firstReadable t test paths).1 = paths.findSome? fun path ↦ (t.readText path).toOption := by
  induction paths with
  | nil => rfl
  | cons path paths ih =>
    rw [firstReadable, List.findSome?_cons]
    split
    · rename_i h
      rw [h]
      rfl
    · rename_i h
      rw [h]
      exact ih
    · rename_i h
      rw [h]
      exact ih

theorem firstReadable_congr {t t' : FileTree} (test test' : String) {paths : List String}
    (h : ∀ path ∈ paths, (t.readText path).toOption = (t'.readText path).toOption) :
    (firstReadable t test paths).1 = (firstReadable t' test' paths).1 := by
  rw [firstReadable_eq_findSome?, firstReadable_eq_findSome?]
  induction paths with
  | nil => rfl
  | cons path paths ih =>
    rw [List.findSome?_cons, List.findSome?_cons, h path List.mem_cons_self,
      ih fun q hq ↦ h q (List.mem_cons_of_mem path hq)]

theorem firstBaseline_congr {l : Layout} {t t' : FileTree} {test test' : String}
    {tests : List String}
    (h : ∀ candidate ∈ tests, ∀ name, baselineName candidate = .ok name → ∀ dir ∈ l.searchDirs,
      (t.readText (Path.join dir name)).toOption = (t'.readText (Path.join dir name)).toOption) :
    (l.firstBaseline t test tests).map (·.1) = (l.firstBaseline t' test' tests).map (·.1) := by
  induction tests with
  | nil => rfl
  | cons candidate tests ih =>
    have hrest := ih fun c hc ↦ h c (List.mem_cons_of_mem _ hc)
    rw [firstBaseline, firstBaseline]
    simp only [bind, Except.bind]
    cases hname : baselineName candidate with
    | error e => rfl
    | ok name =>
      have hfirst : (firstReadable t test (l.searchDirs.map fun dir ↦ Path.join dir name)).1 =
          (firstReadable t' test' (l.searchDirs.map fun dir ↦ Path.join dir name)).1 := by
        refine firstReadable_congr test test' fun path hpath ↦ ?_
        obtain ⟨dir, hdir, rfl⟩ := List.mem_map.mp hpath
        exact h candidate List.mem_cons_self name hname dir hdir
      simp only [hfirst]
      split
      · rfl
      · cases hr : l.firstBaseline t test tests <;> cases hr' : l.firstBaseline t' test' tests <;>
          simp_all [Except.map]

/-- The baseline of a test is the same if all files that it is searched in read the same. -/
theorem expectedText_congr {l : Layout} {t t' : FileTree} {test : String}
    (h : ∀ path, l.Searches test path →
      (t.readText path).toOption = (t'.readText path).toOption) :
    (l.expectedText t test).map (·.1) = (l.expectedText t' test).map (·.1) :=
  firstBaseline_congr fun candidate hcandidate name hname dir hdir ↦
    h _ ⟨candidate, hcandidate, name, hname, dir, hdir, rfl⟩

end WebTestRun.Layout
