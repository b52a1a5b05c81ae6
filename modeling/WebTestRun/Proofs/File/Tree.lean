import WebTestRun.Artifact.Store
import WebTestRun.Proofs.Collection.Answer
import WebTestRun.Proofs.File.Path

/-!
# Files that are written and read

A file that is written reads as what was written. All other files read as before: whatever the
path, from the root or from the working directory, a file is where the names lead that are left once
its dots are resolved.

* `Path.place` is where a path leads to: `FileTree.locate_eq_place`.
* `FileTree.AddsDirectories` — what creating directories does.
* `FileTree.Holds` — the file that a path leads to, and `Artifact.holds_writeFile` — where files are
  once one was written.
* `Artifact.read_writeFile`, `Artifact.read_writeFile_of_read` — a file that is written, and the
  others, as they are read.
-/

set_option autoImplicit false

namespace WebTestRun

/-! ## Where paths lead -/

namespace Path

theorem Named.step {names : List String} (h : Named names) {segment : String}
    (hslash : '/' ∉ segment.toList) : Named (step names segment) := by
  rw [Path.step]
  split
  · exact h
  · rename_i hplain
    rw [Bool.or_eq_true, decide_eq_true_eq, decide_eq_true_eq, not_or] at hplain
    split
    · exact fun name hname ↦ h name (List.dropLast_subset _ hname)
    · rename_i hup
      have hname : IsName segment := ⟨hplain.1, hplain.2, hup⟩
      exact List.forall_mem_append.mpr ⟨h, List.forall_mem_singleton.mpr ⟨hname, hslash⟩⟩

theorem Named.foldl {names : List String} (h : Named names) {segments : List String}
    (hsegments : ∀ s ∈ segments, '/' ∉ s.toList) : Named (segments.foldl Path.step names) := by
  induction segments generalizing names with
  | nil => exact h
  | cons s segments ih =>
    obtain ⟨hs, hsegments⟩ := List.forall_mem_cons.mp hsegments
    exact ih (h.step hs) hsegments

/-- Every path leads along names. -/
theorem Named.place {here : List String} (h : Named here) (p : String) :
    Named (place here p) := by
  refine Named.foldl ?_ fun _ hs ↦ slash_notMem_of_mem_segments hs
  rw [origin]
  split
  · exact List.forall_mem_nil _
  · exact h

end Path

namespace FileTree

variable {t t' : FileTree}

/-- Different locations have different keys. -/
theorem key_injective {l m : List String} (hl : Path.Named l) (hm : Path.Named m)
    (h : key l = key m) : l = m := by
  have hkey (l : List String) : (key l).toList = ['/'].intercalate (l.map String.toList) := by
    rw [key, String.toList_intercalate]
    rfl
  have hnil {l : List String} (hl : Path.Named l) (h : (key l).toList = []) : l = [] := by
    cases l with
    | nil => rfl
    | cons name l =>
      have hname : name.toList ≠ [] := by simpa using (hl name List.mem_cons_self).1.1
      rw [hkey] at h
      cases l <;> simp [List.intercalate_cons_cons, hname] at h
  have hsplit {l : List String} (hl : Path.Named l) (hne : l ≠ []) :
      (key l).toList.splitOn '/' = l.map String.toList := by
    rw [hkey]
    refine List.splitOn_intercalate '/' (fun s hs ↦ ?_) (by simpa using hne)
    obtain ⟨name, hname, rfl⟩ := List.mem_map.mp hs
    exact (hl name hname).2
  have hlist : (key l).toList = (key m).toList := congrArg String.toList h
  by_cases hempty : (key l).toList = []
  · rw [hnil hl hempty, hnil hm (hlist ▸ hempty)]
  · have hl' : l ≠ [] := fun e ↦ hempty (by rw [e]; rfl)
    have hm' : m ≠ [] := fun e ↦ hempty (by rw [hlist, e]; rfl)
    have hmap : l.map String.toList = m.map String.toList := by
      rw [← hsplit hl hl', ← hsplit hm hm', hlist]
    exact List.map_injective_iff.mpr (fun a b hab ↦ String.toList_inj.mp hab) hmap

/-- A location is told from a path alone. -/
theorem followAll_eq {location target : List String} {segments : List String}
    (h : segments.foldlM t.follow location = .ok target) :
    target = segments.foldl Path.step location := by
  induction segments generalizing location with
  | nil => exact (Except.ok.inj h).symm
  | cons s segments ih =>
    rw [List.foldlM_cons] at h
    obtain ⟨next, hnext, h⟩ := Answer.bind_eq_ok_iff.mp h
    obtain ⟨-, -, hnext⟩ := Answer.bind_eq_ok_iff.mp hnext
    split at hnext
    · cases hnext
    · rw [List.foldl_cons, Except.ok.inj hnext]
      exact ih h

theorem locate_eq_place {p : String} {location : List String} (h : t.locate p = .ok location) :
    location = Path.place t.here p := by
  obtain ⟨-, -, h⟩ := Answer.bind_eq_ok_iff.mp h
  exact followAll_eq h

/-! ## Directories that stay -/

/-- Every directory of one tree is one of the other, and both are seen from the same one. -/
structure KeepsDirectories (t t' : FileTree) : Prop where
  here : t'.here = t.here
  stays (location : List String) (h : t.at? location = some .directory) :
    t'.at? location = some .directory

/-- One tree has directories where nothing is in the other, and else the two are the same. -/
structure AddsDirectories (t t' : FileTree) : Prop where
  here : t'.here = t.here
  same_or_new (location : List String) : t'.at? location = t.at? location ∨
    (t.at? location = none ∧ t'.at? location = some .directory)

theorem AddsDirectories.refl (t : FileTree) : t.AddsDirectories t := ⟨rfl, fun _ ↦ .inl rfl⟩

theorem AddsDirectories.trans {t'' : FileTree} (h : t.AddsDirectories t')
    (h' : t'.AddsDirectories t'') : t.AddsDirectories t'' := by
  refine ⟨h'.here.trans h.here, fun location ↦ ?_⟩
  rcases h'.same_or_new location with hsame | ⟨hnone, hnew⟩
  · rw [hsame]
    exact h.same_or_new location
  · rcases h.same_or_new location with hsame' | ⟨hnone', -⟩
    · exact .inr ⟨hsame' ▸ hnone, hnew⟩
    · exact .inr ⟨hnone', hnew⟩

theorem AddsDirectories.keepsDirectories (h : t.AddsDirectories t') : t.KeepsDirectories t' := by
  refine ⟨h.here, fun location hdirectory ↦ ?_⟩
  rcases h.same_or_new location with hsame | ⟨-, hnew⟩
  · rw [hsame, hdirectory]
  · exact hnew

theorem requireDirectory_eq_ok_iff {location : List String} :
    t.requireDirectory location = .ok () ↔ t.at? location = some .directory := by
  rw [requireDirectory]
  split <;> simp_all

theorem KeepsDirectories.followAll (h : t.KeepsDirectories t') {segments : List String}
    {location target : List String} (hfollow : segments.foldlM t.follow location = .ok target) :
    segments.foldlM t'.follow location = .ok target := by
  induction segments generalizing location with
  | nil => exact hfollow
  | cons s segments ih =>
    rw [List.foldlM_cons] at hfollow ⊢
    obtain ⟨next, hnext, hfollow⟩ := Answer.bind_eq_ok_iff.mp hfollow
    obtain ⟨u, hdirectory, hnext'⟩ := Answer.bind_eq_ok_iff.mp hnext
    have hdirectory := h.stays location (requireDirectory_eq_ok_iff.mp hdirectory)
    have hnext : t'.follow location s = .ok next :=
      Answer.bind_eq_ok_iff.mpr ⟨(), requireDirectory_eq_ok_iff.mpr hdirectory, hnext'⟩
    exact Answer.bind_eq_ok_iff.mpr ⟨next, hnext, ih hfollow⟩

theorem KeepsDirectories.locate (h : t.KeepsDirectories t') {p : String} {location : List String}
    (hlocate : t.locate p = .ok location) : t'.locate p = .ok location := by
  obtain ⟨u, hcheck, hfollow⟩ := Answer.bind_eq_ok_iff.mp hlocate
  exact Answer.bind_eq_ok_iff.mpr ⟨u, hcheck, h.followAll (h.here ▸ hfollow)⟩

/-- A file with some contents is where a path leads to. -/
def Holds (t : FileTree) (p : String) (contents : ByteArray) : Prop :=
  t.at? (Path.place t.here p) = some (.file contents)

theorem AddsDirectories.holds_iff (h : t.AddsDirectories t') {p : String} {contents : ByteArray} :
    t'.Holds p contents ↔ t.Holds p contents := by
  rw [Holds, Holds, h.here]
  rcases h.same_or_new (Path.place t.here p) with hsame | ⟨hnone, hnew⟩
  · rw [hsame]
  · simp [hnone, hnew]

theorem read_eq_ok_iff {p : String} {contents : ByteArray} :
    t.read p = .ok contents ↔
      ∃ location, t.locate p = .ok location ∧ t.at? location = some (.file contents) := by
  rw [read, Answer.bind_eq_ok_iff]
  refine exists_congr fun location ↦ and_congr_right fun _ ↦ ?_
  cases t.at? location with
  | none => simp
  | some node => cases node <;> simp

theorem read_eq_ok_iff_holds {p : String} {contents : ByteArray} :
    t.read p = .ok contents ↔ (∃ location, t.locate p = .ok location) ∧ t.Holds p contents := by
  have hplace {location : List String} (hlocate : t.locate p = .ok location) :
      t.at? location = some (.file contents) ↔ t.Holds p contents := by
    rw [Holds, ← locate_eq_place hlocate]
  rw [read_eq_ok_iff]
  constructor
  · rintro ⟨location, hlocate, hfile⟩
    exact ⟨⟨location, hlocate⟩, (hplace hlocate).mp hfile⟩
  · rintro ⟨⟨location, hlocate⟩, hfile⟩
    exact ⟨location, hlocate, (hplace hlocate).mpr hfile⟩

theorem AddsDirectories.read (h : t.AddsDirectories t') {p : String} {contents : ByteArray}
    (hread : t.read p = .ok contents) : t'.read p = .ok contents := by
  obtain ⟨⟨location, hlocate⟩, hfile⟩ := read_eq_ok_iff_holds.mp hread
  exact read_eq_ok_iff_holds.mpr
    ⟨⟨location, h.keepsDirectories.locate hlocate⟩, h.holds_iff.mpr hfile⟩

/-! ## One entry more -/

@[simp] theorem put_here (t : FileTree) (target : List String) (node : Node) :
    (t.put target node).here = t.here := rfl

theorem at?_put (t : FileTree) (target : List String) (node : Node) (location : List String) :
    (t.put target node).at? location =
      if !location.isPrefixOf t.here && key target == key location then some node
      else t.at? location := by
  rw [at?, at?, put_here]
  split
  · simp [*]
  · rw [put, Keyed.find?_insert]
    simp [*]

theorem createDir_adds {p : String} (h : t.createDir p = .ok t') : t.AddsDirectories t' := by
  obtain ⟨-, -, h⟩ := Answer.bind_eq_ok_iff.mp h
  dsimp only at h
  obtain ⟨target, -, h⟩ := Answer.bind_eq_ok_iff.mp h
  cases hat : t.at? target with
  | some node => simp [hat] at h
  | none =>
    rw [hat] at h
    obtain rfl := Except.ok.inj h
    have htarget : ¬ target.isPrefixOf t.here := by
      intro habove
      rw [at?, if_pos habove] at hat
      cases hat
    refine ⟨rfl, fun location ↦ ?_⟩
    rw [at?_put]
    split
    · -- Nothing was at the new directory, and so nothing was at `location`.
      rename_i hkey
      rw [Bool.and_eq_true, Bool.not_eq_true', beq_iff_eq] at hkey
      rw [at?, if_neg htarget] at hat
      rw [at?, hkey.1, if_neg Bool.false_ne_true, ← hkey.2]
      exact .inr ⟨hat, rfl⟩
    · exact .inl rfl

theorem createDirsUpTo_adds {n : Nat} {p : String} (h : createDirsUpTo n t p = .ok t') :
    t.AddsDirectories t' := by
  induction n generalizing t t' p with
  | zero => cases h
  | succ n ih =>
    rw [createDirsUpTo] at h
    split at h
    · exact Except.ok.inj h ▸ .refl t
    · split at h
      · rename_i hcreate
        exact Except.ok.inj h ▸ createDir_adds hcreate
      · split at h
        · cases h
        · obtain ⟨between, hbetween, h⟩ := Answer.bind_eq_ok_iff.mp h
          split at h
          · rename_i hcreate
            exact (ih hbetween).trans (Except.ok.inj h ▸ createDir_adds hcreate)
          · split at h
            · exact Except.ok.inj h ▸ ih hbetween
            · cases h
      · split at h
        · exact Except.ok.inj h ▸ .refl t
        · cases h

/-! ## A file that is written -/

/-- What writing a file does: it was located, and its contents are put there. -/
theorem write_eq_ok {p : String} {contents : ByteArray} (h : t.write p contents = .ok t') :
    ∃ target, t.locate p = .ok target ∧ t.at? target ≠ some .directory ∧
      t' = t.put target (.file contents) := by
  obtain ⟨u, hcheck, h⟩ := Answer.bind_eq_ok_iff.mp h
  dsimp only at h
  obtain ⟨location, hlocation, h⟩ := Answer.bind_eq_ok_iff.mp h
  obtain ⟨v, hdirectory, h⟩ := Answer.bind_eq_ok_iff.mp h
  generalize hname : (Path.segments p).getLast?.getD "" = name at h
  split at h
  · cases h
  · rename_i hplain
    split at h
    · cases h
    · rename_i hlength
      split at h
      · cases h
      · rename_i hfile
        simp only [Bool.or_eq_true, decide_eq_true_eq, not_or] at hplain
        obtain ⟨⟨hempty, hdot⟩, hup⟩ := hplain
        have hsegments : Path.segments p = (Path.segments p).dropLast ++ [name] := by
          have hlast : (Path.segments p).getLast? = some name := by
            cases hl : (Path.segments p).getLast? with
            | none =>
              rw [hl] at hname
              exact absurd hname.symm hempty
            | some last =>
              rw [hl] at hname
              rw [← hname, Option.getD_some]
          obtain ⟨front, hfront⟩ := List.getLast?_eq_some_iff.mp hlast
          rw [hfront, List.dropLast_concat]
        have hfollow : t.follow location name = .ok (location ++ [name]) := by
          refine Answer.bind_eq_ok_iff.mpr ⟨v, hdirectory, ?_⟩
          simp [hlength, Path.step, hempty, hdot, hup]
        refine ⟨location ++ [name], ?_, hfile, (Except.ok.inj h).symm⟩
        refine Answer.bind_eq_ok_iff.mpr ⟨u, hcheck, ?_⟩
        rw [hsegments, List.foldlM_append]
        refine Answer.bind_eq_ok_iff.mpr ⟨location, hlocation, ?_⟩
        rw [List.foldlM_cons, hfollow]
        rfl

/-- Only what is no directory can be written, and the working directory is one. -/
theorem isPrefixOf_here_eq_false {location : List String} (h : t.at? location ≠ some .directory) :
    location.isPrefixOf t.here = false := by
  rw [Bool.eq_false_iff]
  exact fun habove ↦ h (if_pos habove)

theorem write_keepsDirectories {p : String} {contents : ByteArray}
    (h : t.write p contents = .ok t') : t.KeepsDirectories t' := by
  obtain ⟨target, -, hfile, rfl⟩ := write_eq_ok h
  refine ⟨rfl, fun location hdirectory ↦ ?_⟩
  rw [at?_put]
  split
  · rename_i hkey
    rw [Bool.and_eq_true, Bool.not_eq_true', beq_iff_eq] at hkey
    rw [at?, hkey.1, if_neg Bool.false_ne_true, ← hkey.2] at hdirectory
    rw [at?, isPrefixOf_here_eq_false hfile, if_neg Bool.false_ne_true] at hfile
    exact absurd hdirectory hfile
  · exact hdirectory

/-- **Where files are once one was written**: it is where its path leads to, and all others are
where they were. -/
theorem holds_write {p q : String} {contents other : ByteArray}
    (h : t.write p contents = .ok t') :
    t'.Holds q other ↔ if Path.place t.here q = Path.place t.here p then contents = other
      else t.Holds q other := by
  obtain ⟨target, hlocate, hfile, rfl⟩ := write_eq_ok h
  obtain rfl := locate_eq_place hlocate
  rw [Holds, at?_put, put_here]
  by_cases hplace : Path.place t.here q = Path.place t.here p
  · rw [if_pos hplace, hplace, if_pos (by simp [isPrefixOf_here_eq_false hfile]),
      Option.some.injEq, Node.file.injEq]
  · rw [if_neg hplace, if_neg, Holds]
    intro hkey
    rw [Bool.and_eq_true, beq_iff_eq] at hkey
    exact hplace (key_injective (t.named.place q) (t.named.place p) hkey.2.symm)

/-- **A file that was written reads as what was written.** -/
theorem read_write {p : String} {contents : ByteArray} (h : t.write p contents = .ok t') :
    t'.read p = .ok contents := by
  obtain ⟨target, hlocate, -⟩ := write_eq_ok h
  refine read_eq_ok_iff_holds.mpr ⟨⟨target, (write_keepsDirectories h).locate hlocate⟩, ?_⟩
  rw [holds_write h, if_pos rfl]

/-- **A file that can be read still can be read**, and it is the same unless the paths lead to the
same place. -/
theorem read_write_of_read {p q : String} {contents other : ByteArray}
    (h : t.write p contents = .ok t') (hread : t.read q = .ok other) :
    t'.read q =
      .ok (if Path.place t.here q = Path.place t.here p then contents else other) := by
  obtain ⟨⟨location, hlocate⟩, hholds⟩ := read_eq_ok_iff_holds.mp hread
  refine read_eq_ok_iff_holds.mpr ⟨⟨location, (write_keepsDirectories h).locate hlocate⟩, ?_⟩
  rw [holds_write h]
  split
  · rfl
  · exact hholds

end FileTree

/-! ## A file that is written with its directories -/

namespace Artifact

variable {t t' : FileTree} {path : String} {contents : ByteArray}

/-- What `writeFile` does: directories come first, then the file, if nothing goes wrong. -/
theorem writeFile_spec (t : FileTree) (path : String) (contents : ByteArray) :
    ∃ between, t.AddsDirectories between ∧
      (((writeFile t path contents).2.isOk = false ∧ (writeFile t path contents).1 = between) ∨
        ((writeFile t path contents).2 = .ok () ∧
          between.write path contents = .ok (writeFile t path contents).1)) := by
  have hfinish (between : FileTree) :
      ((writeFile.finish path contents between).2.isOk = false ∧
          (writeFile.finish path contents between).1 = between) ∨
        ((writeFile.finish path contents between).2 = .ok () ∧
          between.write path contents = .ok (writeFile.finish path contents between).1) := by
    rw [writeFile.finish]
    split
    · rename_i hwrite
      exact .inr ⟨rfl, hwrite⟩
    · exact .inl ⟨rfl, rfl⟩
  rw [writeFile]
  split
  · exact ⟨t, .refl t, .inl ⟨rfl, rfl⟩⟩
  · rename_i hparent
    obtain ⟨parent, -, hdirs⟩ := Option.map_eq_some_iff.mp hparent
    exact ⟨_, FileTree.createDirsUpTo_adds (Prod.mk.inj hdirs).2, hfinish _⟩
  · exact ⟨t, .refl t, hfinish t⟩

/-- A file is written without another working directory. -/
@[simp] theorem writeFile_here (t : FileTree) (path : String) (contents : ByteArray) :
    (writeFile t path contents).1.here = t.here := by
  obtain ⟨between, hadds, hspec⟩ := writeFile_spec t path contents
  rcases hspec with ⟨-, hbetween⟩ | ⟨-, hwrite⟩
  · rw [hbetween, hadds.here]
  · rw [(FileTree.write_keepsDirectories hwrite).here, hadds.here]

/-- **Where files are once one was written with its directories**: it is where its path leads to,
and all others are where they were. -/
theorem holds_writeFile (h : (writeFile t path contents).2.isOk = true) {q : String}
    {other : ByteArray} :
    (writeFile t path contents).1.Holds q other ↔
      if Path.place t.here q = Path.place t.here path then contents = other
      else t.Holds q other := by
  obtain ⟨between, hadds, hspec⟩ := writeFile_spec t path contents
  rcases hspec with ⟨hfails, -⟩ | ⟨-, hwrite⟩
  · rw [hfails] at h
    cases h
  · rw [FileTree.holds_write hwrite, hadds.here, hadds.holds_iff]

/-- **A file that is written reads as what was written.** -/
theorem read_writeFile (h : (writeFile t path contents).2.isOk = true) :
    (writeFile t path contents).1.read path = .ok contents := by
  obtain ⟨between, -, hspec⟩ := writeFile_spec t path contents
  rcases hspec with ⟨hfails, -⟩ | ⟨-, hwrite⟩
  · rw [hfails] at h
    cases h
  · exact FileTree.read_write hwrite

/-- **A file that can be read still can be read**, and it is the same unless the other one could be
written and their paths lead to the same place. -/
theorem read_writeFile_eq {q : String} {other : ByteArray} (hread : t.read q = .ok other) :
    (writeFile t path contents).1.read q =
      .ok (if (writeFile t path contents).2.isOk = true ∧
          Path.place t.here q = Path.place t.here path
        then contents else other) := by
  obtain ⟨between, hadds, hspec⟩ := writeFile_spec t path contents
  have hstill := hadds.read hread
  rcases hspec with ⟨hfails, hbetween⟩ | ⟨hok, hwrite⟩
  · rw [hbetween, hstill, if_neg (by simp [hfails])]
  · rw [FileTree.read_write_of_read hwrite hstill, hadds.here, hok]
    simp [Except.isOk, Except.toBool]

/-- **A file that can be read still can be read**, whether or not the other one could be written. It
is the same, or the paths lead to the same place. -/
theorem read_writeFile_of_read {q : String} {other : ByteArray} (hread : t.read q = .ok other) :
    (writeFile t path contents).1.read q = .ok other ∨
      Path.place t.here q = Path.place t.here path ∧
        (writeFile t path contents).1.read q = .ok contents := by
  rw [read_writeFile_eq hread]
  split
  · rename_i hwritten
    exact .inr ⟨hwritten.2, rfl⟩
  · exact .inl rfl

end Artifact

end WebTestRun
