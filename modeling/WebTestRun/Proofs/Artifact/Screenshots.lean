import WebTestRun.Proofs.Artifact.Reset
import WebTestRun.Proofs.Image.Difference

/-!
# What is kept of screenshots

An attempt may have many screenshots: of the test, of several pages it should look like, each
repeated. Only the last one of the test and the last one of another page are kept, and it is these
two whose files are compared. What is said of their difference, and the image that shows it, are
always about the two files.

* `Extraction.Keeps` — an artifact is recorded and its file holds some bytes, and
  `performAll_kept` — which bytes of a plan these are: the last ones.
* `Screenshot.shown?`, `imagesOf` — the images of the test, or of other pages.
* `Gathered` — the steps to some screenshots, and `shotStep_gathered` — one screenshot more.
* `Pictures` — the kept screenshots and what is said of them, and `writeShots_pictures`.
-/

set_option autoImplicit false

namespace WebTestRun

namespace Extraction

/-! ## What a plan leaves -/

theorem eq_of_id_eq : ∀ k ∈ ownKinds, ∀ k' ∈ ownKinds, k'.id = k.id → k' = k := by
  decide

/-- What a step writes into an artifact that is recorded under an identifier, if it does. -/
def Write.contents? (id : String) : Write → Option ByteArray
  | .artifact id' _ contents => if id' = id then some contents else none
  | .baseline .. | .note _ => none

theorem Write.contents?_eq_some_iff {id : String} {s : Write} {contents : ByteArray} :
    s.contents? id = some contents ↔ ∃ subpath, s = .artifact id subpath contents := by
  cases s with
  | artifact id' subpath contents' => simp [contents?]
  | baseline => simp [contents?]
  | note => simp [contents?]

variable {x : Extraction} {iteration : Nat} {w : Writing} {steps : List Write} {test : String}
  {k : FileKind}

theorem AllLeave.path_of_mem (h : AllLeave ownKinds test steps) (hk : k ∈ ownKinds)
    {subpath : String} {contents : ByteArray} (hmem : .artifact k.id subpath contents ∈ steps) :
    k.path test = .ok subpath := by
  obtain ⟨k', hk', hid, hpath⟩ := h _ hmem
  rw [eq_of_id_eq k hk k' hk' hid] at hpath
  exact hpath

/-- Where a file of a kind lies, steps put what they write into artifacts of that kind. -/
theorem AllLeave.puts_eq (h : AllLeave ownKinds test steps) (hk : k ∈ ownKinds) {path : String}
    (hpath : k.path test = .ok path) (here : List String) :
    steps.filterMap (Write.puts? x iteration here (x.store.file iteration path)) =
      steps.filterMap (Write.contents? k.id) := by
  refine List.filterMap_congr fun s hs ↦ ?_
  have hleaves := h s hs
  cases s with
  | artifact id subpath contents =>
    obtain ⟨k', hk', rfl, hpath'⟩ := hleaves
    rw [Write.puts?, Write.file?, Option.bind_some, Write.contents?]
    by_cases hsame : k' = k
    · obtain rfl := hsame
      obtain rfl := Except.ok.inj (hpath.symm.trans hpath')
      rw [if_pos rfl, if_pos rfl]
    · have hown : ownKinds ⊆ kinds := List.subset_append_left _ _
      rw [if_neg fun hplace ↦ hsame (FileKind.eq_of_place (hown hk') (hown hk) hpath' hpath hplace),
        if_neg fun hid ↦ hsame (eq_of_id_eq k hk k' hk' hid)]
  | baseline => exact hleaves.elim
  | note => rfl

/-- What is recorded of steps that write one file only under an identifier. -/
theorem get?_recordAll_of_path {id : String} (path : String) {m : Artifact.Map}
    (hm : m.get? id = none ∨ m.get? id = some [x.store.recorded iteration path])
    (h : ∀ subpath contents, .artifact id subpath contents ∈ steps → subpath = path) :
    (x.recordAll iteration m steps).get? id =
      if steps.filterMap (Write.contents? id) = [] then m.get? id
      else some [x.store.recorded iteration path] := by
  induction steps generalizing m with
  | nil => rfl
  | cons s steps ih =>
    have hrest : ∀ subpath contents, .artifact id subpath contents ∈ steps → subpath = path :=
      fun subpath contents hmem ↦ h subpath contents (List.mem_cons_of_mem s hmem)
    rw [recordAll, List.foldl_cons, ← recordAll]
    cases hs : s.contents? id with
    | none =>
      have hsame : (x.record iteration m s).get? id = m.get? id := by
        cases s with
        | artifact id' subpath contents =>
          rw [record, Artifact.Map.get?_add, if_neg (by simpa [Write.contents?] using hs)]
        | baseline => rfl
        | note => rfl
      rw [ih (hsame ▸ hm) hrest, hsame, List.filterMap_cons_none hs]
    | some contents =>
      obtain ⟨subpath, rfl⟩ := Write.contents?_eq_some_iff.mp hs
      obtain rfl := h subpath contents List.mem_cons_self
      have hadded : (x.record iteration m (.artifact id subpath contents)).get? id =
          some [x.store.recorded iteration subpath] := by
        rw [record, Artifact.Map.get?_add, if_pos rfl, Artifact.Map.paths]
        rcases hm with hm | hm <;> simp [hm]
      rw [ih (.inr hadded) hrest, hadded, ite_self, List.filterMap_cons_some hs,
        if_neg (List.cons_ne_nil _ _)]

/-- The artifact of a kind is recorded, and its file holds some bytes. -/
def Keeps (x : Extraction) (iteration : Nat) (w : Writing) (test : String) (k : FileKind)
    (bytes : ByteArray) : Prop :=
  ∃ path, k.path test = .ok path ∧
    w.recorded.get? k.id = some [x.store.recorded iteration path] ∧
    w.files.read (x.store.file iteration path) = .ok bytes

/-- The artifact of a kind is recorded if bytes were put into it, and its file holds the last. -/
structure KeepsLast (x : Extraction) (iteration : Nat) (w : Writing) (test : String) (k : FileKind)
    (put : List ByteArray) : Prop where
  /-- The artifact is recorded if something was put into it. -/
  contains_iff : w.recorded.contains k.id = true ↔ put ≠ []
  /-- The file holds what was put into it last. -/
  keeps_iff (bytes : ByteArray) : x.Keeps iteration w test k bytes ↔ put.getLast? = some bytes

/-- **What a plan leaves in a file** is what it puts there last. -/
theorem performAll_kept (h : x.AllSucceed iteration w steps) (hleave : AllLeave ownKinds test steps)
    (hk : k ∈ ownKinds) (hnew : w.recorded.get? k.id = none) :
    x.KeepsLast iteration (x.performAll iteration w steps) test k
      (steps.filterMap (Write.contents? k.id)) := by
  cases hput : (steps.filterMap (Write.contents? k.id)).getLast? with
  | none =>
    have hnone := List.getLast?_eq_none_iff.mp hput
    have hrecorded : (x.performAll iteration w steps).recorded.get? k.id = none := by
      rw [performAll_recorded x iteration h.writes,
        get?_recordAll_of_path "" (.inl hnew) fun subpath contents hmem ↦ ?_, hnone,
        if_pos rfl, hnew]
      have hsome := List.mem_filterMap.mpr
        ⟨_, hmem, Write.contents?_eq_some_iff.mpr ⟨subpath, rfl⟩⟩
      rw [hnone] at hsome
      cases hsome
    refine ⟨?_, fun bytes ↦ ?_⟩
    · simp [Artifact.Map.contains, hrecorded, hnone]
    · simp [Keeps, hrecorded, hnone]
  | some last =>
    obtain ⟨s, hs, hlast⟩ := List.mem_filterMap.mp (List.mem_of_getLast? hput)
    obtain ⟨path, rfl⟩ := Write.contents?_eq_some_iff.mp hlast
    have hpath := hleave.path_of_mem hk hs
    have hne : steps.filterMap (Write.contents? k.id) ≠ [] := by
      intro hnone
      rw [hnone] at hput
      cases hput
    have hrecorded : (x.performAll iteration w steps).recorded.get? k.id =
        some [x.store.recorded iteration path] := by
      rw [performAll_recorded x iteration h.writes, get?_recordAll_of_path path (.inl hnew)
        fun subpath contents hmem ↦
          Except.ok.inj ((hleave.path_of_mem hk hmem).symm.trans hpath), if_neg hne]
    have hread : (x.performAll iteration w steps).files.read (x.store.file iteration path) =
        .ok last := by
      obtain ⟨contents, hcontents⟩ := exists_read_of_mem h hs rfl
      have hholds := (FileTree.read_eq_ok_iff_holds.mp hcontents).2
      rw [holds_performAll h, hleave.puts_eq hk hpath, FileTree.HoldsAfter, hput] at hholds
      rw [hcontents, hholds]
    refine ⟨?_, fun bytes ↦ ⟨?_, ?_⟩⟩
    · simp [Artifact.Map.contains, hrecorded, hne]
    · rintro ⟨path', hpath', -, hread'⟩
      obtain rfl := Except.ok.inj (hpath.symm.trans hpath')
      rw [hput, Except.ok.inj (hread.symm.trans hread')]
    · intro hbytes
      obtain rfl := Option.some.inj (hput.symm.trans hbytes)
      exact ⟨path, hpath, hrecorded, hread⟩

end Extraction

/-! ## Images of screenshots -/

/-- The page that a screenshot shows, without a slash in front, and its image. Only a screenshot
whose data can be read shows one. -/
def Screenshot.shown? : Screenshot → Option (String × ByteArray)
  | .relation _ => none
  | .image url data =>
    (Base64.decode? (String.ofList (Text.trim data.toList))).map fun bytes ↦
      (TestName.withoutSlash url, bytes)

namespace Extraction

open Answer (Gives)

/-- The image of a screenshot, if it is one of the test itself, or of another page. -/
def imageOf? (test : String) (own : Bool) (s : Screenshot) : Option ByteArray :=
  s.shown?.bind fun shown ↦ if decide (shown.1 = urlOf test) = own then some shown.2 else none

/-- The images of the test itself, or of other pages. -/
def imagesOf (test : String) (own : Bool) (screenshots : List Screenshot) : List ByteArray :=
  screenshots.filterMap (imageOf? test own)

/-- How the last image of the test differs from that of another page. -/
def lastDifference? (test : String) (screenshots : List Screenshot) : Option Image.Difference := do
  let expected ← (imagesOf test false screenshots).getLast?
  let actual ← (imagesOf test true screenshots).getLast?
  (Image.compareFiles expected actual).toOption.join

theorem imagesOf_concat (test : String) (own : Bool) (screenshots : List Screenshot)
    (s : Screenshot) :
    imagesOf test own (screenshots ++ [s]) =
      imagesOf test own screenshots ++ (imageOf? test own s).toList := by
  rw [imagesOf, List.filterMap_append, ← imagesOf, List.filterMap_cons, List.filterMap_nil]
  cases imageOf? test own s <;> rfl

/-- The file of a screenshot of the test. -/
def actualImage : FileKind := ⟨"actual_image", "-actual", ".png"⟩

/-- The file of a screenshot of what the test should look like. -/
def expectedImage : FileKind := ⟨"expected_image", "-expected", ".png"⟩

/-- The file that shows how the screenshots differ. -/
def imageDiff : FileKind := ⟨"image_diff", "-diff", ".png"⟩

/-! ## Steps to the screenshots -/

/-- The file of the images of the test itself, or of other pages. -/
def imageKind (own : Bool) : FileKind := if own then actualImage else expectedImage

/-- The image that is remembered of the test itself, or of another page. -/
def Shots.last? (shots : Shots) (own : Bool) : Option ByteArray :=
  if own then shots.actual else shots.expected

/-- Another image is remembered. -/
def Shots.put (shots : Shots) (own : Bool) (bytes : ByteArray) : Shots :=
  if own then { shots with actual := some bytes } else { shots with expected := some bytes }

theorem Shots.last?_put (shots : Shots) (own which : Bool) (bytes : ByteArray) :
    (shots.put own bytes).last? which = if own = which then some bytes else shots.last? which := by
  cases own <;> cases which <;> rfl

theorem filterMap_contents?_image (own which : Bool) (path : String) (bytes : ByteArray) :
    [Write.artifact (imageKind own).id path bytes].filterMap
      (Write.contents? (imageKind which).id) = if own = which then [bytes] else [] := by
  cases own <;> cases which <;> rfl

/-- Steps to screenshots, and the images that are remembered then. -/
structure Gathered (test : String) (seen : List Screenshot) (t : Shots × List Write) : Prop where
  leave : AllLeave ownKinds test t.2
  /-- What is remembered is the last image. -/
  last (own : Bool) : t.1.last? own = (imagesOf test own seen).getLast?
  /-- Every image is put into its file. -/
  steps (own : Bool) : t.2.filterMap (Write.contents? (imageKind own).id) = imagesOf test own seen
  diffSteps : t.2.filterMap (Write.contents? imageDiff.id) = []

namespace Gathered

variable {test : String} {seen : List Screenshot} {t : Shots × List Write} {s : Screenshot}

theorem nil (test : String) : Gathered test [] ({}, []) :=
  ⟨.nil, fun own ↦ by cases own <;> rfl, fun _ ↦ rfl, rfl⟩

/-- Nothing happens at a screenshot without an image. -/
theorem skip (h : Gathered test seen t) (hs : s.shown? = none) : Gathered test (seen ++ [s]) t := by
  have himages (own : Bool) : imagesOf test own (seen ++ [s]) = imagesOf test own seen := by
    rw [imagesOf_concat, imageOf?, hs]
    exact List.append_nil _
  exact ⟨h.leave, fun own ↦ by rw [himages, h.last], fun own ↦ by rw [himages, h.steps],
    h.diffSteps⟩

/-- It does not matter what is said. -/
theorem note (h : Gathered test seen t) (log : Log) :
    Gathered test seen (t.1, t.2 ++ [.note log]) where
  leave := h.leave.append (AllLeave.note log)
  last := h.last
  steps own := by
    rw [List.filterMap_append, h.steps]
    exact List.append_nil _
  diffSteps := by
    rw [List.filterMap_append, h.diffSteps]
    rfl

/-- An image is put into the file of its kind, and remembered. -/
theorem image (h : Gathered test seen t) {page : String} {bytes : ByteArray}
    (hs : s.shown? = some (page, bytes)) {own : Bool} (hpage : decide (page = urlOf test) = own)
    {path : String} (hpath : (imageKind own).path test = .ok path) :
    Gathered test (seen ++ [s])
      (t.1.put own bytes, t.2 ++ [.artifact (imageKind own).id path bytes]) := by
  have himages (which : Bool) : imagesOf test which (seen ++ [s]) =
      imagesOf test which seen ++ if own = which then [bytes] else [] := by
    rw [imagesOf_concat, imageOf?, hs, Option.bind_some, hpage]
    split <;> rfl
  have hkind : imageKind own ∈ ownKinds := by cases own <;> decide
  refine ⟨h.leave.append (AllLeave.artifact _ hkind hpath bytes), fun which ↦ ?_,
    fun which ↦ ?_, ?_⟩
  · rw [Shots.last?_put, himages, h.last]
    split
    · rw [List.getLast?_concat]
    · rw [List.append_nil]
  · rw [List.filterMap_append, h.steps, himages, filterMap_contents?_image]
  · have hother : imageKind own ≠ imageDiff := by cases own <;> decide
    rw [List.filterMap_append, h.diffSteps]
    exact List.filterMap_cons_none (if_neg fun hid ↦ hother (eq_of_id_eq _ (by decide) _ hkind hid))

end Gathered

variable {test : String} {seen : List Screenshot} {t : Shots × List Write}

/-- **One screenshot more** is put into the file of its kind and remembered, or nothing happens. -/
theorem shotStep_gathered (h : Gathered test seen t) (s : Screenshot) :
    Gives (Gathered test (seen ++ [s])) (shotStep test t s) := by
  cases s with
  | relation text => exact .ok (h.skip rfl)
  | image url data =>
    rw [shotStep]
    dsimp only
    split
    · rename_i hdata
      exact .ok ((h.skip (by rw [Screenshot.shown?, hdata]; rfl)).note _)
    · rename_i bytes hdata
      have hshown : (Screenshot.image url data).shown? =
          some (TestName.withoutSlash url, bytes) := by
        rw [Screenshot.shown?, hdata]
        rfl
      split
      · rename_i hurl
        have hpage := decide_eq_true hurl
        exact (Gives.self _).map fun path hpath ↦ h.image hshown hpage hpath
      · rename_i hurl
        have hpage := decide_eq_false hurl
        exact (Gives.self _).map fun path hpath ↦ h.image hshown hpage hpath

/-- **All screenshots** are put into the files of their kinds, and the last ones remembered. -/
theorem foldlM_gathered (h : Gathered test seen t) (screenshots : List Screenshot) :
    Gives (Gathered test (seen ++ screenshots)) (screenshots.foldlM (shotStep test) t) := by
  induction screenshots generalizing seen t with
  | nil => exact .ok (by rwa [List.append_nil])
  | cons s screenshots ih =>
    rw [List.append_cons]
    exact (shotStep_gathered h s).bind fun t' h' ↦ ih h'

/-! ## Steps to a difference -/

/-- Steps that show a difference, if there is one, and what is said of it. -/
structure ShowsDifference (test : String) (d : Option Image.Difference)
    (t : List Write × Option ImageStats) : Prop where
  leave : AllLeave ownKinds test t.1
  /-- Nothing is put into other files. -/
  others : ∀ id ≠ imageDiff.id, t.1.filterMap (Write.contents? id) = []
  shown : t.1.filterMap (Write.contents? imageDiff.id) = (d.map fun d ↦ d.image.png).toList
  stats : t.2 = d.map (·.stats)

theorem showsDifference_none (test : String) : ShowsDifference test none ([], none) :=
  ⟨.nil, fun _ _ ↦ rfl, rfl, rfl⟩

theorem differenceSteps_show (test : String) (expected actual : ByteArray) :
    Gives (ShowsDifference test (Image.compareFiles expected actual).toOption.join)
      (differenceSteps test expected actual) := by
  rw [differenceSteps]
  split
  · rename_i hcompare
    rw [hcompare]
    exact .ok (showsDifference_none test)
  · rename_i d hcompare
    rw [hcompare]
    refine (Gives.self _).map fun path hpath ↦ ?_
    refine ⟨.artifact imageDiff (by decide) hpath _, fun id hid ↦ ?_, rfl, rfl⟩
    exact List.filterMap_cons_none (if_neg hid.symm)
  · rename_i e hcompare
    rw [hcompare]
    exact .ok ⟨.note _, fun _ _ ↦ rfl, rfl, rfl⟩

/-- The steps to screenshots and what is said of their difference. -/
structure Planned (test : String) (screenshots : List Screenshot)
    (t : List Write × Option ImageStats) : Prop where
  leave : AllLeave ownKinds test t.1
  images (own : Bool) :
    t.1.filterMap (Write.contents? (imageKind own).id) = imagesOf test own screenshots
  /-- What is shown is how the last images differ. -/
  diff : t.1.filterMap (Write.contents? imageDiff.id) =
    ((lastDifference? test screenshots).map fun d ↦ d.image.png).toList
  /-- What is said is about the same difference. -/
  stats : t.2 = (lastDifference? test screenshots).map (·.stats)

theorem Gathered.planned (h : Gathered test seen t) {more : List Write × Option ImageStats}
    (hmore : ShowsDifference test (lastDifference? test seen) more) :
    Planned test seen (t.2 ++ more.1, more.2) where
  leave := h.leave.append hmore.leave
  images own := by
    rw [List.filterMap_append, h.steps, hmore.others _ (by cases own <;> decide), List.append_nil]
  diff := by rw [List.filterMap_append, h.diffSteps, hmore.shown, List.nil_append]
  stats := hmore.stats

/-- **The steps to screenshots** put all images into their files, and then show how the last ones
differ. -/
theorem shotSteps_planned (test : String) (screenshots : List Screenshot) :
    Gives (Planned test screenshots) (shotSteps test screenshots) := by
  refine (foldlM_gathered (Gathered.nil test) screenshots).bind fun t h ↦ ?_
  rw [List.nil_append] at h
  have hlast : lastDifference? test screenshots = (do
      let expected ← t.1.expected
      let actual ← t.1.actual
      (Image.compareFiles expected actual).toOption.join) := by
    rw [lastDifference?, ← h.last true, ← h.last false]
    rfl
  dsimp only
  split
  · rename_i expected actual hexpected hactual
    rw [hexpected, hactual] at hlast
    refine (differenceSteps_show test expected actual).bind fun more hmore ↦ .ok (h.planned ?_)
    rw [hlast]
    exact hmore
  · rename_i hmissing
    have hnone : lastDifference? test screenshots = none := by
      rw [hlast]
      cases hexpected : t.1.expected with
      | none => rfl
      | some expected =>
        cases hactual : t.1.actual with
        | none => rfl
        | some actual => exact absurd hactual (hmissing expected actual hexpected)
    have hplanned := h.planned (hnone ▸ showsDifference_none test)
    rw [List.append_nil] at hplanned
    exact .ok hplanned

/-! ## Screenshots that are kept -/

/-- What is kept of screenshots, and what is said of their difference. -/
structure Pictures (x : Extraction) (iteration : Nat) (test : String)
    (screenshots : List Screenshot) (w : Writing) (stats : Option ImageStats) : Prop where
  /-- The screenshot of the test is there exactly if one can be read. -/
  actual_iff : w.recorded.contains actualImage.id = true ↔
    ∃ s ∈ screenshots, ∃ bytes, s.shown? = some (urlOf test, bytes)
  /-- A screenshot of what the test should look like is there exactly if one of another page can be
  read. -/
  expected_iff : w.recorded.contains expectedImage.id = true ↔
    ∃ s ∈ screenshots, ∃ page ≠ urlOf test, ∃ bytes, s.shown? = some (page, bytes)
  /-- The file of the test holds its last image. -/
  actual (bytes : ByteArray) : x.Keeps iteration w test actualImage bytes ↔
    (imagesOf test true screenshots).getLast? = some bytes
  /-- The other file holds the last image of another page. -/
  expected (bytes : ByteArray) : x.Keeps iteration w test expectedImage bytes ↔
    (imagesOf test false screenshots).getLast? = some bytes
  /-- A difference is shown exactly if both files are there and differ. -/
  diff_iff : w.recorded.contains imageDiff.id = true ↔
    ∃ expected actual, x.Keeps iteration w test expectedImage expected ∧
      x.Keeps iteration w test actualImage actual ∧ Image.FilesDiffer expected actual
  /-- It is shown exactly if something is said of it. -/
  stats_iff : w.recorded.contains imageDiff.id = true ↔ stats.isSome = true
  /-- What is shown and said is how the two files differ. -/
  diff (s : ImageStats) (hs : stats = some s) : ∃ expected actual d,
    x.Keeps iteration w test expectedImage expected ∧
    x.Keeps iteration w test actualImage actual ∧
    Image.compareFiles expected actual = .ok (some d) ∧
    x.Keeps iteration w test imageDiff d.image.png ∧ s = d.stats

/-- The screenshots of a test have names, and all their files are written. -/
def StoresShots (x : Extraction) (iteration : Nat) (test : String) (screenshots : List Screenshot)
    (w : Writing) : Prop :=
  ∃ t ∈ (shotSteps test screenshots).toOption, x.AllSucceed iteration w t.1

instance (x : Extraction) (iteration : Nat) (test : String) (screenshots : List Screenshot)
    (w : Writing) : Decidable (x.StoresShots iteration test screenshots w) :=
  inferInstanceAs (Decidable (∃ t ∈ (shotSteps test screenshots).toOption, _))

theorem imagesOf_ne_nil_iff {test : String} {own : Bool} {screenshots : List Screenshot} :
    imagesOf test own screenshots ≠ [] ↔ ∃ s ∈ screenshots, ∃ page,
      decide (page = urlOf test) = own ∧ ∃ bytes, s.shown? = some (page, bytes) := by
  simp only [imagesOf, Ne, List.filterMap_eq_nil_iff, not_forall, exists_prop, imageOf?]
  refine exists_congr fun s ↦ and_congr_right fun _ ↦ ?_
  cases s.shown? with
  | none => simp
  | some shown => simp [Prod.ext_iff]

theorem lastDifference?_eq_some_iff {test : String} {screenshots : List Screenshot}
    {d : Image.Difference} : lastDifference? test screenshots = some d ↔
      ∃ expected, (imagesOf test false screenshots).getLast? = some expected ∧
        ∃ actual, (imagesOf test true screenshots).getLast? = some actual ∧
          Image.compareFiles expected actual = .ok (some d) := by
  simp only [lastDifference?, Option.bind_eq_bind, Option.bind_eq_some_iff, Option.join_eq_some_iff,
    Answer.toOption_eq_some_iff]

/-- **The kept screenshots and what is said of them describe the same two images.** -/
theorem writeShots_pictures {x : Extraction} {iteration : Nat} {test : String}
    {screenshots : List Screenshot} {w : Writing}
    (hnew : ∀ k ∈ [actualImage, expectedImage, imageDiff], w.recorded.get? k.id = none)
    (h : x.StoresShots iteration test screenshots w) :
    ∃ w' stats, x.writeShots iteration test screenshots w = .ok (w', stats) ∧
      x.Pictures iteration test screenshots w' stats := by
  obtain ⟨⟨steps, stats⟩, hsteps, hsucceed⟩ := h
  have hsteps := Answer.toOption_eq_some_iff.mp hsteps
  have hplanned := shotSteps_planned test screenshots _ hsteps
  refine ⟨x.performAll iteration w steps, stats, by rw [writeShots_eq, hsteps]; rfl, ?_⟩
  have hkept {k : FileKind} (hk : k ∈ [actualImage, expectedImage, imageDiff]) :
      x.KeepsLast iteration (x.performAll iteration w steps) test k
        (steps.filterMap (Write.contents? k.id)) :=
    performAll_kept hsucceed hplanned.leave
      ((by decide : [actualImage, expectedImage, imageDiff] ⊆ ownKinds) hk) (hnew k hk)
  have hactual : x.KeepsLast iteration (x.performAll iteration w steps) test actualImage
      (imagesOf test true screenshots) := by
    rw [← hplanned.images true]
    exact hkept (by simp)
  have hexpected : x.KeepsLast iteration (x.performAll iteration w steps) test expectedImage
      (imagesOf test false screenshots) := by
    rw [← hplanned.images false]
    exact hkept (by simp)
  have hdiff := hkept (k := imageDiff) (by simp)
  rw [hplanned.diff] at hdiff
  have hshown : (x.performAll iteration w steps).recorded.contains imageDiff.id = true ↔
      ∃ d, lastDifference? test screenshots = some d := by
    rw [hdiff.contains_iff]
    cases lastDifference? test screenshots <;> simp
  exact {
    actual_iff := by rw [hactual.contains_iff, imagesOf_ne_nil_iff]; simp
    expected_iff := by rw [hexpected.contains_iff, imagesOf_ne_nil_iff]; simp
    actual := hactual.keeps_iff
    expected := hexpected.keeps_iff
    diff_iff := by
      simp only [hshown, lastDifference?_eq_some_iff, hactual.keeps_iff, hexpected.keeps_iff,
        ← Image.exists_compareFiles_iff]
      constructor
      · rintro ⟨d, expected, hexpected, actual, hactual, hcompare⟩
        exact ⟨expected, actual, hexpected, hactual, d, hcompare⟩
      · rintro ⟨expected, actual, hexpected, hactual, d, hcompare⟩
        exact ⟨d, expected, hexpected, actual, hactual, hcompare⟩
    stats_iff := by
      rw [hshown, show stats = _ from hplanned.stats]
      simp [Option.isSome_iff_exists]
    diff := by
      intro s hs
      obtain ⟨d, hd, rfl⟩ := Option.map_eq_some_iff.mp (hplanned.stats.symm.trans hs)
      obtain ⟨expected, hexpected', actual, hactual', hcompare⟩ :=
        lastDifference?_eq_some_iff.mp hd
      refine ⟨expected, actual, d, (hexpected.keeps_iff _).mpr hexpected',
        (hactual.keeps_iff _).mpr hactual', hcompare, (hdiff.keeps_iff _).mpr ?_, rfl⟩
      rw [hd]
      rfl }

/-- Screenshots of one pixel that differs, and some that show nothing. -/
def sampleShots : List Screenshot :=
  [.image "/r.html" ("iVBORw0KGgoAAAANSUhEUgAAAAEAAAABCAYAAAAfFcSJAAAAEElEQVR4AQEFAPr/" ++
      "AAAoAP8BfAEo6nu42AAAAABJRU5ErkJggg==\n"),
   .relation "==",
   .image "/r-ref.html" ("iVBORw0KGgoAAAANSUhEUgAAAAEAAAABCAYAAAAfFcSJAAAAEElEQVR4AQEFAPr/" ++
      "AAAAAP8BBAEAeX5eMQAAAABJRU5ErkJggg=="),
   .image "r.html" "?"]

theorem writeShots_pictures_sample :
    let x : Extraction := ⟨⟨"o/a"⟩, ⟨"w", []⟩, false⟩
    ∃ w stats, x.writeShots 1 "external/wpt/r.html" sampleShots { files := {} } = .ok (w, stats) ∧
      x.Pictures 1 "external/wpt/r.html" sampleShots w stats :=
  writeShots_pictures (by decide) (by decide +kernel)

end Extraction

end WebTestRun
