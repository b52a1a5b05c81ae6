import WebTestRun.Proofs.File.Path

/-!
# What a path denotes

A path denotes the names that it leads through, from the root or from the working directory. A path
below a directory denotes what its own segments lead to from there, so a directory and its last name
apart denote what the directory does. Two dots at its end are an exception: they are no name, and
what stands before them is another directory.

* `Path.resolved` — what a path denotes, whatever the working directory, and `Path.resolved_join` —
  a path below a directory.
* `Path.place_eq_of_resolved` — paths that denote the same lead to the same place from everywhere.
* `Path.EndsUp`, `Path.IsRoot` — the directories that are not told by a parent and a name.
* `Path.exists_resolved_parent` — a directory from its parent and its last name.
* `Path.level` — how far names lead down: `Path.level_foldl`.
* `Path.resolved_join_parent`, `Path.resolved_join_parent_ne` — when a path below a directory is
  told by the parent and the name of the directory.
-/

set_option autoImplicit false

namespace WebTestRun.Path

/-- The names with one segment more. Two dots undo a name, or lead up when there is none. -/
def normalStep (names : List String) (segment : String) : List String :=
  if segment = "" || segment = "." then names
  else if segment = ".." then
    match names.getLast? with
    | none => [".."]
    | some last => if last = ".." then names ++ [".."] else names.dropLast
  else names ++ [segment]

/-- The names with one segment more. Nothing is above the root. -/
def resolveStep (rooted : Bool) (names : List String) (segment : String) : List String :=
  if rooted && segment == ".." then names.dropLast else normalStep names segment

/-- Whether a path starts at the root, and the names that it leads through without dots. -/
def resolved (p : String) : Bool × List String :=
  (isAbsolute p, (segments p).foldl (resolveStep (isAbsolute p)) [])

/-! ## Segments that name nothing -/

variable {rooted : Bool} {names : List String}

@[simp] theorem resolveStep_empty : resolveStep rooted names "" = names := by
  simp [resolveStep, normalStep]

@[simp] theorem resolveStep_dot : resolveStep rooted names "." = names := by
  simp [resolveStep, normalStep]

theorem resolveStep_false (names : List String) (segment : String) :
    resolveStep false names segment = normalStep names segment := rfl

theorem foldl_resolveStep_unnamed {segments : List String}
    (h : ∀ s ∈ segments, s = "" ∨ s = ".") :
    segments.foldl (resolveStep rooted) names = names := by
  induction segments with
  | nil => rfl
  | cons s segments ih =>
    obtain ⟨hs, hsegments⟩ := List.forall_mem_cons.mp h
    have hstep : resolveStep rooted names s = names := by
      rcases hs with rfl | rfl
      · exact resolveStep_empty
      · exact resolveStep_dot
    rw [List.foldl_cons, hstep, ih hsegments]

theorem unnamed_of_marked {marked : List (String × Bool)} {p : String}
    (hsub : marked ⊆ Path.marked p) (h : ∀ s ∈ marked, s.2 = false) :
    ∀ s ∈ marked.map (·.1), s = "" ∨ s = "." := by
  intro s hs
  obtain ⟨segment, hsegment, rfl⟩ := List.mem_map.mp hs
  exact eq_of_mem_marked (hsub hsegment) (h segment hsegment)

/-! ## Where what a path denotes leads to -/

/-- Names that lead up and then down, and from the root only down. -/
def Led (rooted : Bool) (names : List String) : Prop :=
  ∀ name ∈ names, IsName name ∨ name = ".." ∧ rooted = false

theorem Led.resolveStep (h : Led rooted names) (segment : String) :
    Led rooted (resolveStep rooted names segment) := by
  have hinit : Led rooted names.dropLast := fun name hname ↦ h name (List.dropLast_subset _ hname)
  rw [Path.resolveStep]
  split
  · exact hinit
  · rename_i hrooted
    rw [normalStep]
    split
    · exact h
    · rename_i hplain
      rw [Bool.or_eq_true, decide_eq_true_eq, decide_eq_true_eq, not_or] at hplain
      split
      · rename_i hup
        have hrelative : rooted = false := by simpa [hup] using hrooted
        have hdots : Led rooted [".."] := List.forall_mem_singleton.mpr (.inr ⟨rfl, hrelative⟩)
        split
        · exact hdots
        · split
          · exact List.forall_mem_append.mpr ⟨h, hdots⟩
          · exact hinit
      · rename_i hup
        exact List.forall_mem_append.mpr
          ⟨h, List.forall_mem_singleton.mpr (.inl ⟨hplain.1, hplain.2, hup⟩)⟩

/-- Names lead to the same place whether a segment more is resolved before or after. -/
theorem foldl_step_resolveStep (h : Led rooted names) {start : List String}
    (hstart : rooted = true → start = []) (segment : String) :
    (resolveStep rooted names segment).foldl step start =
      step (names.foldl step start) segment := by
  have hback (hlast : ∀ last, names.getLast? = some last → IsName last)
      (hne : names = [] → start = []) :
      names.dropLast.foldl step start = (names.foldl step start).dropLast := by
    rcases List.eq_nil_or_concat' names with rfl | ⟨before, last, rfl⟩
    · rw [List.dropLast_nil, List.foldl_nil, hne rfl, List.dropLast_nil]
    · have hname := hlast last List.getLast?_concat
      rw [List.dropLast_concat, List.foldl_append, List.foldl_cons, List.foldl_nil,
        step_of_isName hname, List.dropLast_concat]
  have hup : step (names.foldl step start) ".." = (names.foldl step start).dropLast := rfl
  rw [resolveStep]
  split
  · rename_i hrooted
    rw [Bool.and_eq_true, beq_iff_eq] at hrooted
    obtain ⟨hroot, rfl⟩ := hrooted
    rw [hup, hback (fun last hlast ↦ ?_) fun _ ↦ hstart hroot]
    rcases h last (List.mem_of_getLast? hlast) with hname | ⟨-, hrelative⟩
    · exact hname
    · simp [hroot] at hrelative
  · rw [normalStep]
    split
    · rename_i hnothing
      rw [step, if_pos hnothing]
    · rename_i hplain
      split
      · rename_i hdots
        subst hdots
        split
        · rename_i hlast
          rw [List.getLast?_eq_none_iff.mp hlast]
          rfl
        · rename_i last hlast
          split
          · rw [List.foldl_append]
            rfl
          · rename_i hne
            rw [hup, hback (fun last' hlast' ↦ ?_) fun hnil ↦ by simp [hnil] at hlast]
            obtain rfl := Option.some.inj (hlast.symm.trans hlast')
            exact (h last (List.mem_of_getLast? hlast)).resolve_right fun hdots ↦ hne hdots.1
      · rw [List.foldl_append]
        rfl

/-- **A path leads where what it denotes leads to**, from the root or from the working directory. -/
theorem place_eq_foldl_resolved (here : List String) (p : String) :
    place here p = (resolved p).2.foldl step (origin here p) := by
  have hrun {segments names : List String} (h : Led (isAbsolute p) names) :
      (segments.foldl (resolveStep (isAbsolute p)) names).foldl step (origin here p) =
        segments.foldl step (names.foldl step (origin here p)) := by
    induction segments generalizing names with
    | nil => rfl
    | cons s segments ih =>
      rw [List.foldl_cons, List.foldl_cons, ih (h.resolveStep s),
        foldl_step_resolveStep h fun hroot ↦ by rw [origin, if_pos hroot]]
  rw [place, resolved, hrun (List.forall_mem_nil _), List.foldl_nil]

/-- **Paths that denote the same lead to the same place**, whatever the working directory. -/
theorem place_eq_of_resolved {p q : String} (h : resolved p = resolved q) (here : List String) :
    place here p = place here q := by
  have horigin : isAbsolute p = isAbsolute q := congrArg Prod.fst h
  rw [place_eq_foldl_resolved, place_eq_foldl_resolved, h, origin, origin, horigin]

/-! ## A path below a directory -/

/-- **A path below a directory** leads on from what the directory denotes. -/
theorem resolved_join (dir : String) {p : String} (hp : isAbsolute p = false) :
    resolved (join dir p) =
      ((resolved dir).1, (segments p).foldl (resolveStep (resolved dir).1) (resolved dir).2) := by
  rw [resolved, isAbsolute_join dir hp, segments_join dir hp, List.foldl_append,
    foldl_dirSegments dir fun _ ↦ resolveStep_empty]
  rfl

/-! ## The parent of a directory -/

/-- A directory without a name that starts at the root. -/
def IsRoot (dir : String) : Prop := splitLast? dir = none ∧ isAbsolute dir = true

instance (dir : String) : Decidable (IsRoot dir) := inferInstanceAs (Decidable (_ ∧ _))

/-- A directory whose last name leads up. -/
def EndsUp (dir : String) : Prop := (splitLast? dir).map (·.2) = some ".."

instance (dir : String) : Decidable (EndsUp dir) := inferInstanceAs (Decidable (_ = _))

/-- A directory without a name is the root or the working directory. -/
theorem resolved_of_splitLast?_eq_none {dir : String} (h : splitLast? dir = none) :
    resolved dir = (isAbsolute dir, []) := by
  rw [splitLast?] at h
  split at h
  · rename_i hnone
    rw [List.dropWhile_eq_nil_iff] at hnone
    rw [resolved, ← map_fst_marked, foldl_resolveStep_unnamed]
    refine unnamed_of_marked (List.Subset.refl _) fun s hs ↦ ?_
    simpa using hnone s (List.mem_reverse.mpr hs)
  · cases h

/-- The marked segments without those at the end that name nothing. -/
def kept (before : List (String × Bool)) : List (String × Bool) :=
  (before.reverse.dropWhile fun s ↦ !s.2).reverse

theorem exists_kept_append (before : List (String × Bool)) :
    ∃ rest, before = kept before ++ rest ∧ ∀ s ∈ rest, s.2 = false := by
  refine ⟨(before.reverse.takeWhile fun s ↦ !s.2).reverse, ?_, fun s hs ↦ ?_⟩
  · rw [kept, ← List.reverse_append, List.takeWhile_append_dropWhile, List.reverse_reverse]
  · simpa using List.all_eq_true.mp List.all_takeWhile s (List.mem_reverse.mp hs)

theorem named_of_kept_eq {before : List (String × Bool)} {s : String × Bool}
    (h : kept before = [s]) : s.2 = true := by
  have hhead := List.head?_dropWhile_not (fun s : String × Bool ↦ !s.2) before.reverse
  rw [← List.reverse_reverse (before.reverse.dropWhile _), ← kept, h] at hhead
  simpa using hhead

theorem not_named_empty {p : String} {named : Bool} (h : ("", named) ∈ marked p) :
    named = false := by
  obtain ⟨segment, -, hsegment⟩ := List.mem_map.mp h
  obtain ⟨hempty, hnamed⟩ := Prod.mk.inj hsegment
  rw [← hnamed, hempty, names]
  rfl

section Kept

variable {dir : String} {before rest : List (String × Bool)}

theorem segments_of_marked_kept (hmarked : marked dir = kept before ++ rest) :
    segments dir = (kept before).map (·.1) ++ rest.map (·.1) := by
  rw [← map_fst_marked, hmarked, List.map_append]

theorem segments_intercalate_kept (hmarked : marked dir = kept before ++ rest)
    (hne : kept before ≠ []) :
    segments ("/".intercalate ((kept before).map (·.1))) = (kept before).map (·.1) := by
  refine segments_intercalate (by simpa using hne) fun s hs ↦ ?_
  exact slash_notMem_of_mem_segments
    (segments_of_marked_kept hmarked ▸ List.mem_append_left _ hs)

/-- The segments before a name are a path that starts at the root if the whole does. -/
theorem isAbsolute_intercalate_kept (hmarked : marked dir = kept before ++ rest)
    (hne : kept before ≠ []) :
    isAbsolute ("/".intercalate ((kept before).map (·.1))) = isAbsolute dir := by
  rw [Bool.eq_iff_iff, isAbsolute_iff_segments, isAbsolute_iff_segments,
    segments_intercalate_kept hmarked hne, segments_of_marked_kept hmarked]
  obtain ⟨first, more, hkept⟩ := List.exists_cons_of_ne_nil hne
  constructor
  · rintro ⟨second, more', hmore⟩
    exact ⟨second, more' ++ rest.map (·.1), by rw [hmore]; rfl⟩
  · rintro ⟨second, more', hmore⟩
    rw [hkept, List.map_cons, List.cons_append] at hmore
    have hempty : first.1 = "" := (List.cons.inj hmore).1
    cases more with
    | nil =>
      -- An empty segment names nothing, and the last segment that is kept does.
      have hmem : ("", first.2) ∈ marked dir := by
        rw [hmarked, hkept, ← hempty]
        exact List.mem_cons_self
      exact absurd (named_of_kept_eq hkept) (by simp [not_named_empty hmem])
    | cons s more =>
      exact ⟨s.1, more.map (·.1), by rw [hkept, List.map_cons, List.map_cons, hempty]⟩

theorem resolved_intercalate_kept (hmarked : marked dir = kept before ++ rest)
    (hne : kept before ≠ []) :
    resolved ("/".intercalate ((kept before).map (·.1))) =
      (isAbsolute dir,
        ((kept before).map (·.1)).foldl (resolveStep (isAbsolute dir)) []) := by
  rw [resolved, isAbsolute_intercalate_kept hmarked hne, segments_intercalate_kept hmarked hne]

end Kept

/-- **A directory is told by its parent and its last name.** -/
theorem exists_resolved_parent {dir name : String} {before : List (String × Bool)}
    (h : splitLast? dir = some (before, name)) :
    ∃ parent, parent? dir = some parent ∧ (resolved dir).1 = (resolved parent).1 ∧
      (resolved dir).2 = resolveStep (resolved parent).1 (resolved parent).2 name := by
  obtain ⟨named, after, hmarked, hafter⟩ := marked_of_splitLast? h
  obtain ⟨rest, hbefore, hrest⟩ := exists_kept_append before
  have hmarked' : marked dir = kept before ++ (rest ++ (name, named) :: after) := by
    rw [← List.append_assoc, ← hbefore, hmarked]
  have hdir (rooted : Bool) : (segments dir).foldl (resolveStep rooted) [] =
      resolveStep rooted (((kept before).map (·.1)).foldl (resolveStep rooted) []) name := by
    rw [← map_fst_marked, hmarked', List.map_append, List.map_append, List.map_cons,
      List.foldl_append, List.foldl_append, List.foldl_cons, foldl_resolveStep_unnamed,
      foldl_resolveStep_unnamed]
    · exact unnamed_of_marked (p := dir) (fun s hs ↦ by simp [hmarked', hs]) hrest
    · exact unnamed_of_marked (p := dir) (fun s hs ↦ by simp [hmarked', hs]) hafter
  refine ⟨_, by rw [parent?, h]; rfl, ?_⟩
  dsimp only
  rw [← kept]
  split
  · rename_i hempty
    rw [List.isEmpty_iff] at hempty
    rw [hempty] at hdir
    -- Nothing stands before the name, or only the slash of the root.
    split
    · rename_i hroot
      exact ⟨hroot, by rw [resolved, hroot, hdir]; rfl⟩
    · rename_i hroot
      rw [Bool.not_eq_true] at hroot
      exact ⟨hroot, by rw [resolved, hroot, hdir]; rfl⟩
  · rename_i hne
    rw [resolved_intercalate_kept hmarked' (by simpa using hne)]
    exact ⟨rfl, hdir _⟩

/-! ## How far a path leads down -/

/-- How far one segment more leads down. -/
def descend (level : Int) (segment : String) : Int :=
  if segment = "" || segment = "." then level
  else if segment = ".." then level - 1 else level + 1

/-- How far names lead down from where they start. -/
def level (names : List String) : Int :=
  names.foldl (fun level name ↦ if name = ".." then level - 1 else level + 1) 0

theorem level_normalStep (names : List String) (segment : String) :
    level (normalStep names segment) = descend (level names) segment := by
  have hconcat (last : String) (before : List String) :
      level (before ++ [last]) = if last = ".." then level before - 1 else level before + 1 := by
    rw [level, List.foldl_append]
    rfl
  rw [normalStep, descend]
  split
  · rfl
  · split
    · cases hlast : names.getLast? with
      | none =>
        rw [List.getLast?_eq_none_iff.mp hlast]
        rfl
      | some last =>
        obtain ⟨before, rfl⟩ := List.getLast?_eq_some_iff.mp hlast
        dsimp only
        split
        · exact hconcat ".." _
        · rename_i hne
          rw [List.dropLast_concat, hconcat, if_neg hne]
          omega
    · rename_i hup
      rw [hconcat, if_neg hup]

/-- **A relative path leads down as far as its segments do.** -/
theorem level_foldl (names segments : List String) :
    level (segments.foldl (resolveStep false) names) = segments.foldl descend (level names) :=
  (List.foldl_hom level fun names segment ↦ (level_normalStep names segment).symm).symm

/-- A path keeps two places as far apart as they are. -/
theorem foldl_descend_sub_one (level : Int) (segments : List String) :
    segments.foldl descend (level - 1) = segments.foldl descend level - 1 := by
  induction segments generalizing level with
  | nil => rfl
  | cons s segments ih =>
    have hstep : descend (level - 1) s = descend level s - 1 := by
      rw [descend, descend]
      split
      · rfl
      · split <;> omega
    rw [List.foldl_cons, List.foldl_cons, hstep, ih]

/-! ## The name of a directory below its parent -/

variable {dir p : String}

/-- Below a directory and then a name a path leads on from the name. -/
theorem resolved_join_name (parent : String) {name : String} (hname : '/' ∉ name.toList)
    (hp : isAbsolute p = false) :
    resolved (join parent (join name p)) =
      ((resolved parent).1, (segments p).foldl (resolveStep (resolved parent).1)
        (resolveStep (resolved parent).1 (resolved parent).2 name)) := by
  by_cases hempty : name = ""
  · rw [hempty, join_empty, resolved_join parent hp, resolveStep_empty]
  · have hrelative : isAbsolute (join name p) = false := by
      rw [isAbsolute_join name hp]
      exact isAbsolute_of_segments (segments_of_slash_notMem hname) hempty
    rw [resolved_join parent hrelative, segments_join name hp,
      dirSegments_of_slash_notMem hempty hname]
    rfl

theorem slash_notMem_of_splitLast? {name : String} {before : List (String × Bool)}
    (h : splitLast? dir = some (before, name)) : '/' ∉ name.toList := by
  obtain ⟨named, after, hmarked, -⟩ := marked_of_splitLast? h
  refine slash_notMem_of_mem_segments (p := dir) ?_
  rw [← map_fst_marked, hmarked, List.map_append, List.map_cons]
  exact List.mem_append_right _ List.mem_cons_self

/-- **A path below a directory is the path below its name, below its parent**, unless the directory
has no name: it ends with two dots, or is the root. -/
theorem resolved_join_parent (hp : isAbsolute p = false) (hup : ¬EndsUp dir)
    (hroot : ¬IsRoot dir) :
    resolved (join ((parent? dir).getD "") (join ((fileName? dir).getD "") p)) =
      resolved (join dir p) := by
  rw [resolved_join dir hp]
  cases hsplit : splitLast? dir with
  | none =>
    have hrelative : isAbsolute dir = false :=
      Bool.eq_false_iff.mpr fun h ↦ hroot ⟨hsplit, h⟩
    rw [resolved_of_splitLast?_eq_none hsplit, parent?, fileName?, hsplit, hrelative, resolved]
    simp [hp]
  | some split =>
    obtain ⟨before, name⟩ := split
    obtain ⟨parent, hparent, hrooted, hnames⟩ := exists_resolved_parent hsplit
    have hne : name ≠ ".." := by
      rintro rfl
      exact hup (by rw [EndsUp, hsplit]; rfl)
    rw [hrooted, hnames, hparent, fileName?, hsplit]
    dsimp only [Option.getD_some]
    by_cases hdot : name = "."
    · rw [if_pos (by simp [hdot]), hdot, Option.getD_none, join_empty, resolved_join parent hp,
        resolveStep_dot]
    · rw [if_neg (by simp [hdot, hne]), Option.getD_some,
        resolved_join_name parent (slash_notMem_of_splitLast? hsplit) hp]

/-- **Without a name in the middle a path leads elsewhere**, if the directory is the root, or a
relative one that ends with two dots. -/
theorem resolved_join_parent_ne (hp : isAbsolute p = false)
    (h : IsRoot dir ∨ EndsUp dir ∧ isAbsolute dir = false) :
    resolved (join ((parent? dir).getD "") (join ((fileName? dir).getD "") p)) ≠
      resolved (join dir p) := by
  rcases h with ⟨hsplit, hroot⟩ | ⟨hup, hrelative⟩
  · rw [parent?, fileName?, hsplit]
    intro heq
    have hrooted := congrArg Prod.fst heq
    rw [resolved, resolved, isAbsolute_join dir hp, hroot] at hrooted
    simp [hp] at hrooted
  · obtain ⟨⟨before, name⟩, hsplit, hname⟩ := Option.map_eq_some_iff.mp hup
    obtain rfl : name = ".." := hname
    obtain ⟨parent, hparent, hrooted, hnames⟩ := exists_resolved_parent hsplit
    rw [hparent, fileName?, hsplit]
    dsimp only [Option.getD_some]
    rw [if_pos (by simp), Option.getD_none, join_empty, resolved_join parent hp,
      resolved_join dir hp, hnames, ← hrooted, resolved, hrelative]
    -- The segments of the path keep the two as far apart as the dots have brought them.
    intro heq
    have hlevel := congrArg (fun names : Bool × List String ↦ level names.2) heq
    have hup (level : Int) : descend level ".." = level - 1 := rfl
    dsimp only at hlevel
    rw [level_foldl, level_foldl, resolveStep_false, level_normalStep, hup,
      foldl_descend_sub_one] at hlevel
    omega

end WebTestRun.Path
