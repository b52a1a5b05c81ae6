import Mathlib.Data.List.TakeWhile
import WebTestRun.File.Path
import WebTestRun.Proofs.Text.Pieces

/-!
# Paths and their segments

A path is its segments with slashes between them. Its last name and its extension are those of the
last segment that names something, so what stands before that does not matter.

* `segments_append_slash` — the segments of a path below another one.
* `exists_of_fileName?`, `exists_of_extension?` — where the last name of a path and its extension
  stand.
* `extension?_append_slash` — a path has the same extension below another one.
* `segments_join`, `isAbsolute_join` — a path below a directory, and `exists_segments_join` — its
  last name.
-/

set_option autoImplicit false

namespace WebTestRun.Path

/-! ## Segments -/

/-- Segments after the first one, each with the slash before it. -/
def trail (segments : List (List Char)) : List Char := segments.flatMap fun s ↦ '/' :: s

theorem intercalate_cons (s : List Char) (segments : List (List Char)) :
    ['/'].intercalate (s :: segments) = s ++ trail segments := by
  induction segments generalizing s with
  | nil => simp [trail]
  | cons t segments ih =>
    rw [List.intercalate_cons_cons, ih]
    simp [trail]

theorem exists_intercalate_append (before : List (List Char)) (s : List Char)
    (after : List (List Char)) :
    ∃ front, ['/'].intercalate (before ++ s :: after) = front ++ s ++ trail after := by
  induction before with
  | nil => exact ⟨[], intercalate_cons s after⟩
  | cons t before ih =>
    obtain ⟨front, hfront⟩ := ih
    refine ⟨t ++ ['/'] ++ front, ?_⟩
    rw [List.cons_append, List.intercalate_cons_of_ne_nil (by simp), hfront]
    simp only [List.append_assoc]

theorem map_fst_marked (p : String) : (marked p).map (·.1) = segments p := by
  rw [marked, List.map_map]
  exact List.zipIdx_map_fst 0 (segments p)

theorem eq_intercalate_segments (p : String) :
    p.toList = ['/'].intercalate ((segments p).map String.toList) := by
  rw [segments, List.map_map]
  have hself : String.toList ∘ String.ofList = id := funext fun s ↦ String.toList_ofList
  rw [hself, List.map_id, List.intercalate_splitOn]

theorem segments_ne_nil (p : String) : segments p ≠ [] := by
  rw [segments, ne_eq, List.map_eq_nil_iff]
  exact List.splitOn_ne_nil '/' p.toList

/-- A path is known by its segments. -/
theorem segments_injective : Function.Injective segments := by
  intro p q h
  rw [← String.toList_inj, eq_intercalate_segments, eq_intercalate_segments q, h]

/-- Texts without slashes are the segments of a path. -/
theorem segments_intercalate {pieces : List String} (hne : pieces ≠ [])
    (hslash : ∀ s ∈ pieces, '/' ∉ s.toList) : segments ("/".intercalate pieces) = pieces := by
  have hsplit : (['/'].intercalate (pieces.map String.toList)).splitOn '/' =
      pieces.map String.toList := by
    refine List.splitOn_intercalate '/' (fun s hs ↦ ?_) (by simpa using hne)
    obtain ⟨piece, hpiece, rfl⟩ := List.mem_map.mp hs
    exact hslash piece hpiece
  have hself : String.ofList ∘ String.toList = id := funext fun s ↦ String.ofList_toList
  have hlist : ("/".intercalate pieces).toList = ['/'].intercalate (pieces.map String.toList) :=
    String.toList_intercalate
  rw [segments, hlist, hsplit, List.map_map, hself, List.map_id]

theorem segments_append_slash (p q : String) :
    segments (p ++ "/" ++ q) = segments p ++ segments q := by
  have hlist : (p ++ "/" ++ q).toList = p.toList ++ '/' :: q.toList := by simp
  rw [segments, hlist, List.splitOn_append_cons_self, List.map_append, ← segments, ← segments]

theorem slash_notMem_of_mem_segments {p segment : String} (h : segment ∈ segments p) :
    '/' ∉ segment.toList := by
  obtain ⟨piece, hpiece, rfl⟩ := List.mem_map.mp h
  rw [String.toList_ofList]
  exact Text.notMem_of_mem_splitOn hpiece

theorem segments_of_slash_notMem {p : String} (h : '/' ∉ p.toList) : segments p = [p] := by
  rw [segments, Text.splitOn_of_notMem h, List.map_singleton, String.ofList_toList]

/-- The first segment of a path starts as the path does. -/
theorem exists_segments_of_cons {p : String} {c : Char} {rest : List Char}
    (hp : p.toList = c :: rest) (hc : c ≠ '/') :
    ∃ first more tail, segments p = first :: more ∧ first.toList = c :: tail := by
  rw [segments, hp, List.splitOn_cons_eq_if_modifyHead, if_neg (by simpa using hc)]
  cases hsplit : rest.splitOn '/' with
  | nil => exact absurd hsplit (List.splitOn_ne_nil '/' rest)
  | cons piece pieces => exact ⟨_, _, piece, rfl, String.toList_ofList⟩

@[simp] theorem step_empty (names : List String) : step names "" = names := rfl

/-- A name leads on to itself. -/
theorem step_of_isName {segment : String} (h : IsName segment) (names : List String) :
    step names segment = names ++ [segment] := by
  obtain ⟨hempty, hdot, hup⟩ := h
  rw [step, if_neg (by simp [hempty, hdot]), if_neg hup]

/-! ## The last name and its extension -/

/-- A segment that names nothing is empty or a dot. -/
theorem eq_of_mem_marked {p : String} {s : String × Bool} (hs : s ∈ marked p)
    (hnames : s.2 = false) : s.1 = "" ∨ s.1 = "." := by
  obtain ⟨segment, -, rfl⟩ := List.mem_map.mp hs
  simp only [names, Bool.and_eq_false_iff, Bool.not_eq_false', Bool.or_eq_false_iff] at hnames
  rcases hnames with hempty | ⟨hdot, -⟩
  · exact .inl (String.isEmpty_iff.mp hempty)
  · exact .inr (by simpa using hdot)

theorem marked_of_splitLast? {p name : String} {before : List (String × Bool)}
    (h : splitLast? p = some (before, name)) :
    ∃ named after, marked p = before ++ (name, named) :: after ∧ ∀ s ∈ after, s.2 = false := by
  rw [splitLast?] at h
  split at h
  · cases h
  · rename_i last before' hlast
    cases h
    have hreverse : (marked p).reverse =
        (marked p).reverse.takeWhile (fun s ↦ !s.2) ++ last :: before' := by
      rw [← hlast, List.takeWhile_append_dropWhile]
    refine ⟨last.2, ((marked p).reverse.takeWhile fun s ↦ !s.2).reverse, ?_, fun s hs ↦ ?_⟩
    · have hmarked := congrArg List.reverse hreverse
      rw [List.reverse_reverse, List.reverse_append, List.reverse_cons, List.append_assoc]
        at hmarked
      exact hmarked
    · simpa using List.all_eq_true.mp List.all_takeWhile s (List.mem_reverse.mp hs)

/-- After the last name of a path there are only slashes and dots. -/
theorem exists_of_fileName? {p name : String} (h : fileName? p = some name) :
    ∃ front after, p.toList = front ++ name.toList ++ trail after ∧
      ∀ s ∈ after, s = [] ∨ s = ['.'] := by
  rw [fileName?] at h
  split at h
  · rename_i before found hsplit
    split at h
    · cases h
    · obtain rfl := Option.some.inj h
      obtain ⟨named, after, hmarked, hafter⟩ := marked_of_splitLast? hsplit
      obtain ⟨front, hfront⟩ := exists_intercalate_append (before.map (·.1.toList)) found.toList
        (after.map (·.1.toList))
      refine ⟨front, after.map (·.1.toList), ?_, fun s hs ↦ ?_⟩
      · rw [eq_intercalate_segments, ← map_fst_marked, hmarked, ← hfront]
        simp [Function.comp_def]
      · obtain ⟨segment, hsegment, rfl⟩ := List.mem_map.mp hs
        have hmem : segment ∈ marked p := by
          rw [hmarked]
          exact List.mem_append_right before (List.mem_cons_of_mem _ hsegment)
        rcases eq_of_mem_marked hmem (hafter segment hsegment) with hempty | hdot
        · exact .inl (by rw [hempty]; rfl)
        · exact .inr (by rw [hdot]; rfl)
  · cases h

/-- The extension of a path stands after a dot, and after it there are only slashes and dots. -/
theorem exists_of_extension? {p extension : String} (h : extension? p = some extension) :
    ∃ front after, p.toList = front ++ '.' :: extension.toList ++ trail after ∧
      ∀ s ∈ after, s = [] ∨ s = ['.'] := by
  obtain ⟨name, hname, hextension⟩ := Option.bind_eq_some_iff.mp h
  obtain ⟨front, after, hp, hafter⟩ := exists_of_fileName? hname
  dsimp only at hextension
  split at hextension
  · rename_i stem hstem
    split at hextension
    · cases hextension
    · have hreverse : name.toList.reverse.takeWhile (· ≠ '.') ++ '.' :: stem =
          name.toList.reverse := by
        rw [← hstem, List.takeWhile_append_dropWhile]
      have hname : name.toList = stem.reverse ++ '.' :: extension.toList := by
        have hsplit := congrArg List.reverse hreverse
        rw [List.reverse_append, List.reverse_cons, List.append_assoc, List.reverse_reverse]
          at hsplit
        rw [← hsplit, ← Option.some.inj hextension, String.toList_ofList]
        rfl
      refine ⟨front ++ stem.reverse, after, ?_, hafter⟩
      rw [hp, hname]
      simp only [List.append_assoc]
  · cases hextension

/-! ## A path below another one -/

/-- Segments after the first one are marked whatever their number. -/
theorem map_zipIdx_names {k : Nat} (hk : k ≠ 0) (segments : List String) :
    ((segments.zipIdx k).map fun s ↦ (s.1, names (s.2 == 0) s.1)) =
      segments.map fun s ↦ (s, names false s) := by
  induction segments generalizing k with
  | nil => rfl
  | cons s segments ih =>
    rw [List.zipIdx_cons, List.map_cons, List.map_cons, ih (Nat.succ_ne_zero k),
      beq_false_of_ne hk]

/-- Only a dot in front is marked in another way below another path. -/
theorem marked_append_slash (p : String) {q first : String} {more : List String}
    (hq : segments q = first :: more) (hdot : first ≠ ".") :
    marked (p ++ "/" ++ q) = marked p ++ marked q := by
  have hlength : (segments p).length ≠ 0 := by
    simp [segments]
  have hfirst : names true first = names false first := by
    simp [names, hdot]
  rw [marked, segments_append_slash, List.zipIdx_append, List.map_append, Nat.zero_add, marked,
    marked, map_zipIdx_names hlength, hq, List.zipIdx_cons, List.map_cons, List.map_cons,
    map_zipIdx_names (Nat.succ_ne_zero 0), beq_self_eq_true, hfirst]

/-- **A path has the same extension below another one**, if it starts with a name. -/
theorem extension?_append_slash (p : String) {q : String} {c : Char} {rest : List Char}
    (hq : q.toList = c :: rest) (hslash : c ≠ '/') (hdot : c ≠ '.') :
    extension? (p ++ "/" ++ q) = extension? q := by
  obtain ⟨first, more, tail, hsegments, hfirst⟩ := exists_segments_of_cons hq hslash
  have hne : first ≠ "." := by
    rintro rfl
    exact hdot (List.cons.inj hfirst).1.symm
  have hnames : (first, true) ∈ marked q := by
    have hempty : first ≠ "" := by
      rintro rfl
      cases hfirst
    rw [marked, hsegments, List.zipIdx_cons, List.map_cons]
    simp [names, hempty]
  -- The first segment names something, so the last name of the path is one of its own.
  cases hlast : (marked q).reverse.dropWhile fun s ↦ !s.2 with
  | nil =>
    rw [List.dropWhile_eq_nil_iff] at hlast
    exact absurd (hlast _ (List.mem_reverse.mpr hnames)) Bool.false_ne_true
  | cons last before =>
    have hbelow : (marked (p ++ "/" ++ q)).reverse.dropWhile (fun s ↦ !s.2) =
        last :: (before ++ (marked p).reverse) := by
      rw [marked_append_slash p hsegments hne, List.reverse_append, List.dropWhile_append, hlast]
      rfl
    rw [extension?, extension?, fileName?, fileName?, splitLast?, splitLast?, hlast, hbelow]

/-! ## A path below a directory -/

/-- The segments of a directory, as paths below it have them. -/
def dirSegments (dir : String) : List String :=
  if dir.isEmpty then []
  else if ['/'].isSuffixOf dir.toList then (segments dir).dropLast
  else segments dir

theorem exists_of_slash_suffix {dir : String} (h : ['/'].isSuffixOf dir.toList = true) :
    ∃ front, dir = front ++ "/" ∧ segments dir = segments front ++ [""] := by
  obtain ⟨front, hfront⟩ := List.isSuffixOf_iff_suffix.mp h
  have hdir : dir = String.ofList front ++ "/" := by
    rw [← String.toList_inj, ← hfront]
    simp
  refine ⟨String.ofList front, hdir, ?_⟩
  rw [hdir, ← String.append_empty (s := String.ofList front ++ "/"), segments_append_slash]
  rfl

/-- Below a directory a path leads on with its own segments. -/
theorem segments_join (dir : String) {p : String} (hp : isAbsolute p = false) :
    segments (join dir p) = dirSegments dir ++ segments p := by
  rw [join, hp, Bool.false_or, dirSegments]
  split
  · rfl
  · split
    · rename_i hslash
      obtain ⟨front, hdir, hsegments⟩ := exists_of_slash_suffix hslash
      rw [hsegments, List.dropLast_concat, hdir, segments_append_slash]
    · rw [segments_append_slash]

/-- The segments of a directory lead on as those of its path, where empty ones lead nowhere. -/
theorem foldl_dirSegments {α : Type} {f : α → String → α} (dir : String)
    (hempty : ∀ a, f a "" = a) (a : α) :
    (dirSegments dir).foldl f a = (segments dir).foldl f a := by
  rw [dirSegments]
  split
  · rename_i hdir
    rw [String.isEmpty_iff.mp hdir]
    exact (hempty a).symm
  · split
    · rename_i hslash
      obtain ⟨front, -, hsegments⟩ := exists_of_slash_suffix hslash
      rw [hsegments, List.dropLast_concat, List.foldl_append]
      exact (hempty _).symm
    · rfl

/-- Below a directory different paths are different. -/
theorem join_injective {dir p q : String} (hp : isAbsolute p = false) (hq : isAbsolute q = false)
    (h : join dir p = join dir q) : p = q := by
  have hsegments := congrArg segments h
  rw [segments_join dir hp, segments_join dir hq] at hsegments
  exact segments_injective (List.append_cancel_left hsegments)

@[simp] theorem join_empty (p : String) : join "" p = p := by
  rw [join, if_pos (by simp)]

theorem dirSegments_of_slash_notMem {name : String} (hne : name ≠ "")
    (hslash : '/' ∉ name.toList) : dirSegments name = [name] := by
  rw [dirSegments, if_neg, if_neg, segments_of_slash_notMem hslash]
  · intro hsuffix
    obtain ⟨front, hfront⟩ := List.isSuffixOf_iff_suffix.mp hsuffix
    exact hslash (hfront ▸ by simp)
  · exact fun hempty ↦ hne (String.isEmpty_iff.mp hempty)

/-- A path that starts at the root has an empty segment in front of another one. -/
theorem isAbsolute_iff_segments {p : String} :
    isAbsolute p = true ↔ ∃ second more, segments p = "" :: second :: more := by
  rw [isAbsolute, List.isPrefixOf_iff_prefix]
  constructor
  · rintro ⟨rest, hrest⟩
    obtain ⟨piece, pieces, hpieces⟩ := List.exists_cons_of_ne_nil (List.splitOn_ne_nil '/' rest)
    refine ⟨String.ofList piece, pieces.map String.ofList, ?_⟩
    rw [segments, ← hrest, List.singleton_append, List.splitOn_cons_eq_if_modifyHead,
      if_pos (beq_self_eq_true _), hpieces]
    rfl
  · rintro ⟨second, more, hsegments⟩
    rw [eq_intercalate_segments, hsegments, List.map_cons, intercalate_cons, List.map_cons, trail,
      List.flatMap_cons]
    exact List.prefix_append ['/'] _

/-- A path whose first segment is a name does not start at the root. -/
theorem isAbsolute_of_segments {p first : String} {more : List String}
    (hp : segments p = first :: more) (hfirst : first ≠ "") : isAbsolute p = false := by
  rw [Bool.eq_false_iff]
  intro hroot
  obtain ⟨second, rest, hsegments⟩ := isAbsolute_iff_segments.mp hroot
  rw [hp] at hsegments
  exact hfirst (List.cons.inj hsegments).1

/-- A path below a directory starts at the root if the directory does. -/
theorem isAbsolute_join (dir : String) {p : String} (hp : isAbsolute p = false) :
    isAbsolute (join dir p) = isAbsolute dir := by
  have happend {q : String} (hdir : ¬dir.isEmpty = true) :
      isAbsolute (dir ++ q) = isAbsolute dir := by
    have hne : dir.toList ≠ [] := fun hnil ↦
      hdir (String.isEmpty_iff.mpr (String.toList_eq_nil_iff.mp hnil))
    obtain ⟨c, rest, hlist⟩ := List.exists_cons_of_ne_nil hne
    rw [isAbsolute, isAbsolute, String.toList_append, hlist]
    rfl
  rw [join, hp, Bool.false_or]
  split
  · rename_i hempty
    rw [String.isEmpty_iff.mp hempty, hp]
    rfl
  · rename_i hdir
    split
    · exact happend hdir
    · rw [String.append_assoc, happend hdir]

/-- Below a directory a path keeps its last name, and what stands above does not depend on it. -/
theorem exists_segments_join (dir : String) (dirs : List String) :
    ∃ above, ∀ p last, last ≠ "" → segments p = dirs ++ [last] →
      segments (join dir p) = above ++ [last] := by
  by_cases hroot : dirs.head? = some ""
  · obtain ⟨more, rfl⟩ := List.head?_eq_some_iff.mp hroot
    refine ⟨"" :: more, fun p last _ hp ↦ ?_⟩
    have hroot : isAbsolute p = true := by
      obtain ⟨second, rest, hmore⟩ := List.exists_cons_of_ne_nil (List.concat_ne_nil last more)
      rw [List.cons_append, hmore] at hp
      exact isAbsolute_iff_segments.mpr ⟨second, rest, hp⟩
    rw [join, hroot, Bool.true_or, if_pos rfl, hp]
  · refine ⟨dirSegments dir ++ dirs, fun p last hlast hp ↦ ?_⟩
    have hrelative : isAbsolute p = false := by
      cases dirs with
      | nil => exact isAbsolute_of_segments hp hlast
      | cons first more => exact isAbsolute_of_segments hp fun hempty ↦ hroot (by rw [hempty]; rfl)
    rw [segments_join dir hrelative, hp, List.append_assoc]

end WebTestRun.Path
