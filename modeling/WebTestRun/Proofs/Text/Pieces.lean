import Mathlib.Data.List.Basic
import WebTestRun.Text.Blank
import WebTestRun.Text.Cut
import WebTestRun.Text.Line

/-!
# Pieces of a text that are written and read again

A text that is written line by line, each line ended by a newline, is read back as the same lines,
as long as none of them holds a newline or ends in a carriage return, which reading takes for a
part of the line end. Words with blanks between them are read back as the same words, and a text
that is cut at a mark is put together again.

* `OneLine` — what a line has to be.
* `splitOn_append_of_notMem` — pieces of a text that goes on without a mark.
* `mem_of_mem_lines` — what the lines of a text hold.
* `lines_flatMap` — the lines of a text that is written line by line, whatever the lines hold.
* `trim_eq_iff`, `words_eq_iff` — a text without its outer blanks, and its words.
* `words_intercalate` — the words of a text that is written word by word.
* `cutOnce_eq_some_iff`, `cutAt?_eq_some_iff` — a cut loses nothing and is made at the first mark;
  `cutOnce_append` — that is where the mark was put; `occursIn_iff` — whether there is a mark.
-/

set_option autoImplicit false

namespace WebTestRun.Text

/-- A text that is read back from a line of its own. -/
structure OneLine (s : List Char) : Prop where
  /-- It does not go on in a second line. -/
  newline : '\n' ∉ s
  /-- Its end is not taken for a part of the line end. -/
  carriageReturn : s.getLast? ≠ some '\r'

instance (s : List Char) : Decidable (OneLine s) :=
  decidable_of_iff ('\n' ∉ s ∧ s.getLast? ≠ some '\r')
    ⟨fun h ↦ ⟨h.1, h.2⟩, fun h ↦ ⟨h.newline, h.carriageReturn⟩⟩

/-! ## One carriage return at the end -/

theorem dropReturn_of_getLast? {s : List Char} (h : s.getLast? ≠ some '\r') : dropReturn s = s :=
  if_neg h

theorem dropReturn_append {s : List Char} (h : s.getLast? ≠ some '\r') (t : List Char) :
    dropReturn (s ++ t) = s ++ dropReturn t := by
  rcases List.eq_nil_or_concat t with rfl | ⟨t, c, rfl⟩
  · rw [List.append_nil, dropReturn_of_getLast? h]
    simp [dropReturn]
  · have hlast : (s ++ t.concat c).getLast? = (t.concat c).getLast? := by simp
    have hdrop : (s ++ t.concat c).dropLast = s ++ (t.concat c).dropLast :=
      List.dropLast_append_of_ne_nil (by simp)
    rw [dropReturn, dropReturn, hlast, hdrop]
    split <;> rfl

theorem mem_of_mem_dropReturn {s : List Char} {c : Char} (h : c ∈ dropReturn s) : c ∈ s := by
  rw [dropReturn] at h
  split at h
  · exact List.dropLast_subset s h
  · exact h

/-! ## Pieces between marks -/

theorem mem_of_mem_intercalate {α : Type} {sep : List α} {ls : List (List α)} {a : α}
    (h : a ∈ sep.intercalate ls) : a ∈ sep ∨ ∃ l ∈ ls, a ∈ l := by
  induction ls with
  | nil => simp at h
  | cons l ls ih =>
    cases ls with
    | nil => exact .inr ⟨l, List.mem_cons_self, by simpa using h⟩
    | cons k ls =>
      rw [List.intercalate_cons_cons, List.mem_append, List.mem_append] at h
      rcases h with (h | h) | h
      · exact .inr ⟨l, List.mem_cons_self, h⟩
      · exact .inl h
      · rcases ih h with h | ⟨m, hm, h⟩
        · exact .inl h
        · exact .inr ⟨m, List.mem_cons_of_mem l hm, h⟩

theorem mem_of_mem_splitOn {s piece : List Char} {c d : Char} (h : piece ∈ s.splitOn d)
    (hc : c ∈ piece) : c ∈ s := by
  induction s generalizing piece with
  | nil => simp_all
  | cons e s ih =>
    rw [List.splitOn_cons_eq_if_modifyHead] at h
    split at h
    · rcases List.mem_cons.mp h with rfl | h
      · simp at hc
      · exact List.mem_cons_of_mem e (ih h hc)
    · obtain ⟨first, rest, hs⟩ := List.exists_cons_of_ne_nil (List.splitOn_ne_nil d s)
      rw [hs] at h ih
      rw [List.modifyHead_cons, List.mem_cons] at h
      rcases h with rfl | h
      · rcases List.mem_cons.mp hc with rfl | hc
        · exact List.mem_cons_self
        · exact List.mem_cons_of_mem e (ih List.mem_cons_self hc)
      · exact List.mem_cons_of_mem e (ih (List.mem_cons_of_mem first h) hc)

theorem notMem_of_mem_splitOn {s piece : List Char} {d : Char} (h : piece ∈ s.splitOn d) :
    d ∉ piece := by
  induction s generalizing piece with
  | nil => simp_all
  | cons c s ih =>
    rw [List.splitOn_cons_eq_if_modifyHead] at h
    split at h
    · rcases List.mem_cons.mp h with rfl | h
      · simp
      · exact ih h
    · rename_i hc
      obtain ⟨first, rest, hs⟩ := List.exists_cons_of_ne_nil (List.splitOn_ne_nil d s)
      rw [hs] at h ih
      rw [List.modifyHead_cons, List.mem_cons] at h
      rcases h with rfl | h
      · have hc' : d ≠ c := fun e ↦ hc (beq_iff_eq.mpr e.symm)
        exact List.not_mem_cons_of_ne_of_not_mem hc' (ih List.mem_cons_self)
      · exact ih (List.mem_cons_of_mem _ h)

theorem splitOn_of_notMem {α : Type} [BEq α] [LawfulBEq α] {s : List α} {d : α} (h : d ∉ s) :
    s.splitOn d = [s] := by
  have hone : ([d].intercalate [s]).splitOn d = [s] :=
    List.splitOn_intercalate d (by simpa using h) (List.cons_ne_nil _ _)
  rwa [List.intercalate_singleton] at hone

/-- What stands after the last mark may go on. -/
theorem splitOn_append_of_notMem {tail : List Char} {d : Char} (h : d ∉ tail) (s : List Char) :
    ∃ front last, s.splitOn d = front ++ [last] ∧
      (s ++ tail).splitOn d = front ++ [last ++ tail] := by
  induction s with
  | nil => exact ⟨[], [], rfl, splitOn_of_notMem h⟩
  | cons c s ih =>
    obtain ⟨front, last, hs, happend⟩ := ih
    rw [List.cons_append, List.splitOn_cons_eq_if_modifyHead, List.splitOn_cons_eq_if_modifyHead,
      hs, happend]
    split
    · exact ⟨[] :: front, last, rfl, rfl⟩
    · cases front with
      | nil => exact ⟨[], c :: last, rfl, rfl⟩
      | cons piece front => exact ⟨(c :: piece) :: front, last, rfl, rfl⟩

/-! ## Lines -/

/-- A line holds characters of the text, and no newline. -/
theorem mem_of_mem_lines {s line : List Char} (h : line ∈ lines s) {c : Char} (hc : c ∈ line) :
    c ∈ s ∧ c ≠ '\n' := by
  have hpiece : ∃ piece ∈ s.splitOn '\n', c ∈ piece := by
    unfold lines at h
    rcases List.mem_append.mp h with h | h
    · obtain ⟨piece, hpiece, rfl⟩ := List.mem_map.mp h
      exact ⟨piece, List.dropLast_subset _ hpiece, mem_of_mem_dropReturn hc⟩
    · split at h
      · simp at h
      · rw [List.getLast?_eq_some_getLast (List.splitOn_ne_nil '\n' s), Option.getD_some,
          List.mem_singleton] at h
        exact ⟨line, h ▸ List.getLast_mem _, hc⟩
  obtain ⟨piece, hpiece, hc⟩ := hpiece
  exact ⟨mem_of_mem_splitOn hpiece hc, fun e ↦ notMem_of_mem_splitOn hpiece (e ▸ hc)⟩

/-- The lines of a text up to a newline do not depend on what follows it. -/
theorem lines_append_newline (s t : List Char) :
    lines (s ++ '\n' :: t) = (s.splitOn '\n').map dropReturn ++ lines t := by
  have ht : t.splitOn '\n' ≠ [] := List.splitOn_ne_nil '\n' t
  have hlast : (s.splitOn '\n' ++ t.splitOn '\n').getLast? = (t.splitOn '\n').getLast? := by
    rw [List.getLast?_append, List.getLast?_eq_some_getLast ht, Option.some_or]
  simp only [lines, List.splitOn_append_cons_self, hlast]
  rw [List.dropLast_append_of_ne_nil ht, List.map_append, List.append_assoc]

/-- **The lines of a text that is written line by line**, whatever the lines hold. -/
theorem lines_flatMap (ls : List (List Char)) :
    lines (ls.flatMap fun l ↦ l ++ ['\n']) =
      ls.flatMap fun l ↦ (l.splitOn '\n').map dropReturn := by
  induction ls with
  | nil => exact lines_nil
  | cons l ls ih =>
    rw [List.flatMap_cons, List.flatMap_cons, List.append_assoc, List.singleton_append,
      lines_append_newline, ih]

theorem lines_flatMap_of_newline {ls : List (List Char)} (h : ∀ l ∈ ls, '\n' ∉ l) :
    lines (ls.flatMap fun l ↦ l ++ ['\n']) = ls.map dropReturn := by
  rw [lines_flatMap]
  induction ls with
  | nil => rfl
  | cons l ls ih =>
    rw [List.forall_mem_cons] at h
    rw [List.flatMap_cons, List.splitOn_eq_singleton h.1, ih h.2]
    rfl

/-- A text on one line is that line, unless it is empty. -/
theorem lines_of_newline {s : List Char} (hne : s ≠ []) (h : '\n' ∉ s) : lines s = [s] := by
  rw [lines, splitOn_of_notMem h]
  simp [hne]

theorem map_snd_numberedLines (s : List Char) : (numberedLines s).map (·.2) = lines s := by
  rw [numberedLines, List.map_map]
  exact List.zipIdx_map_fst 0 (lines s)

/-! ## Blanks at the ends -/

theorem trimStart_eq_iff {s t : List Char} (ht : t.head?.any isBlank = false) :
    trimStart s = t ↔ ∃ front, allBlank front = true ∧ s = front ++ t := by
  constructor
  · rintro rfl
    exact ⟨s.takeWhile isBlank, List.all_takeWhile, List.takeWhile_append_dropWhile.symm⟩
  · rintro ⟨front, hfront, rfl⟩
    rw [trimStart, List.dropWhile_append_of_pos (List.all_eq_true.mp hfront)]
    cases t with
    | nil => rfl
    | cons c t => rw [List.dropWhile_cons_of_neg (by simpa using ht)]

theorem trimEnd_eq_iff {s t : List Char} (ht : t.getLast?.any isBlank = false) :
    trimEnd s = t ↔ ∃ back, allBlank back = true ∧ s = t ++ back := by
  have hback : trimEnd s = t ↔ trimStart s.reverse = t.reverse := by
    rw [← List.reverse_inj, trimEnd, List.reverse_reverse, trimStart]
  rw [hback, trimStart_eq_iff (by rwa [List.head?_reverse])]
  constructor
  · rintro ⟨front, hfront, hs⟩
    refine ⟨front.reverse, ?_, ?_⟩
    · rwa [allBlank, List.all_reverse]
    · rw [← List.reverse_inj, hs, List.reverse_append, List.reverse_reverse]
  · rintro ⟨back, hback, rfl⟩
    exact ⟨back.reverse, by rwa [allBlank, List.all_reverse], List.reverse_append⟩

theorem trim_eq_iff {s t : List Char} (hne : t ≠ []) (hhead : t.head?.any isBlank = false)
    (hlast : t.getLast?.any isBlank = false) :
    trim s = t ↔ ∃ front back, allBlank front = true ∧ allBlank back = true ∧
      s = front ++ (t ++ back) := by
  have hstart (back : List Char) : (t ++ back).head?.any isBlank = false := by
    rwa [List.head?_append_of_ne_nil t hne]
  rw [trim, trimEnd_eq_iff hlast]
  constructor
  · rintro ⟨back, hback, hs⟩
    obtain ⟨front, hfront, rfl⟩ := (trimStart_eq_iff (hstart back)).mp hs
    exact ⟨front, back, hfront, hback, rfl⟩
  · rintro ⟨front, back, hfront, hback, rfl⟩
    exact ⟨back, hback, (trimStart_eq_iff (hstart back)).mpr ⟨front, hfront, rfl⟩⟩

/-! ## Words -/

/-- Words with blanks between them, and any blanks around. -/
inductive Spaced : List Char → List (List Char) → Prop where
  /-- Blanks alone hold no word. -/
  | blank {s : List Char} (h : allBlank s = true) : Spaced s []
  /-- A word goes on up to a blank, or to the end. -/
  | word {front w tail : List Char} {ws : List (List Char)} (hfront : allBlank front = true)
      (hne : w ≠ []) (hw : ∀ c ∈ w, isBlank c = false) (hnext : ∀ c ∈ tail.head?, isBlank c = true)
      (h : Spaced tail ws) : Spaced (front ++ (w ++ tail)) (w :: ws)

theorem words_cons_of_blank {c : Char} (hc : isBlank c = true) (s : List Char) :
    words (c :: s) = words s := by
  rw [words, List.splitOnP_cons_eq_if_modifyHead, if_pos hc,
    List.filter_cons_of_neg (by simp), ← words]

theorem words_append_of_allBlank {front : List Char} (h : allBlank front = true) (s : List Char) :
    words (front ++ s) = words s := by
  induction front with
  | nil => rfl
  | cons c front ih =>
    rw [allBlank, List.all_cons, Bool.and_eq_true] at h
    rw [List.cons_append, words_cons_of_blank h.1, ih h.2]

theorem words_append_of_plain {w tail : List Char} (hne : w ≠ [])
    (hw : ∀ c ∈ w, isBlank c = false) (hnext : ∀ c ∈ tail.head?, isBlank c = true) :
    words (w ++ tail) = w :: words tail := by
  have hfilled : (!w.isEmpty) = true := by simpa using hne
  cases tail with
  | nil =>
    rw [List.append_nil, words, List.splitOnP_eq_singleton hw, List.filter_cons, if_pos hfilled]
    rfl
  | cons c tail =>
    rw [words_cons_of_blank (hnext c rfl), words,
      List.splitOnP_append_cons_of_forall_mem hw c (hnext c rfl), List.filter_cons,
      if_pos hfilled, ← words]

theorem Spaced.words_eq {s : List Char} {ws : List (List Char)} (h : Spaced s ws) :
    words s = ws := by
  induction h with
  | @blank s h => rw [← List.append_nil s, words_append_of_allBlank h]; rfl
  | word hfront hne hw hnext _ ih =>
    rw [words_append_of_allBlank hfront, words_append_of_plain hne hw hnext, ih]

theorem Spaced.first {w tail : List Char} {ws : List (List Char)} (hne : w ≠ [])
    (hw : ∀ c ∈ w, isBlank c = false) (hnext : ∀ c ∈ tail.head?, isBlank c = true)
    (h : Spaced tail ws) : Spaced (w ++ tail) (w :: ws) := by
  rw [← List.nil_append (w ++ tail)]
  exact .word rfl hne hw hnext h

theorem exists_spaced (s : List Char) : ∃ ws, Spaced s ws := by
  induction s with
  | nil => exact ⟨[], .blank rfl⟩
  | cons c s ih =>
    obtain ⟨ws, hs⟩ := ih
    cases hc : isBlank c with
    | true =>
      have hfront {front : List Char} (h : allBlank front = true) :
          allBlank (c :: front) = true := by
        rwa [allBlank, List.all_cons, hc, Bool.true_and]
      cases hs with
      | blank h => exact ⟨[], .blank (hfront h)⟩
      | word h hne hw hnext hrest => exact ⟨_, .word (hfront h) hne hw hnext hrest⟩
    | false =>
      -- The character stands alone in its word, unless another word follows at once.
      have halone (hnext : ∀ d ∈ s.head?, isBlank d = true) : ∃ ws, Spaced (c :: s) ws :=
        ⟨_, .first (List.cons_ne_nil c []) (by simpa using hc) hnext hs⟩
      cases hs with
      | blank h =>
        exact halone fun d hd ↦ List.all_eq_true.mp h d (List.mem_of_mem_head? hd)
      | @word front w tail ws hfront hne hw hnext hrest =>
        cases front with
        | nil =>
          have hw' : ∀ d ∈ c :: w, isBlank d = false := List.forall_mem_cons.mpr ⟨hc, hw⟩
          exact ⟨_, .first (List.cons_ne_nil c w) hw' hnext hrest⟩
        | cons d front =>
          refine halone fun e he ↦ ?_
          obtain rfl := Option.some.inj he
          exact List.all_eq_true.mp hfront d List.mem_cons_self

/-- **Words are what stands between blanks.** -/
theorem words_eq_iff {s : List Char} {ws : List (List Char)} : words s = ws ↔ Spaced s ws := by
  refine ⟨?_, Spaced.words_eq⟩
  rintro rfl
  obtain ⟨ws, h⟩ := exists_spaced s
  rwa [h.words_eq]

/-- The words of a text that is written word by word. -/
theorem words_intercalate {ws : List (List Char)}
    (h : ∀ w ∈ ws, w ≠ [] ∧ ∀ c ∈ w, isBlank c = false) : words ([' '].intercalate ws) = ws := by
  induction ws with
  | nil => rfl
  | cons w ws ih =>
    rw [List.forall_mem_cons] at h
    obtain ⟨⟨hne, hw⟩, hws⟩ := h
    cases ws with
    | nil =>
      have hword : words (w ++ []) = [w] := words_append_of_plain hne hw (by simp)
      rw [List.intercalate_singleton]
      rwa [List.append_nil] at hword
    | cons v ws =>
      have hspace : isBlank ' ' = true := by decide
      rw [List.intercalate_cons_cons, List.append_assoc, List.singleton_append,
        words_append_of_plain hne hw (by simpa using hspace), words_cons_of_blank hspace, ih hws]

/-! ## Marks -/

theorem isPrefixOf?_append (s t : List Char) : s.isPrefixOf? (s ++ t) = some t := by
  induction s with
  | nil => rfl
  | cons c s ih => exact (if_pos (beq_self_eq_true c)).trans ih

theorem isSuffixOf?_eq_some_iff {s t front : List Char} :
    t.isSuffixOf? s = some front ↔ s = front ++ t := by
  show (t.reverse.isPrefixOf? s.reverse).map List.reverse = some front ↔ _
  rw [Option.map_eq_some_iff]
  constructor
  · rintro ⟨rest, hrest, rfl⟩
    rw [← List.reverse_inj, List.reverse_append, List.reverse_reverse]
    exact (List.isPrefixOf?_eq_some_iff_append_eq.mp hrest).symm
  · rintro rfl
    exact ⟨front.reverse, by rw [List.reverse_append, isPrefixOf?_append],
      List.reverse_reverse front⟩

theorem isPrefixOf?_cons_of_ne {c d : Char} (h : c ≠ d) (s t : List Char) :
    (c :: s).isPrefixOf? (d :: t) = none :=
  if_neg (by simpa using h)

theorem cutOnce_go (pat passed s : List Char) :
    cutOnce.go pat passed s = (cutOnce pat s).map fun p ↦ (passed.reverse ++ p.1, p.2) := by
  have key (passed more : List Char) : cutOnce.go pat (passed ++ more) s =
      (cutOnce.go pat passed s).map fun p ↦ (more.reverse ++ p.1, p.2) := by
    induction s generalizing passed with
    | nil =>
      rw [cutOnce.go, cutOnce.go]
      split <;> simp
    | cons c s ih =>
      rw [cutOnce.go, cutOnce.go]
      split
      · simp
      · exact ih (c :: passed)
  exact key [] passed

/-- The first mark of a text stands at its start, or in what follows the first character. -/
theorem cutOnce_cons (pat : List Char) (c : Char) (s : List Char) :
    cutOnce pat (c :: s) = match pat.isPrefixOf? (c :: s) with
      | some after => some ([], after)
      | none => (cutOnce pat s).map fun p ↦ (c :: p.1, p.2) := by
  rw [cutOnce, cutOnce.go]
  cases pat.isPrefixOf? (c :: s) with
  | some after => rfl
  | none => exact cutOnce_go pat [c] s

/-- **A cut is made at the first mark.** -/
theorem cutOnce_eq_some_iff {pat s before after : List Char} :
    cutOnce pat s = some (before, after) ↔ s = before ++ (pat ++ after) ∧
      ∀ before' after', s = before' ++ (pat ++ after') → before.length ≤ before'.length := by
  induction s generalizing before with
  | nil =>
    cases pat with
    | nil => simp +contextual [cutOnce, cutOnce.go, eq_comm]
    | cons d pat => simp [cutOnce, cutOnce.go]
  | cons c s ih =>
    rw [cutOnce_cons]
    split
    · rename_i rest hrest
      rw [← List.isPrefixOf?_eq_some_iff_append_eq.mp hrest, Option.some.injEq, Prod.mk.injEq]
      constructor
      · rintro ⟨rfl, rfl⟩
        exact ⟨rfl, fun _ _ _ ↦ Nat.zero_le _⟩
      · rintro ⟨hsplit, hfirst⟩
        have hnil : before = [] := List.length_eq_zero_iff.mp (Nat.le_zero.mp (hfirst [] rest rfl))
        rw [hnil] at hsplit
        exact ⟨hnil.symm, List.append_cancel_left hsplit⟩
    · rename_i hnone
      have hstart (rest : List Char) : c :: s ≠ pat ++ rest := by
        intro hsplit
        have hsome := List.isPrefixOf?_eq_some_iff_append_eq.mpr hsplit.symm
        rw [hnone] at hsome
        cases hsome
      rw [Option.map_eq_some_iff]
      constructor
      · rintro ⟨⟨front, rest⟩, hcut, hpair⟩
        obtain ⟨rfl, rfl⟩ := Prod.mk.inj hpair
        obtain ⟨rfl, hfirst⟩ := ih.mp hcut
        refine ⟨rfl, fun before' after' hsplit ↦ ?_⟩
        cases before' with
        | nil => exact absurd hsplit (hstart after')
        | cons d before' =>
          exact Nat.succ_le_succ (hfirst before' after' (List.cons.inj hsplit).2)
      · rintro ⟨hsplit, hfirst⟩
        cases before with
        | nil => exact absurd hsplit (hstart after)
        | cons d before =>
          obtain ⟨rfl, hs⟩ := List.cons.inj hsplit
          refine ⟨(before, after), ih.mpr ⟨hs, fun before' after' hs' ↦ ?_⟩, rfl⟩
          exact Nat.le_of_succ_le_succ (hfirst (c :: before') after' (congrArg (c :: ·) hs'))

/-- **A mark is found where it was put**, if the text before it lacks the character that the mark
starts with. -/
theorem cutOnce_append {c : Char} {s : List Char} (h : c ∉ s) (mark t : List Char) :
    cutOnce (c :: mark) (s ++ (c :: mark ++ t)) = some (s, t) := by
  induction s with
  | nil =>
    rw [List.nil_append, List.cons_append, cutOnce_cons, ← List.cons_append, isPrefixOf?_append]
  | cons d s ih =>
    rw [List.mem_cons, not_or] at h
    rw [List.cons_append, cutOnce_cons, isPrefixOf?_cons_of_ne h.1, ih h.2]
    rfl

/-- A cut at a character is made where it first stands. -/
theorem cutOnce_singleton_eq_some_iff {c : Char} {s before after : List Char} :
    cutOnce [c] s = some (before, after) ↔ s = before ++ c :: after ∧ c ∉ before := by
  constructor
  · intro h
    obtain ⟨hs, hfirst⟩ := cutOnce_eq_some_iff.mp h
    refine ⟨hs, fun hc ↦ ?_⟩
    obtain ⟨front, rest, rfl⟩ := List.append_of_mem hc
    have hle := hfirst front (rest ++ c :: after) (by simpa using hs)
    rw [List.length_append, List.length_cons] at hle
    omega
  · rintro ⟨rfl, hc⟩
    exact cutOnce_append hc [] after

/-- A character at which nothing is cut does not occur. -/
theorem cutOnce_singleton_eq_none_iff {c : Char} {s : List Char} :
    cutOnce [c] s = none ↔ c ∉ s := by
  constructor
  · intro h hmem
    obtain ⟨before, after, hs, hbefore⟩ := List.eq_append_cons_of_mem hmem
    rw [cutOnce_singleton_eq_some_iff.mpr ⟨hs, hbefore⟩] at h
    cases h
  · intro h
    refine Option.eq_none_iff_forall_ne_some.mpr fun cut hcut ↦ h ?_
    rw [(cutOnce_singleton_eq_some_iff.mp hcut).1]
    simp

theorem cutAt?_eq_some_iff {c : Char} {s before after : String} :
    cutAt? c s = some (before, after) ↔
      s = before ++ String.singleton c ++ after ∧ c ∉ before.toList := by
  have hs : s = before ++ String.singleton c ++ after ↔
      s.toList = before.toList ++ c :: after.toList := by
    rw [← String.toList_inj]
    simp
  rw [hs, ← cutOnce_singleton_eq_some_iff, cutAt?, Option.map_eq_some_iff]
  constructor
  · rintro ⟨p, hp, hpair⟩
    obtain ⟨rfl, rfl⟩ := Prod.mk.inj hpair
    rw [hp, String.toList_ofList, String.toList_ofList]
  · intro h
    exact ⟨_, h, by simp⟩

/-- A text occurs in another if it is a piece of it. -/
theorem occursIn_iff {pat s : List Char} : occursIn pat s = true ↔ pat <:+: s := by
  rw [occursIn]
  induction s with
  | nil => cases pat <;> simp [cutOnce, cutOnce.go]
  | cons c s ih =>
    rw [cutOnce_cons, List.infix_cons_iff]
    split
    · rename_i after hafter
      exact iff_of_true rfl (.inl ⟨after, List.isPrefixOf?_eq_some_iff_append_eq.mp hafter⟩)
    · rename_i hnone
      rw [Option.isSome_map, ih, or_iff_right]
      rintro ⟨after, hafter⟩
      rw [List.isPrefixOf?_eq_some_iff_append_eq.mpr hafter] at hnone
      cases hnone

end WebTestRun.Text
