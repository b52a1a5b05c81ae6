import Mathlib.Data.List.Induction
import WebTestRun.Proofs.Baseline.RoundTrip
import WebTestRun.Proofs.Collection.Keyed

/-!
# The grammar of baselines

A baseline is told apart from other texts by a grammar that says nothing of how it is read: a line
opens an item or goes on with the message of the item above it, items make a body, and a body
stands between a header and a footer. Reading finds a baseline exactly if the grammar has one, and
the same one. A body that has none is blamed on the line with which it stops being the beginning
of one.

* `Opens`, `HasItems`, `IsBody` — lines, items and bodies.
* `Declares` — the baseline of lines.
* `BodyLine.cases_of_read`, `addLines_eq_ok_iff`, `read_eq_ok_iff` — what is read is what the
  grammar says, for a line, a body and a whole text.
* `exists_of_readBody_error` — the line that is blamed.
* `read_by_grammar` — both for a text.
-/

set_option autoImplicit false

namespace WebTestRun.Baseline

open Text

/-! ## The grammar -/

/-- A list of statuses, one at least, with blanks between them. -/
def IsStatusList (s : List Char) (statuses : Choice Recorded) : Prop :=
  ∃ rs : List Recorded, rs ≠ [] ∧ Spaced s (rs.map fun r ↦ (Named.name r).toList) ∧
    statuses = .ofList rs

/-- A line that opens an item: one of a subtest, or of the harness error. -/
inductive Opens : List Char → Option String → Choice Recorded → Prop where
  /-- The statuses of a subtest end at the first bracket with a space after it. -/
  | subtest {s name : List Char} {statuses : Choice Recorded} (h : IsStatusList s statuses)
      (hfirst : ∀ before after, s ++ ([']', ' '] ++ name) = before ++ ([']', ' '] ++ after) →
        s.length ≤ before.length) :
      Opens ('[' :: (s ++ ([']', ' '] ++ name))) (some (String.ofList name)) statuses
  /-- Blanks may follow the statuses of the harness error. -/
  | harness {s blanks : List Char} {statuses : Choice Recorded} (h : IsStatusList s statuses)
      (hblanks : allBlank blanks = true) :
      Opens (harnessPrefix.toList ++ (s ++ [']'] ++ blanks)) none statuses

/-- Lines that are items one after the other: each a line that opens it, and its message. -/
inductive HasItems : List (List Char) → List Item → Prop where
  | nil : HasItems [] []
  | item {body : List (List Char)} {items : List Item} {line : List Char}
      {subtest : Option String} {statuses : Choice Recorded} (h : HasItems body items)
      (hopens : Opens line subtest statuses) (message : List (List Char)) :
      HasItems (body ++ line :: message.map (indent.toList ++ ·))
        (items ++ [⟨subtest, statuses, message.map String.ofList⟩])

/-- The lines of a body. -/
structure IsBody (body : List (List Char)) (items : List Item) : Prop where
  /-- They are items. -/
  hasItems : HasItems body items
  /-- No two items are of one subtest, and no two of the harness error. -/
  nodup : (items.map Item.subtest).Nodup

/-- A body between a header and a footer, which blanks may follow. -/
def Framed (lines : List (List Char)) (header : Header) (body : List (List Char)) : Prop :=
  ∃ back back', allBlank back = true ∧ allBlank back' = true ∧
    lines = (header.line.toList ++ back) :: (body ++ [footer.toList ++ back'])

/-- The baseline that lines declare, none of which is empty. -/
inductive Declares : List (List Char) → Baseline → Prop where
  /-- The marker line alone, with any blanks around it. -/
  | allPass {front back : List Char} (hfront : allBlank front = true)
      (hback : allBlank back = true) : Declares [front ++ (allPassMarker.toList ++ back)] {}
  /-- A header, a body and a footer. -/
  | framed {lines body : List (List Char)} {header : Header} {items : List Item}
      (h : Framed lines header body) (hbody : IsBody body items) :
      Declares lines ⟨some header, outcomesOf items⟩

/-- The lines that are not empty. -/
def filled (lines : List (List Char)) : List (List Char) := lines.filter fun l ↦ !l.isEmpty

/-- A text has a line of this number, and other lines before it, the empty ones not counted. -/
def StandsAt (text : String) (number : Nat) (before : List (List Char)) (line : List Char) : Prop :=
  ∃ i, number = i + 1 ∧ (lines text.toList)[i]? = some line ∧
    filled ((lines text.toList).take i) = before

/-! ## Lines -/

theorem readStatuses_iff {s : List Char} {statuses : Choice Recorded} :
    readStatuses s = .ok statuses ↔ IsStatusList s statuses := by
  simp only [readStatuses_eq_ok_iff, words_eq_iff, IsStatusList]

/-- What a line says that opens an item. -/
def BodyLine.opening : Option String → Choice Recorded → BodyLine
  | none, statuses => .harnessError statuses
  | some name, statuses => .subtest name statuses

theorem not_blank_of_getLast?_bracket (s : List Char) :
    (s ++ [']']).getLast?.any isBlank = false := by
  rw [List.getLast?_concat]
  decide

theorem BodyLine.read_of_opens {line : List Char} {subtest : Option String}
    {statuses : Choice Recorded} (h : Opens line subtest statuses) :
    BodyLine.read line = .ok (.opening subtest statuses) := by
  cases h with
  | subtest h hfirst =>
    rw [BodyLine.read_bracket, cutOnce_eq_some_iff.mpr ⟨rfl, hfirst⟩]
    dsimp only
    rw [readStatuses_iff.mpr h]
    rfl
  | harness h hblanks =>
    rw [BodyLine.read_harnessPrefix,
      (trimEnd_eq_iff (not_blank_of_getLast?_bracket _)).mpr ⟨_, hblanks, rfl⟩,
      isSuffixOf?_eq_some_iff.mpr rfl]
    dsimp only
    rw [readStatuses_iff.mpr h]
    rfl

theorem BodyLine.cases_of_read {line : List Char} {l : BodyLine} (h : BodyLine.read line = .ok l) :
    (∃ content, line = indent.toList ++ content ∧ l = .message (String.ofList content)) ∨
      ∃ subtest statuses, Opens line subtest statuses ∧ l = .opening subtest statuses := by
  -- The cases are those of `read`: a message, a harness error, a subtest.
  unfold BodyLine.read at h
  dsimp only at h
  split at h
  · rename_i content hcontent
    exact .inl ⟨content, (List.isPrefixOf?_eq_some_iff_append_eq.mp hcontent).symm,
      (Except.ok.inj h).symm⟩
  · right
    split at h
    · rename_i rest hrest
      split at h
      · rename_i s hs
        obtain ⟨statuses, hstatuses, rfl⟩ := Answer.map_eq_ok_iff.mp h
        obtain ⟨blanks, hblanks, rfl⟩ := (trimEnd_eq_iff (not_blank_of_getLast?_bracket s)).mp
          (isSuffixOf?_eq_some_iff.mp hs)
        rw [← List.isPrefixOf?_eq_some_iff_append_eq.mp hrest]
        exact ⟨_, _, .harness (readStatuses_iff.mp hstatuses) hblanks, rfl⟩
      · cases h
    · split at h
      · split at h
        · rename_i s name hcut
          obtain ⟨statuses, hstatuses, rfl⟩ := Answer.map_eq_ok_iff.mp h
          obtain ⟨rfl, hfirst⟩ := cutOnce_eq_some_iff.mp hcut
          exact ⟨_, _, .subtest (readStatuses_iff.mp hstatuses) hfirst, rfl⟩
        · cases h
      · cases h

/-! ## Bodies -/

theorem addLine_opening_eq_ok_iff {items items' : List Item} {subtest : Option String}
    {statuses : Choice Recorded} :
    addLine items (.opening subtest statuses) = .ok items' ↔
      subtest ∉ items.map Item.subtest ∧ ⟨subtest, statuses, []⟩ :: items = items' := by
  cases subtest with
  | none =>
    rw [BodyLine.opening, addLine]
    split <;> simp_all
  | some name =>
    rw [BodyLine.opening, addLine]
    split <;> simp_all

/-- The last item of a body that has items. -/
theorem hasItems_concat_iff {body : List (List Char)} {items : List Item} {i : Item} :
    HasItems body (items ++ [i]) ↔
      ∃ (front : List (List Char)) (line : List Char) (message : List (List Char)),
      HasItems front items ∧ Opens line i.subtest i.statuses ∧
      message.map String.ofList = i.messageLines ∧
      body = front ++ line :: message.map (indent.toList ++ ·) := by
  constructor
  · intro h
    generalize hall : items ++ [i] = all at h
    cases h with
    | nil => simp at hall
    | item h hopens message =>
      obtain ⟨rfl, hlast⟩ := List.append_inj' hall rfl
      obtain rfl := List.singleton_inj.mp hlast
      exact ⟨_, _, message, h, hopens, rfl, rfl⟩
  · rintro ⟨front, line, message, h, hopens, hmessage, rfl⟩
    obtain ⟨subtest, statuses, messageLines⟩ := i
    obtain rfl := hmessage
    exact h.item hopens message

/-- **A line that can be read makes a longer body.** -/
theorem IsBody.addLine {body : List (List Char)} {items items' : List Item} {line : List Char}
    (h : IsBody body items.reverse) {l : BodyLine} (hread : BodyLine.read line = .ok l)
    (hadd : Baseline.addLine items l = .ok items') : IsBody (body ++ [line]) items'.reverse := by
  rcases BodyLine.cases_of_read hread with ⟨content, rfl, rfl⟩ | ⟨subtest, statuses, hopens, rfl⟩
  · cases items with
    | nil => cases hadd
    | cons i items =>
      obtain rfl := Except.ok.inj hadd
      obtain ⟨hitems, hnodup⟩ := h
      rw [List.reverse_cons] at hitems hnodup
      obtain ⟨front, line, message, hfront, hopens, hmessage, rfl⟩ := hasItems_concat_iff.mp hitems
      refine ⟨?_, ?_⟩
      · rw [List.reverse_cons, hasItems_concat_iff]
        refine ⟨front, line, message ++ [content], hfront, hopens, ?_, by simp⟩
        rw [List.map_append, hmessage]
        rfl
      · rw [List.reverse_cons]
        simpa using hnodup
  · obtain ⟨hnew, rfl⟩ := addLine_opening_eq_ok_iff.mp hadd
    rw [List.reverse_cons]
    refine ⟨h.hasItems.item hopens [], ?_⟩
    rw [List.map_append, List.map_singleton, Keyed.nodup_concat_iff]
    exact ⟨by simpa using hnew, h.nodup⟩

theorem isBody_of_addLines {body : List (List Char)} {items : List Item}
    (h : addLines [] body = .ok items) : IsBody body items.reverse := by
  induction body using List.reverseRecOn generalizing items with
  | nil =>
    obtain rfl := Except.ok.inj h
    exact ⟨.nil, List.nodup_nil⟩
  | append_singleton body line ih =>
    rw [addLines_append] at h
    obtain ⟨before, hbefore, hline⟩ := Answer.bind_eq_ok_iff.mp h
    rw [addLines_cons] at hline
    obtain ⟨after, hafter, hend⟩ := Answer.bind_eq_ok_iff.mp hline
    obtain rfl := Except.ok.inj hend
    obtain ⟨l, hread, hadd⟩ := Answer.bind_eq_ok_iff.mp hafter
    exact (ih hbefore).addLine hread hadd

theorem addLines_of_hasItems {body : List (List Char)} {items : List Item}
    (h : HasItems body items) (hnodup : (items.map Item.subtest).Nodup) :
    addLines [] body = .ok items.reverse := by
  induction h with
  | nil => rfl
  | @item body items line subtest statuses _ hopens message ih =>
    rw [List.map_append, List.map_singleton, Keyed.nodup_concat_iff] at hnodup
    have hadd : addLine items.reverse (.opening subtest statuses) =
        .ok (⟨subtest, statuses, []⟩ :: items.reverse) :=
      addLine_opening_eq_ok_iff.mpr ⟨by simpa using hnodup.1, rfl⟩
    rw [addLines_append, ih hnodup.2]
    show addLines items.reverse _ = _
    rw [addLines_cons, BodyLine.read_of_opens hopens]
    show (addLine _ _).bind _ = _
    rw [hadd]
    show addLines _ _ = _
    rw [addLines_message]
    simp

/-- **What is read from a body** is what the grammar says. -/
theorem addLines_eq_ok_iff {body : List (List Char)} {items : List Item} :
    addLines [] body = .ok items.reverse ↔ IsBody body items := by
  constructor
  · intro h
    have hbody := isBody_of_addLines h
    rwa [List.reverse_reverse] at hbody
  · exact fun h ↦ addLines_of_hasItems h.hasItems h.nodup

theorem exists_of_foldlM_error {items : List Item} {body : List (Nat × List Char)} {e : Error}
    (h : body.foldlM readLine items = .error e) : ∃ before bad after read fault,
      body = before ++ bad :: after ∧ addLines items (before.map (·.2)) = .ok read ∧
      (BodyLine.read bad.2).bind (addLine read) = .error fault ∧ e = ⟨bad.1, fault⟩ := by
  induction body generalizing items with
  | nil => cases h
  | cons l body ih =>
    rw [List.foldlM_cons, readLine] at h
    cases hline : (BodyLine.read l.2).bind (addLine items) with
    | error fault =>
      rw [hline] at h
      exact ⟨[], l, body, items, fault, rfl, rfl, hline, (Except.error.inj h).symm⟩
    | ok next =>
      rw [hline] at h
      obtain ⟨before, bad, after, read, fault, rfl, hbefore, hbad, rfl⟩ := ih h
      refine ⟨l :: before, bad, after, read, fault, rfl, ?_, hbad, rfl⟩
      rw [List.map_cons, addLines_cons, hline]
      exact hbefore

/-- **A body that cannot be read is blamed on the line with which it stops being one**: the lines
before it are a body, and they are none with that line, whatever follows. -/
theorem exists_of_readBody_error {body : List (Nat × List Char)} {e : Error}
    (h : readBody body = .error e) : ∃ before bad after, body = before ++ bad :: after ∧
      e.line = bad.1 ∧ (∃ items, IsBody (before.map (·.2)) items) ∧
      ∀ more items, ¬ IsBody (before.map (·.2) ++ bad.2 :: more) items := by
  cases hbody : body.foldlM readLine [] with
  | ok items =>
    rw [readBody, hbody] at h
    cases h
  | error e' =>
    rw [readBody, hbody] at h
    obtain rfl := Except.error.inj h
    obtain ⟨before, bad, after, read, fault, rfl, hbefore, hbad, rfl⟩ :=
      exists_of_foldlM_error hbody
    refine ⟨before, bad, after, rfl, rfl, ⟨_, isBody_of_addLines hbefore⟩,
      fun more items hmore ↦ ?_⟩
    have hread := addLines_eq_ok_iff.mpr hmore
    rw [addLines_append, hbefore] at hread
    obtain ⟨next, hnext, -⟩ := Answer.bind_eq_ok_iff.mp ((addLines_cons _ _ _).symm.trans hread)
    rw [hbad] at hnext
    cases hnext

/-! ## The whole text -/

theorem Header.ofLine?_eq_some_iff {line : List Char} {header : Header} :
    Header.ofLine? line = some header ↔
      ∃ back, allBlank back = true ∧ line = header.line.toList ++ back := by
  have hlast : header.line.toList.getLast?.any isBlank = false := by cases header <;> decide
  rw [← trimEnd_eq_iff hlast]
  constructor
  · intro h
    have hfound := List.find?_some h
    exact beq_iff_eq.mp hfound
  · intro h
    rw [Header.ofLine?, h]
    cases header <;> decide

theorem isFooter_iff {line : List Char} : (trimEnd line == footer.toList) = true ↔
    ∃ back, allBlank back = true ∧ line = footer.toList ++ back := by
  rw [beq_iff_eq]
  exact trimEnd_eq_iff (by decide)

theorem isMarker_iff {line : List Char} : (trim line == allPassMarker.toList) = true ↔
    ∃ front back, allBlank front = true ∧ allBlank back = true ∧
      line = front ++ (allPassMarker.toList ++ back) := by
  rw [beq_iff_eq]
  exact trim_eq_iff (by decide) (by decide) (by decide)

theorem readBody_eq_ok_iff {body : List (Nat × List Char)} {items : List Item} :
    readBody body = .ok items ↔ IsBody (body.map (·.2)) items := by
  rw [readBody, Answer.map_eq_ok_iff, ← addLines_eq_ok_iff, ← foldlM_readLine_eq_ok_iff]
  constructor
  · rintro ⟨read, hread, rfl⟩
    rw [hread, List.reverse_reverse]
  · exact fun h ↦ ⟨_, h, List.reverse_reverse items⟩

/-- The numbered lines of a frame. -/
theorem Framed.exists_of_map_snd {ls : List (Nat × List Char)} {header : Header}
    {body lines : List (List Char)} (h : Framed lines header body) (hls : ls.map (·.2) = lines) :
    ∃ (first : Nat × List Char) (inner : List (Nat × List Char)) (last : Nat × List Char),
      ls = first :: (inner ++ [last]) ∧ inner.map (·.2) = body ∧
      Header.ofLine? first.2 = some header ∧ (trimEnd last.2 == footer.toList) = true := by
  obtain ⟨back, back', hback, hback', rfl⟩ := h
  obtain ⟨first, rest, rfl, hfirst, hrest⟩ := List.map_eq_cons_iff.mp hls
  obtain ⟨inner, ends, rfl, hinner, hends⟩ := List.map_eq_append_iff.mp hrest
  obtain ⟨last, rfl, hlast⟩ := List.map_eq_singleton_iff.mp hends
  exact ⟨first, inner, last, rfl, hinner, Header.ofLine?_eq_some_iff.mpr ⟨back, hback, hfirst⟩,
    isFooter_iff.mpr ⟨back', hback', hlast⟩⟩

theorem ofLines_singleton (only : Nat × List Char) :
    ofLines [only] = if trim only.2 == allPassMarker.toList then .ok {}
      else match Header.ofLine? only.2 with
        | none => .error ⟨only.1, .missingHeader⟩
        | some _ => .error ⟨only.1, .missingFooter⟩ := by
  rw [ofLines, List.isEmpty_nil, Bool.true_and]
  rfl

/-- **What is read from lines** is what the grammar says. -/
theorem ofLines_eq_ok_iff {ls : List (Nat × List Char)} {b : Baseline} :
    ofLines ls = .ok b ↔ Declares (ls.map (·.2)) b := by
  constructor
  · intro h
    rcases ls with _ | ⟨first, rest⟩
    · cases h
    · rcases List.eq_nil_or_concat rest with rfl | ⟨body, last, rfl⟩
      · rw [ofLines_singleton] at h
        split at h
        · rename_i hmarker
          obtain rfl := Except.ok.inj h
          obtain ⟨front, back, hfront, hback, hfirst⟩ := isMarker_iff.mp hmarker
          rw [List.map_singleton, hfirst]
          exact .allPass hfront hback
        · split at h <;> cases h
      · rw [List.concat_eq_append, ofLines_cons_concat] at h
        split at h
        · cases h
        · rename_i header hheader
          split at h
          · rename_i hfooter
            obtain ⟨items, hitems, rfl⟩ := Answer.map_eq_ok_iff.mp h
            obtain ⟨back, hback, hfirst⟩ := Header.ofLine?_eq_some_iff.mp hheader
            obtain ⟨back', hback', hlast⟩ := isFooter_iff.mp hfooter
            refine .framed ⟨back, back', hback, hback', ?_⟩ (readBody_eq_ok_iff.mp hitems)
            rw [List.map_cons, hfirst, List.concat_eq_append, List.map_append, List.map_singleton,
              hlast]
          · cases h
  · intro h
    generalize hlines : ls.map (·.2) = lines at h
    cases h with
    | allPass hfront hback =>
      obtain ⟨only, rfl, honly⟩ := List.map_eq_singleton_iff.mp hlines
      rw [ofLines_singleton, if_pos (isMarker_iff.mpr ⟨_, _, hfront, hback, honly⟩)]
    | framed h hbody =>
      obtain ⟨first, body, last, rfl, rfl, hheader, hfooter⟩ := h.exists_of_map_snd hlines
      rw [ofLines_cons_concat, hheader]
      dsimp only
      rw [if_pos hfooter, readBody_eq_ok_iff.mpr hbody]
      rfl

theorem map_snd_filledLines (text : String) :
    (filledLines text.toList).map (·.2) = filled (lines text.toList) :=
  filledLines_map_snd text.toList

/-- **What is read from a text** is what the grammar says. -/
theorem read_eq_ok_iff {text : String} {b : Baseline} :
    read text = .ok b ↔ Declares (filled (lines text.toList)) b := by
  rw [read, ofLines_eq_ok_iff, map_snd_filledLines]

/-- Where a line stands in a text, among the lines that are not empty. -/
theorem standsAt_of_filledLines {text : String} {before after : List (Nat × List Char)}
    {numbered : Nat × List Char}
    (h : filledLines text.toList = before ++ numbered :: after) :
    StandsAt text numbered.1 (before.map (·.2)) numbered.2 := by
  obtain ⟨front, rest, hsplit, hfront, hrest⟩ := List.filter_eq_append_iff.mp h
  obtain ⟨empty, back, rfl, hempty, -, -⟩ := List.filter_eq_cons_iff.mp hrest
  have hlines : lines text.toList =
      (front ++ empty).map (·.2) ++ numbered.2 :: back.map (·.2) := by
    rw [← map_snd_numberedLines, hsplit]
    simp
  have hat : (lines text.toList)[(front ++ empty).length]? = some numbered.2 := by
    rw [hlines]
    simp
  have hnumber : (numberedLines text.toList)[(front ++ empty).length]? =
      some ((front ++ empty).length + 1, numbered.2) := by
    rw [numberedLines, List.getElem?_map, List.getElem?_zipIdx, hat]
    simp
  refine ⟨(front ++ empty).length, ?_, hat, ?_⟩
  · have hnumbered : (numberedLines text.toList)[(front ++ empty).length]? = some numbered := by
      rw [hsplit]
      simp
    rw [hnumber] at hnumbered
    exact (congrArg Prod.fst (Option.some.inj hnumbered)).symm
  · have hnone : empty.filter (fun l ↦ !l.2.isEmpty) = [] :=
      List.filter_eq_nil_iff.mpr hempty
    rw [hlines, List.take_left' (by simp), filled, List.filter_map, ← hfront]
    show ((front ++ empty).filter fun l ↦ !l.2.isEmpty).map _ = _
    rw [List.filter_append, hnone, List.append_nil]

/-- **Reading a baseline is following its grammar.** A text is read as a baseline exactly if its
lines, those that are empty left out, declare it. If a text has a header and a footer and is still
no baseline, then the error has the number of the first line of the body that no body goes on
with: the lines of the body before it are one, and with it they are none, whatever follows. -/
theorem read_by_grammar (text : String) :
    (∀ b, read text = .ok b ↔ Declares (filled (lines text.toList)) b) ∧
    ∀ header body e, Framed (filled (lines text.toList)) header body → read text = .error e →
      ∃ first before bad after, body = before ++ bad :: after ∧
        StandsAt text e.line (first :: before) bad ∧ (∃ items, IsBody before items) ∧
        ∀ more items, ¬ IsBody (before ++ bad :: more) items := by
  refine ⟨fun b ↦ read_eq_ok_iff, fun header body e hframe h ↦ ?_⟩
  obtain ⟨first, inner, last, hls, rfl, hheader, hfooter⟩ :=
    hframe.exists_of_map_snd (map_snd_filledLines text)
  have hbody : readBody inner = .error e := by
    rw [read, hls, ofLines_cons_concat, hheader] at h
    dsimp only at h
    rw [if_pos hfooter] at h
    cases hinner : readBody inner with
    | error e' =>
      rw [hinner] at h
      rw [Except.error.inj h]
    | ok items =>
      rw [hinner] at h
      cases h
  obtain ⟨before, bad, after, rfl, hline, hbefore, hnone⟩ := exists_of_readBody_error hbody
  refine ⟨first.2, before.map (·.2), bad.2, after.map (·.2), by simp, ?_, hbefore, hnone⟩
  rw [hline]
  have hsplit : filledLines text.toList = (first :: before) ++ bad :: (after ++ [last]) := by
    rw [hls]
    simp
  exact standsAt_of_filledLines hsplit

/-- A text that is a baseline but for a line of its body. -/
def faultyText : String :=
  "This is a testharness.js-based test. \n\n[FAIL PASS] a] b\n  m\n\nHarness Error.\n" ++
    "Harness: the test ran to completion.\n"

theorem read_by_grammar_sample : ∃ body e,
    Framed (filled (lines faultyText.toList)) .testharness body ∧ read faultyText = .error e ∧
      e.line = 6 ∧ (∀ b, ¬ Declares (filled (lines faultyText.toList)) b) ∧
      ∃ first before bad after, body = before ++ bad :: after ∧
        StandsAt faultyText 6 (first :: before) bad ∧ (∃ items, IsBody before items) ∧
        ∀ more items, ¬ IsBody (before ++ bad :: more) items := by
  have hframe : Framed (filled (lines faultyText.toList)) .testharness
      ["[FAIL PASS] a] b".toList, "  m".toList, "Harness Error.".toList] :=
    ⟨[' '], [], rfl, rfl, by decide +kernel⟩
  have hline : (match read faultyText with | .ok _ => 0 | .error e => e.line) = 6 := by
    decide +kernel
  obtain ⟨hdeclares, hblamed⟩ := read_by_grammar faultyText
  cases hread : read faultyText with
  | ok b =>
    rw [hread] at hline
    cases hline
  | error e =>
    rw [hread] at hline
    have hblame := hblamed _ _ _ hframe hread
    rw [show e.line = 6 from hline] at hblame
    refine ⟨_, e, hframe, rfl, hline, fun b hb ↦ ?_, hblame⟩
    have hok := (hdeclares b).mpr hb
    rw [hread] at hok
    cases hok

end WebTestRun.Baseline
