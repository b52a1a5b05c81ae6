import WebTestRun.Diff.Page
import WebTestRun.Proofs.Text.Pieces

/-!
# What a page with a diff says

The lines of a page are written between two tags. No line can be taken for markup, since the
characters that tags are made of are written as entities: the only tags among the lines are those
that mark removed and added ones. So both texts can be read back from the page, whatever they hold.

* `Diff.pieces` — a page taken apart in tags and characters, and `pieces_body` — those of a list of
  changes.
* `Diff.unescape` — entities read back, and `unescape_escape_append`.
* `Diff.readBack` — a text read back from a page, without the spans of the other text.
* `Diff.between?` — what stands between two tags, and `between?_page`.
* `Diff.Rebuilds` — changes from one text to another, and `html_lossless`.
-/

set_option autoImplicit false

namespace WebTestRun.Diff

/-! ## Pages taken apart -/

/-- A piece of a page. -/
inductive Piece where
  | tag (text : List Char)
  | char (c : Char)
  deriving DecidableEq, Repr

/-- What a page holds for a piece. -/
def Piece.text : Piece → List Char
  | .tag text => text
  | .char c => [c]

/-- The character of a piece, if it is no tag. -/
def Piece.char? : Piece → Option Char
  | .tag _ => none
  | .char c => some c

/-- The pieces of a page. A tag goes from `<` to the next `>`. The argument holds the characters of
the tag that has not ended, the last one first. -/
def piecesFrom (tag : List Char) : List Char → List Piece
  | [] => tag.reverse.map .char
  | c :: s =>
    if tag.isEmpty then
      if c = '<' then piecesFrom [c] s else .char c :: piecesFrom [] s
    else if c = '>' then .tag (c :: tag).reverse :: piecesFrom [] s
    else piecesFrom (c :: tag) s

/-- The pieces of a page. -/
def pieces (s : List Char) : List Piece := piecesFrom [] s

/-- A tag of a page, from its `<` to its `>`. -/
def IsTag (s : List Char) : Prop := ∃ name, s = '<' :: (name ++ ['>']) ∧ '>' ∉ name

/-- Nothing is lost when a page is taken apart. -/
theorem flatMap_pieces (s : List Char) : (pieces s).flatMap Piece.text = s := by
  have hfrom (tag : List Char) : (piecesFrom tag s).flatMap Piece.text = tag.reverse ++ s := by
    induction s generalizing tag with
    | nil => rw [piecesFrom, List.flatMap_map, List.append_nil]; exact List.flatMap_singleton' _
    | cons c s ih =>
      rw [piecesFrom]
      split
      · rename_i hempty
        rw [List.isEmpty_iff.mp hempty]
        split
        · exact ih [c]
        · rw [List.flatMap_cons, ih]
          rfl
      · split
        · rw [List.flatMap_cons, ih, Piece.text, List.reverse_cons, List.append_assoc]
          rfl
        · rw [ih, List.reverse_cons, List.append_assoc]
          rfl
  exact hfrom []

theorem pieces_append_of_notMem {s : List Char} (h : '<' ∉ s) (t : List Char) :
    pieces (s ++ t) = s.map .char ++ pieces t := by
  induction s with
  | nil => rfl
  | cons c s ih =>
    rw [List.mem_cons, not_or] at h
    have hcons : pieces (c :: (s ++ t)) = .char c :: pieces (s ++ t) := if_neg (Ne.symm h.1)
    rw [List.cons_append, hcons, ih h.2, List.map_cons, List.cons_append]

theorem pieces_append_of_isTag {tag : List Char} (h : IsTag tag) (t : List Char) :
    pieces (tag ++ t) = .tag tag :: pieces t := by
  obtain ⟨name, rfl, hname⟩ := h
  have hfrom (read : List Char) (hread : read ≠ []) :
      piecesFrom read (name ++ '>' :: t) = .tag (read.reverse ++ name ++ ['>']) :: pieces t := by
    induction name generalizing read with
    | nil => simp [piecesFrom, hread, pieces]
    | cons c name ih =>
      rw [List.mem_cons, not_or] at hname
      rw [List.cons_append, piecesFrom, if_neg (by simpa using hread), if_neg (Ne.symm hname.1),
        ih hname.2 (c :: read) (List.cons_ne_nil c read), List.reverse_cons]
      simp
  have hopen := hfrom ['<'] (List.cons_ne_nil _ _)
  simpa [pieces, piecesFrom] using hopen

/-! ## Entities -/

/-- A text with its entities read. -/
def unescape : List Char → List Char
  | '&' :: 'a' :: 'm' :: 'p' :: ';' :: s => '&' :: unescape s
  | '&' :: 'l' :: 't' :: ';' :: s => '<' :: unescape s
  | '&' :: 'g' :: 't' :: ';' :: s => '>' :: unescape s
  | '&' :: 'q' :: 'u' :: 'o' :: 't' :: ';' :: s => '"' :: unescape s
  | c :: s => c :: unescape s
  | [] => []

/-- The characters that a text does not hold once it is escaped. -/
def Plain (c : Char) : Prop := c ≠ '<' ∧ c ≠ '>' ∧ c ≠ '"'

theorem unescape_cons_of_ne {c : Char} (h : c ≠ '&') (s : List Char) :
    unescape (c :: s) = c :: unescape s := by
  rw [unescape] <;> simp [h]

theorem unescape_escapeChar_append (c : Char) (s : List Char) :
    unescape (escapeChar c ++ s) = c :: unescape s := by
  rw [escapeChar]
  split
  · simp_all [unescape]
  · split
    · simp_all [unescape]
    · split
      · simp_all [unescape]
      · split
        · simp_all [unescape]
        · rename_i hamp _ _ _
          exact unescape_cons_of_ne hamp s

/-- **An escaped text is read back**, whatever it holds. -/
theorem unescape_escape_append (line : String) (s : List Char) :
    unescape (escape line ++ s) = line.toList ++ unescape s := by
  rw [escape]
  generalize line.toList = cs
  induction cs with
  | nil => rfl
  | cons c cs ih =>
    rw [List.flatMap_cons, List.append_assoc, unescape_escapeChar_append, ih, List.cons_append]

theorem plain_of_mem_escapeChar {c d : Char} (h : c ∈ escapeChar d) : Plain c := by
  have hamp : ∀ c ∈ ['&', 'a', 'm', 'p', ';'], Plain c := by simp [Plain]
  have hlt : ∀ c ∈ ['&', 'l', 't', ';'], Plain c := by simp [Plain]
  have hgt : ∀ c ∈ ['&', 'g', 't', ';'], Plain c := by simp [Plain]
  have hquot : ∀ c ∈ ['&', 'q', 'u', 'o', 't', ';'], Plain c := by simp [Plain]
  rw [escapeChar] at h
  split at h
  · exact hamp c h
  · split at h
    · exact hlt c h
    · split at h
      · exact hgt c h
      · split at h
        · exact hquot c h
        · rename_i hless hgreater hquote
          rw [List.mem_singleton.mp h]
          exact ⟨hless, hgreater, hquote⟩

theorem plain_of_mem_escape {line : String} {c : Char} (h : c ∈ escape line) : Plain c := by
  obtain ⟨d, -, hc⟩ := List.mem_flatMap.mp h
  exact plain_of_mem_escapeChar hc

/-! ## Changed lines -/

/-- The tags that mark lines. -/
def markTags : List (List Char) := [removedTag.toList, addedTag.toList, endTag.toList]

/-- A piece that lines leave on a page: a tag that marks one, or a character that needs no
entity. -/
def Piece.Own : Piece → Prop
  | .tag text => text ∈ markTags
  | .char c => Plain c

/-- The pieces of an escaped line. -/
def linePieces (line : String) : List Piece := (escape line).map .char

/-- The pieces of a changed line. -/
def changePieces (c : Change) : List Piece :=
  match c.kind with
  | .kept => linePieces c.line
  | .removed => .tag removedTag.toList :: (linePieces c.line ++ [.tag endTag.toList])
  | .added => .tag addedTag.toList :: (linePieces c.line ++ [.tag endTag.toList])

theorem isTag_of_mem_markTags {tag : List Char} (h : tag ∈ markTags) : IsTag tag := by
  have hshape : ∀ tag ∈ markTags, tag = '<' :: (tag.tail.dropLast ++ ['>']) ∧
      '>' ∉ tag.tail.dropLast := by decide
  exact ⟨_, hshape tag h⟩

theorem pieces_line_append (line : String) (s : List Char) :
    pieces (escape line ++ s) = linePieces line ++ pieces s :=
  pieces_append_of_notMem (fun hmem ↦ (plain_of_mem_escape hmem).1 rfl) s

theorem pieces_markup_append (c : Change) (s : List Char) :
    pieces (markup c ++ s) = changePieces c ++ pieces s := by
  have hmark {tag : List Char} (h : tag ∈ markTags) (s : List Char) :
      pieces (tag ++ s) = .tag tag :: pieces s := pieces_append_of_isTag (isTag_of_mem_markTags h) s
  have hend : ∀ s, pieces (endTag.toList ++ s) = .tag endTag.toList :: pieces s :=
    hmark (by simp [markTags])
  rw [markup, changePieces]
  cases c.kind with
  | kept => exact pieces_line_append c.line s
  | removed =>
    dsimp only
    rw [List.append_assoc, List.append_assoc, hmark (by simp [markTags]), pieces_line_append, hend]
    simp
  | added =>
    dsimp only
    rw [List.append_assoc, List.append_assoc, hmark (by simp [markTags]), pieces_line_append, hend]
    simp

/-- **The pieces of changed lines** are those of each line. -/
theorem pieces_body (changes : List Change) :
    pieces (body changes) = changes.flatMap changePieces := by
  induction changes with
  | nil => rfl
  | cons c changes ih =>
    rw [body, List.flatMap_cons, pieces_markup_append, List.flatMap_cons, ← ih, body]

/-- Every piece of changed lines is a tag that marks one, or a character that needs no entity. -/
theorem own_of_mem_changePieces {c : Change} {p : Piece} (h : p ∈ changePieces c) : p.Own := by
  have hline : ∀ p ∈ linePieces c.line, p.Own := by
    intro p hp
    obtain ⟨d, hd, rfl⟩ := List.mem_map.mp hp
    exact plain_of_mem_escape hd
  have hmarked {tag : List Char} (htag : tag ∈ markTags) :
      ∀ p ∈ Piece.tag tag :: (linePieces c.line ++ [.tag endTag.toList]), p.Own := by
    refine List.forall_mem_cons.mpr ⟨htag, List.forall_mem_append.mpr ⟨hline, ?_⟩⟩
    exact List.forall_mem_singleton.mpr (by simp [Piece.Own, markTags])
  rw [changePieces] at h
  split at h
  · exact hline p h
  · exact hmarked (by simp [markTags]) p h
  · exact hmarked (by simp [markTags]) p h

/-! ## Texts read back -/

/-- Pieces without the spans that a tag opens, each up to the tag that ends it. The argument says
whether such a span has not ended. -/
def withoutSpans (tag : List Char) : (inside : Bool) → List Piece → List Piece
  | _, [] => []
  | true, .char _ :: rest => withoutSpans tag true rest
  | true, .tag text :: rest => withoutSpans tag (text ≠ endTag.toList) rest
  | false, .char c :: rest => .char c :: withoutSpans tag false rest
  | false, .tag text :: rest =>
    if text = tag then withoutSpans tag true rest else .tag text :: withoutSpans tag false rest

/-- What a page says once the spans that a tag opens are dropped: the characters that are left when
all other tags are removed, with their entities read. -/
def readBack (tag : String) (s : List Char) : String :=
  String.ofList (unescape ((withoutSpans tag.toList false (pieces s)).filterMap Piece.char?))

/-- The tags that open spans, with what they mark. -/
def marks : List (String × Kind) := [(removedTag, .removed), (addedTag, .added)]

theorem withoutSpans_line_append (tag : List Char) (line : String) (rest : List Piece) :
    withoutSpans tag false (linePieces line ++ rest) =
      linePieces line ++ withoutSpans tag false rest := by
  rw [linePieces]
  induction escape line with
  | nil => rfl
  | cons c s ih => rw [List.map_cons, List.cons_append, withoutSpans, ih, List.cons_append]

theorem withoutSpans_inside (tag : List Char) (line : String) (rest : List Piece) :
    withoutSpans tag true (linePieces line ++ .tag endTag.toList :: rest) =
      withoutSpans tag false rest := by
  rw [linePieces]
  induction escape line with
  | nil => rw [List.map_nil, List.nil_append, withoutSpans]; simp
  | cons c s ih => rw [List.map_cons, List.cons_append, withoutSpans, ih]

/-- A span that another tag opens stays. -/
theorem withoutSpans_other {tag other : List Char} (h : other ≠ tag) (hend : endTag.toList ≠ tag)
    (line : String) (rest : List Piece) :
    withoutSpans tag false (.tag other :: (linePieces line ++ [.tag endTag.toList]) ++ rest) =
      .tag other :: (linePieces line ++ [.tag endTag.toList]) ++ withoutSpans tag false rest := by
  rw [List.cons_append, List.append_assoc, withoutSpans, if_neg h, withoutSpans_line_append,
    List.singleton_append, withoutSpans, if_neg hend]
  simp

/-- A span that the tag opens is dropped. -/
theorem withoutSpans_own (tag : List Char) (line : String) (rest : List Piece) :
    withoutSpans tag false (.tag tag :: (linePieces line ++ [.tag endTag.toList]) ++ rest) =
      withoutSpans tag false rest := by
  rw [List.cons_append, List.append_assoc, withoutSpans, if_pos rfl, List.singleton_append,
    withoutSpans_inside]

/-- **A changed line is dropped if the tag marks it**, and stays otherwise. -/
theorem withoutSpans_change_append {mark : String × Kind} (h : mark ∈ marks) (c : Change)
    (rest : List Piece) :
    withoutSpans mark.1.toList false (changePieces c ++ rest) =
      (if c.kind = mark.2 then [] else changePieces c) ++
        withoutSpans mark.1.toList false rest := by
  have hapart : removedTag.toList ≠ addedTag.toList ∧ endTag.toList ≠ removedTag.toList ∧
      endTag.toList ≠ addedTag.toList := by decide
  obtain ⟨hne, hremoved, hadded⟩ := hapart
  rw [changePieces]
  rcases List.mem_pair.mp h with rfl | rfl
  · cases c.kind with
    | kept => exact withoutSpans_line_append _ _ _
    | removed => exact withoutSpans_own _ _ _
    | added => exact withoutSpans_other hne.symm hremoved _ _
  · cases c.kind with
    | kept => exact withoutSpans_line_append _ _ _
    | removed => exact withoutSpans_other hne hadded _ _
    | added => exact withoutSpans_own _ _ _

theorem filterMap_changePieces (c : Change) :
    (changePieces c).filterMap Piece.char? = escape c.line := by
  have hline : (linePieces c.line).filterMap Piece.char? = escape c.line := by
    rw [linePieces, List.filterMap_map]
    exact List.filterMap_some
  rw [changePieces]
  have hmarked (tag : List Char) : (Piece.tag tag :: (linePieces c.line ++
      [.tag endTag.toList])).filterMap Piece.char? = escape c.line := by
    rw [List.filterMap_cons_none rfl, List.filterMap_append, hline]
    exact List.append_nil _
  cases c.kind with
  | kept => exact hline
  | removed => exact hmarked _
  | added => exact hmarked _

/-- **What is read back** are the lines that the tag does not mark. -/
theorem readBack_body {mark : String × Kind} (h : mark ∈ marks) (changes : List Change) :
    readBack mark.1 (body changes) =
      String.join ((changes.filter fun c ↦ c.kind ≠ mark.2).map Change.line) := by
  rw [readBack, pieces_body, ← String.toList_inj, String.toList_ofList, String.toList_join]
  induction changes with
  | nil => rfl
  | cons c changes ih =>
    rw [List.flatMap_cons, withoutSpans_change_append h]
    by_cases hkind : c.kind = mark.2
    · rw [if_pos hkind, List.nil_append, ih, List.filter_cons_of_neg (by simpa using hkind)]
    · rw [if_neg hkind, List.filterMap_append, filterMap_changePieces, unescape_escape_append, ih,
        List.filter_cons_of_pos (by simpa using hkind), List.map_cons, List.flatMap_cons]

/-! ## What stands between two tags -/

/-- What stands on a page between the first place of a mark and the next place of another one. -/
def between? (start stop : String) (page : String) : Option (List Char) :=
  (Text.cutOnce start.toList page.toList).bind fun first ↦
    (Text.cutOnce stop.toList first.2).map (·.1)

/-- A mark does not begin in a text, whatever follows it. -/
def Clear (mark s : List Char) : Prop :=
  ∀ t, Text.cutOnce mark (s ++ t) = (Text.cutOnce mark t).map fun cut ↦ (s ++ cut.1, cut.2)

theorem Clear.nil (mark : List Char) : Clear mark [] := fun t ↦ by simp

theorem Clear.append {mark s t : List Char} (hs : Clear mark s) (ht : Clear mark t) :
    Clear mark (s ++ t) := by
  intro u
  rw [List.append_assoc, hs, ht, Option.map_map]
  simp only [Function.comp_def, List.append_assoc]

theorem Clear.cons {mark s : List Char} {c : Char}
    (h : ∀ t, mark.isPrefixOf? (c :: (s ++ t)) = none) (hs : Clear mark s) :
    Clear mark (c :: s) := by
  intro t
  rw [List.cons_append, Text.cutOnce_cons, h, hs, Option.map_map]
  rfl

/-- A mark does not begin where it would have to go on differently. -/
theorem clear_of_tails {mark s : List Char}
    (h : ∀ u ∈ s.tails, u ≠ [] → ¬ mark <+: u ∧ ¬ u <+: mark) : Clear mark s := by
  induction s with
  | nil => exact Clear.nil mark
  | cons c s ih =>
    obtain ⟨hmark, hrest⟩ := h (c :: s) (by simp) (List.cons_ne_nil c s)
    refine Clear.cons (fun t ↦ ?_) (ih fun u hu ↦ h u (by simp [hu]))
    by_contra hne
    obtain ⟨after, hafter⟩ := Option.ne_none_iff_exists'.mp hne
    have hprefix : mark <+: c :: s ++ t := ⟨after, List.isPrefixOf?_eq_some_iff_append_eq.mp hafter⟩
    exact (List.prefix_or_prefix_of_prefix hprefix (List.prefix_append _ t)).elim hmark hrest

theorem clear_of_notMem {c : Char} {s : List Char} (h : c ∉ s) (mark : List Char) :
    Clear (c :: mark) s := by
  induction s with
  | nil => exact Clear.nil _
  | cons d s ih =>
    rw [List.mem_cons, not_or] at h
    exact Clear.cons (fun t ↦ Text.isPrefixOf?_cons_of_ne h.1 mark (s ++ t)) (ih h.2)

/-- Lines do not end the element that holds them. -/
theorem clear_body (changes : List Change) : Clear "</pre>".toList (body changes) := by
  have hline (line : String) : Clear "</pre>".toList (escape line) :=
    clear_of_notMem (fun hmem ↦ (plain_of_mem_escape hmem).1 rfl) _
  have hmark : ∀ tag ∈ markTags, Clear "</pre>".toList tag := by
    have htails : ∀ tag ∈ markTags, ∀ u ∈ tag.tails, u ≠ [] →
        ¬ "</pre>".toList <+: u ∧ ¬ u <+: "</pre>".toList := by decide
    exact fun tag htag ↦ clear_of_tails (htails tag htag)
  have hend := hmark endTag.toList (by simp [markTags])
  have hchange (c : Change) : Clear "</pre>".toList (markup c) := by
    rw [markup]
    cases c.kind with
    | kept => exact hline c.line
    | removed => exact ((hmark _ (by simp [markTags])).append (hline c.line)).append hend
    | added => exact ((hmark _ (by simp [markTags])).append (hline c.line)).append hend
  induction changes with
  | nil => exact Clear.nil _
  | cons c changes ih => exact (hchange c).append ih

/-- **What stands between the tags of a page** are the marked lines. -/
theorem between?_page (changes : List Change) :
    between? "<pre>" "</pre>" (page changes) = some (body changes) := by
  obtain ⟨front, hstart, hfront⟩ : ∃ front, pageStart.toList = front ++ "<pre>".toList ∧
      Clear "<pre>".toList front :=
    ⟨pageStart.toList.take (pageStart.toList.length - 5), by decide, clear_of_tails (by decide)⟩
  obtain ⟨back, hend⟩ : ∃ back, pageEnd.toList = "</pre>".toList ++ back :=
    ⟨pageEnd.toList.drop 6, by decide⟩
  have hpage : (page changes).toList = pageStart.toList ++ (body changes ++ pageEnd.toList) :=
    String.toList_ofList.trans (List.append_assoc _ _ _)
  have hhere (mark t : List Char) : Text.cutOnce mark (mark ++ t) = some ([], t) :=
    Text.cutOnce_eq_some_iff.mpr ⟨rfl, fun _ _ _ ↦ Nat.zero_le _⟩
  have hopen : Text.cutOnce "<pre>".toList (page changes).toList =
      some (front, body changes ++ pageEnd.toList) := by
    rw [hpage, hstart, List.append_assoc, hfront, hhere, Option.map_some, List.append_nil]
  have hclose : Text.cutOnce "</pre>".toList (body changes ++ pageEnd.toList) =
      some (body changes, back) := by
    rw [hend, clear_body, hhere, Option.map_some, List.append_nil]
  rw [between?, hopen, Option.bind_some, hclose, Option.map_some]

/-! ## Pages that lose nothing -/

/-- Changes lead from one text to another: without the added lines they are the first text, without
the removed lines the second one. -/
structure Rebuilds (old new : String) (changes : List Change) : Prop where
  /-- The lines that are not added. -/
  old : String.join ((changes.filter fun c ↦ c.kind ≠ .added).map Change.line) = old
  /-- The lines that are not removed. -/
  new : String.join ((changes.filter fun c ↦ c.kind ≠ .removed).map Change.line) = new

instance (old new : String) (changes : List Change) : Decidable (Rebuilds old new changes) :=
  decidable_of_iff (_ ∧ _) ⟨fun h ↦ ⟨h.1, h.2⟩, fun h ↦ ⟨h.1, h.2⟩⟩

/-- **A page shows two texts without a loss, and no text can forge its marks.** The tags `<pre>` and
`</pre>` hold a text whose pieces are tags that mark lines and characters that need no entity.
Without the added spans that text reads as the old one, without the removed spans as the new one. -/
theorem html_lossless {old new : String} (h : Rebuilds old new (ofTexts old new).changes) :
    ∃ text, between? "<pre>" "</pre>" (html old new) = some text ∧
      (pieces text).flatMap Piece.text = text ∧ (∀ p ∈ pieces text, p.Own) ∧
      readBack addedTag text = old ∧ readBack removedTag text = new := by
  have hadded : (addedTag, Kind.added) ∈ marks := by simp [marks]
  have hremoved : (removedTag, Kind.removed) ∈ marks := by simp [marks]
  refine ⟨body (ofTexts old new).changes, between?_page _, flatMap_pieces _, fun p hp ↦ ?_, ?_, ?_⟩
  · rw [pieces_body, List.mem_flatMap] at hp
    obtain ⟨c, -, hpc⟩ := hp
    exact own_of_mem_changePieces hpc
  · exact (readBack_body hadded _).trans h.old
  · exact (readBack_body hremoved _).trans h.new

theorem html_lossless_sample :
    let old := "<span class=\"add\">\n&lt;\n"
    let new := "</pre>\n&lt;\n"
    ∃ text, between? "<pre>" "</pre>" (html old new) = some text ∧
      (pieces text).flatMap Piece.text = text ∧ (∀ p ∈ pieces text, p.Own) ∧
      readBack addedTag text = old ∧ readBack removedTag text = new :=
  html_lossless (by decide +kernel)

end WebTestRun.Diff
