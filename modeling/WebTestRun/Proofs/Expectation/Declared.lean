import WebTestRun.Processor.Basic
import WebTestRun.Proofs.Collection.Answer
import WebTestRun.Proofs.Collection.Keyed
import WebTestRun.Proofs.TestName.Stem
import WebTestRun.Proofs.TestName.Suite

/-!
# What expectations files declare

A table of expectations holds what the lines in force declare, each line merged into the entry of
its test or of its glob. No two entries are about the same glob, so the longest one that covers a
test is unique and the order of the lines does not matter.

* `Expectation.united`, `Expectation.declaredFor?` — what lines declare, alone and for a name.
* `Expectation.inForce?` — what a line of a file declares on a platform.
* `Expectations.Tabulates` — a table holds what some lines declare; `Tabulates.look?_eq`.
* `exists_texts_of_build` — the table of a processor holds what its files declare.
* `get_of_lines` — what is expected of a test follows from the lines of the files, in any order.
-/

set_option autoImplicit false

namespace WebTestRun

/-! ## Lines -/

namespace Expectation

/-- What several lines together declare. -/
def united (lines : List Line) : Expectation where
  verdicts := ⟨fun v ↦ lines.any fun l ↦ l.expectation.verdicts.has v⟩
  slow := lines.any fun l ↦ l.expectation.slow

/-- What several lines together declare, if there are any. -/
def united? (lines : List Line) : Option Expectation :=
  if lines.isEmpty then .none else some (united lines)

/-- A line is about a test, or about all tests that start with a text. -/
def Line.isFor (glob : Bool) (test : String) (l : Line) : Bool := l.glob == glob && l.test == test

/-- A line is about all tests that start with a text, and a test is one of them. -/
def Line.covers (test : String) (l : Line) : Bool := l.glob && Text.hasPrefix l.test test

/-- The lines that cover a test, no other such line with a longer text before its star. -/
def closest (lines : List Line) (test : String) : List Line :=
  let covering := lines.filter (·.covers test)
  covering.filter fun l ↦ covering.all fun m ↦ m.test.length ≤ l.test.length

/-- What lines declare for a name: those that name it, or else the closest ones that cover it. -/
def declaredFor? (lines : List Line) (test : String) : Option Expectation :=
  match united? (lines.filter (·.isFor false test)) with
  | some e => some e
  | .none => united? (closest lines test)

/-- What a line of a file declares where the given tags apply, if it declares something there. -/
def inForce? (platform : List String) (line : List Char) : Option Line :=
  if saysNothing (content line) then .none
  else (Line.read (content line)).toOption.filter (·.appliesTo platform)

/-- What the lines of several files declare where the given tags apply. -/
def inForce (platform : List String) (texts : List String) : List Line :=
  (texts.flatMap fun text ↦ Text.lines text.toList).filterMap (inForce? platform)

/-- A line of a file is not wrong. -/
def Reads (line : List Char) : Prop :=
  saysNothing (content line) = false → ∃ l, Line.read (content line) = .ok l

/-! ### Lines together -/

theorem united_concat (lines : List Line) (l : Line) :
    united (lines ++ [l]) = (united lines).merge l.expectation := by
  simp only [united, merge, Choice.union, List.any_append, List.any_cons, List.any_nil,
    Bool.or_false]

theorem united?_concat (lines : List Line) (l : Line) :
    united? (lines ++ [l]) = some (((united? lines).getD none).merge l.expectation) := by
  have hsome : united? (lines ++ [l]) = some (united (lines ++ [l])) := if_neg (by simp)
  rw [hsome, united_concat]
  cases lines with
  | nil => rfl
  | cons m lines => rfl

theorem united?_perm {lines lines' : List Line} (h : lines.Perm lines') :
    united? lines = united? lines' := by
  have hunited : united lines = united lines' := by
    simp only [united, h.any_eq]
  rw [united?, united?, hunited, h.isEmpty_eq]

theorem united?_eq_none_iff {lines : List Line} : united? lines = .none ↔ lines = [] := by
  rw [united?]
  split <;> simp_all

/-- Nothing is declared for a name that no line is about. -/
theorem declaredFor?_eq_none {lines : List Line} {test : String}
    (h : ∀ l ∈ lines, l.isFor false test = false ∧ l.covers test = false) :
    declaredFor? lines test = .none := by
  have hfor : lines.filter (·.isFor false test) = [] :=
    List.filter_eq_nil_iff.mpr fun l hl ↦ Bool.not_eq_true _ ▸ (h l hl).1
  have hcovers : lines.filter (·.covers test) = [] :=
    List.filter_eq_nil_iff.mpr fun l hl ↦ Bool.not_eq_true _ ▸ (h l hl).2
  rw [declaredFor?, hfor, closest, hcovers]
  rfl

end Expectation

/-! ## Tables -/

namespace Expectations

open Expectation hiding none

/-- A table holds what some lines declare. -/
structure Tabulates (t : Expectations) (lines : List Line) : Prop where
  /-- Under the name of a test stands what the lines that name it declare. -/
  tests : ∀ test, Keyed.find? test t.tests = united? (lines.filter (·.isFor false test))
  /-- Under a text stands what the lines with this text before the star declare. -/
  globs : ∀ text, Keyed.find? text t.globs = united? (lines.filter (·.isFor true text))
  /-- No text stands there twice. -/
  nodup : (Keyed.keys t.globs).Nodup

theorem tabulates_nil : Tabulates {} [] := ⟨fun _ ↦ rfl, fun _ ↦ rfl, List.nodup_nil⟩

theorem find?_mergeAt (key test : String) (e : Expectation)
    (entries : List (String × Expectation)) :
    Keyed.find? test (mergeAt key e entries) =
      if key = test then some (((Keyed.find? key entries).getD Expectation.none).merge e)
      else Keyed.find? test entries := Keyed.find?_put _ _ _ _

/-- One more line changes the entry that it is about. -/
theorem find?_mergeAt_of_line {lines : List Line} {glob : Bool} (l : Line)
    {entries : List (String × Expectation)}
    (h : ∀ test, Keyed.find? test entries = united? (lines.filter (·.isFor glob test)))
    (hl : l.glob = glob) (test : String) :
    Keyed.find? test (mergeAt l.test l.expectation entries) =
      united? ((lines ++ [l]).filter (·.isFor glob test)) := by
  rw [find?_mergeAt, List.filter_append]
  split
  · rename_i htest
    have hself : [l].filter (·.isFor glob test) = [l] := by
      simp [Line.isFor, hl, htest]
    rw [hself, united?_concat, h, htest]
  · rename_i htest
    have hother : [l].filter (·.isFor glob test) = [] := by
      simp [Line.isFor, htest]
    rw [hother, List.append_nil, h]

theorem filter_isFor_concat {lines : List Line} {glob : Bool} {l : Line} (hl : l.glob ≠ glob)
    (test : String) :
    (lines ++ [l]).filter (·.isFor glob test) = lines.filter (·.isFor glob test) := by
  simp [Line.isFor, hl]

/-- **A line is added to what a table holds.** -/
theorem Tabulates.addLine {t : Expectations} {lines : List Line} (h : t.Tabulates lines)
    (l : Line) : (t.addLine l).Tabulates (lines ++ [l]) := by
  rw [Expectations.addLine]
  cases hglob : l.glob with
  | true =>
    refine ⟨fun test ↦ ?_, find?_mergeAt_of_line l h.globs hglob, Keyed.nodup_keys_put _ h.nodup⟩
    rw [filter_isFor_concat (by simp [hglob])]
    exact h.tests test
  | false =>
    refine ⟨find?_mergeAt_of_line l h.tests hglob, fun text ↦ ?_, h.nodup⟩
    rw [filter_isFor_concat (by simp [hglob])]
    exact h.globs text

/-- The order of the lines does not matter. -/
theorem Tabulates.perm {t : Expectations} {lines lines' : List Line} (h : t.Tabulates lines)
    (hperm : lines.Perm lines') : t.Tabulates lines' where
  tests test := (h.tests test).trans (united?_perm (hperm.filter _))
  globs text := (h.globs text).trans (united?_perm (hperm.filter _))
  nodup := h.nodup

/-! ### The longest glob -/

/-- The longer of two entries, the later one if they are equally long. -/
def longer (best : Option (String × Expectation)) (g : String × Expectation) :
    Option (String × Expectation) :=
  match best with
  | none => some g
  | some b => if b.1.utf8ByteSize ≤ g.1.utf8ByteSize then some g else some b

/-- An entry is one of several, and none of them is longer. -/
def IsLongest (globs : List (String × Expectation)) (b : String × Expectation) : Prop :=
  b ∈ globs ∧ ∀ g ∈ globs, g.1.utf8ByteSize ≤ b.1.utf8ByteSize

theorem exists_foldl_longer (globs : List (String × Expectation)) (g : String × Expectation) :
    ∃ b, globs.foldl longer (some g) = some b ∧ IsLongest (g :: globs) b := by
  induction globs generalizing g with
  | nil => exact ⟨g, rfl, by simp [IsLongest]⟩
  | cons d globs ih =>
    rw [List.foldl_cons, longer]
    split
    · rename_i hle
      obtain ⟨b, hb, hmem, hmax⟩ := ih d
      refine ⟨b, hb, List.mem_cons_of_mem g hmem, List.forall_mem_cons.mpr ⟨?_, hmax⟩⟩
      exact Nat.le_trans hle (hmax d List.mem_cons_self)
    · rename_i hgt
      obtain ⟨b, hb, hmem, hmax⟩ := ih g
      rw [List.forall_mem_cons] at hmax
      have hbd : d.1.utf8ByteSize ≤ b.1.utf8ByteSize := by omega
      refine ⟨b, hb, ?_, List.forall_mem_cons.mpr ⟨hmax.1, List.forall_mem_cons.mpr ⟨hbd, hmax.2⟩⟩⟩
      rcases List.mem_cons.mp hmem with rfl | hmem
      · exact List.mem_cons_self
      · exact List.mem_cons_of_mem g (List.mem_cons_of_mem d hmem)

/-- **What is found is the longest entry that covers a test**, if one does. -/
theorem longestGlob?_spec (test : String) (globs : List (String × Expectation)) :
    match longestGlob? test globs with
    | none => ∀ g ∈ globs, Text.hasPrefix g.1 test = false
    | some b => IsLongest (globs.filter fun g ↦ Text.hasPrefix g.1 test) b := by
  have hfold : longestGlob? test globs =
      (globs.filter fun g ↦ Text.hasPrefix g.1 test).foldl longer none := rfl
  rw [hfold]
  cases hcovering : globs.filter fun g ↦ Text.hasPrefix g.1 test with
  | nil => simpa [List.filter_eq_nil_iff] using hcovering
  | cons g covering =>
    obtain ⟨b, hb, hlongest⟩ := exists_foldl_longer covering g
    have hfirst : (g :: covering).foldl longer none = some b := hb
    rw [hfirst]
    exact hlongest

/-- Of two beginnings of a text the one with more bytes has more characters. -/
theorem length_le_iff_of_hasPrefix {p q test : String} (hp : Text.hasPrefix p test = true)
    (hq : Text.hasPrefix q test = true) :
    p.length ≤ q.length ↔ p.utf8ByteSize ≤ q.utf8ByteSize := by
  rw [← String.length_toList, ← String.length_toList, ← Text.byteSize_toList,
    ← Text.byteSize_toList]
  rcases List.prefix_or_prefix_of_prefix (List.isPrefixOf_iff_prefix.mp hp)
    (List.isPrefixOf_iff_prefix.mp hq) with ⟨more, hmore⟩ | ⟨more, hmore⟩
  · rw [← hmore]
    simp
  · rw [← hmore]
    cases more with
    | nil => simp
    | cons c more =>
      have hc := c.utf8Size_pos
      simp only [List.length_append, List.length_cons, Text.byteSize_append, Text.byteSize_cons]
      omega

/-- Two beginnings of a text are the same if none is longer. -/
theorem eq_of_hasPrefix {p q test : String} (hp : Text.hasPrefix p test = true)
    (hq : Text.hasPrefix q test = true) (hlength : p.length = q.length) : p = q := by
  have hlist : p.toList.length = q.toList.length := by
    rw [String.length_toList, String.length_toList, hlength]
  have hbelow : p.toList <+: q.toList := List.prefix_of_prefix_length_le
    (List.isPrefixOf_iff_prefix.mp hp) (List.isPrefixOf_iff_prefix.mp hq)
    (Nat.le_of_eq hlist)
  exact String.toList_inj.mp (hbelow.eq_of_length hlist)

/-! ### What a table says about a name -/

/-- A line with a star has an entry. -/
theorem Tabulates.exists_glob {t : Expectations} {lines : List Line} (h : t.Tabulates lines)
    {l : Line} (hl : l ∈ lines) (hglob : l.glob = true) : ∃ e, (l.test, e) ∈ t.globs := by
  have hgroup : lines.filter (·.isFor true l.test) ≠ [] :=
    List.ne_nil_of_mem (List.mem_filter.mpr ⟨hl, by simp [Line.isFor, hglob]⟩)
  cases hfind : Keyed.find? l.test t.globs with
  | none => exact absurd (united?_eq_none_iff.mp ((h.globs l.test).symm.trans hfind)) hgroup
  | some e => exact ⟨e, Keyed.mem_of_find? hfind⟩

/-- An entry has a line with a star. -/
theorem Tabulates.exists_line {t : Expectations} {lines : List Line} (h : t.Tabulates lines)
    {g : String × Expectation} (hg : g ∈ t.globs) :
    some g.2 = united? (lines.filter (·.isFor true g.1)) ∧
      ∃ l ∈ lines, l.glob = true ∧ l.test = g.1 := by
  have hgroup := (Keyed.find?_eq_some_of_mem h.nodup hg).symm.trans (h.globs g.1)
  refine ⟨hgroup, ?_⟩
  obtain ⟨l, hl⟩ : ∃ l, l ∈ lines.filter (·.isFor true g.1) := by
    refine List.exists_mem_of_ne_nil _ fun hnil ↦ ?_
    rw [united?_eq_none_iff.mpr hnil] at hgroup
    cases hgroup
  obtain ⟨hmem, hfor⟩ := List.mem_filter.mp hl
  rw [Line.isFor, Bool.and_eq_true, beq_iff_eq, beq_iff_eq] at hfor
  exact ⟨l, hmem, hfor⟩

theorem covers_iff {test : String} {l : Line} :
    l.covers test = true ↔ l.glob = true ∧ Text.hasPrefix l.test test = true :=
  Bool.and_eq_true_iff

/-- The closest lines are those of the longest entry. -/
theorem Tabulates.closest_eq {t : Expectations} {lines : List Line} (h : t.Tabulates lines)
    {test : String} {b : String × Expectation}
    (hb : IsLongest (t.globs.filter fun g ↦ Text.hasPrefix g.1 test) b) :
    closest lines test = lines.filter (·.isFor true b.1) := by
  obtain ⟨hmem, hmax⟩ := hb
  obtain ⟨hentry, hbelow⟩ := List.mem_filter.mp hmem
  obtain ⟨-, l₀, hl₀, hglob₀, htest₀⟩ := h.exists_line hentry
  -- No line that covers the test has a text that is longer than that of the entry.
  have hle (m : Line) (hm : m ∈ lines) (hcovers : m.covers test = true) :
      m.test.length ≤ b.1.length := by
    obtain ⟨hglob, hstarts⟩ := covers_iff.mp hcovers
    obtain ⟨e, he⟩ := h.exists_glob hm hglob
    rw [length_le_iff_of_hasPrefix hstarts hbelow]
    exact hmax (m.test, e) (List.mem_filter.mpr ⟨he, hstarts⟩)
  rw [closest, List.filter_filter]
  refine List.filter_congr fun l hl ↦ ?_
  rw [Bool.eq_iff_iff, Bool.and_eq_true, List.all_eq_true, Line.isFor, Bool.and_eq_true,
    beq_iff_eq, beq_iff_eq]
  constructor
  · rintro ⟨hlongest, hcovers⟩
    obtain ⟨hglob, hstarts⟩ := covers_iff.mp hcovers
    have hcovers₀ : l₀.covers test = true := covers_iff.mpr ⟨hglob₀, htest₀ ▸ hbelow⟩
    have hge := hlongest l₀ (List.mem_filter.mpr ⟨hl₀, hcovers₀⟩)
    rw [decide_eq_true_iff, htest₀] at hge
    exact ⟨hglob, eq_of_hasPrefix hstarts hbelow (Nat.le_antisymm (hle l hl hcovers) hge)⟩
  · rintro ⟨hglob, htest⟩
    refine ⟨fun m hm ↦ ?_, covers_iff.mpr ⟨hglob, htest ▸ hbelow⟩⟩
    obtain ⟨hm, hcovers⟩ := List.mem_filter.mp hm
    rw [decide_eq_true_iff, htest]
    exact hle m hm hcovers

/-- **What a table says about a name** is what its lines declare for it. -/
theorem Tabulates.look?_eq {t : Expectations} {lines : List Line} (h : t.Tabulates lines)
    (test : String) : t.look? test = declaredFor? lines test := by
  rw [look?, declaredFor?, h.tests test]
  cases united? (lines.filter (·.isFor false test)) with
  | some e => rfl
  | none =>
    have hspec := longestGlob?_spec test t.globs
    cases hlongest : longestGlob? test t.globs with
    | none =>
      rw [hlongest] at hspec
      have hnone : closest lines test = [] := by
        refine List.eq_nil_iff_forall_not_mem.mpr fun l hl ↦ ?_
        obtain ⟨hl, hcovers⟩ := List.mem_filter.mp (List.mem_of_mem_filter hl)
        obtain ⟨hglob, hstarts⟩ := covers_iff.mp hcovers
        obtain ⟨e, he⟩ := h.exists_glob hl hglob
        rw [hspec _ he] at hstarts
        cases hstarts
      rw [hnone]
      rfl
    | some b =>
      rw [hlongest] at hspec
      rw [h.closest_eq hspec]
      exact (h.exists_line (List.mem_of_mem_filter hspec.1)).1

/-! ## Files -/

/-- A line of a file is added to what a table holds, if it declares something there. -/
theorem Tabulates.readLine {t : Expectations} {lines : List Line} (h : t.Tabulates lines)
    (platform : List String) {line : List Char} (hline : Reads line) :
    ∃ t', readLine platform t (content line) = .ok t' ∧
      t'.Tabulates (lines ++ (inForce? platform line).toList) := by
  rw [Expectations.readLine, inForce?]
  cases hblank : saysNothing (content line) with
  | true => exact ⟨t, rfl, by simpa using h⟩
  | false =>
    obtain ⟨l, hl⟩ := hline hblank
    rw [if_neg Bool.false_ne_true, if_neg Bool.false_ne_true, hl, Except.toOption,
      Option.filter_some]
    cases happlies : l.appliesTo platform with
    | true => exact ⟨t.addLine l, by simp [Except.map, happlies], h.addLine l⟩
    | false => exact ⟨t, by simp [Except.map, happlies], by simpa using h⟩

theorem reads_of_readLine {platform : List String} {t t' : Expectations} {line : List Char}
    (h : readLine platform t (content line) = .ok t') : Reads line := by
  intro hblank
  rw [readLine, if_neg (by simp [hblank])] at h
  obtain ⟨l, hl, -⟩ := Answer.map_eq_ok_iff.mp h
  exact ⟨l, hl⟩

/-- The lines of a file are added to what a table holds, if none is wrong. -/
theorem Tabulates.addLines {t : Expectations} {lines : List Line} (h : t.Tabulates lines)
    (platform : List String) {numbered : List (Nat × List Char)}
    (hlines : ∀ l ∈ numbered, Reads l.2) :
    ∃ t', t.addLines platform numbered = (t', .ok ()) ∧
      t'.Tabulates (lines ++ (numbered.map (·.2)).filterMap (inForce? platform)) := by
  induction numbered generalizing t lines with
  | nil => exact ⟨t, rfl, by simpa using h⟩
  | cons l numbered ih =>
    obtain ⟨hl, hrest⟩ := List.forall_mem_cons.mp hlines
    obtain ⟨t', ht', hnow⟩ := h.readLine platform hl
    obtain ⟨t'', ht'', hlater⟩ := ih hnow hrest
    refine ⟨t'', by rw [Expectations.addLines, ht']; exact ht'', ?_⟩
    have hhead : (inForce? platform l.2).toList ++
        (numbered.map (·.2)).filterMap (inForce? platform) =
          ((l :: numbered).map (·.2)).filterMap (inForce? platform) := by
      rw [List.map_cons, List.filterMap_cons]
      cases inForce? platform l.2 <;> rfl
    rw [← hhead, ← List.append_assoc]
    exact hlater

theorem reads_of_addLines {platform : List String} {t t' : Expectations}
    {numbered : List (Nat × List Char)} (h : t.addLines platform numbered = (t', .ok ())) :
    ∀ l ∈ numbered, Reads l.2 := by
  induction numbered generalizing t with
  | nil => simp
  | cons l numbered ih =>
    rw [addLines] at h
    split at h
    · rename_i hl
      exact List.forall_mem_cons.mpr ⟨reads_of_readLine hl, ih h⟩
    · cases (Prod.mk.inj h).2

/-- The table with the lines of one more file, unless a line is wrong. -/
def withText? (platform : List String) (t : Expectations) (text : String) :
    Except Error Expectations :=
  match t.addText platform text with
  | (t, .ok _) => .ok t
  | (_, .error e) => .error e

/-- The table of the lines of several files, unless a line is wrong. -/
def ofTexts? (platform texts : List String) : Except Error Expectations :=
  texts.foldlM (withText? platform) {}

theorem withText?_eq_ok_iff {platform : List String} {t t' : Expectations} {text : String} :
    withText? platform t text = .ok t' ↔
      t.addLines platform (Text.numberedLines text.toList) = (t', .ok ()) := by
  rw [withText?, addText]
  split
  · rename_i h
    rw [h]
    simp
  · rename_i h
    rw [h]
    simp

/-- The lines of several files are added to what a table holds, if none is wrong. -/
theorem Tabulates.withTexts {t : Expectations} {lines : List Line} (h : t.Tabulates lines)
    (platform : List String) {texts : List String}
    (hlines : ∀ line ∈ texts.flatMap fun text ↦ Text.lines text.toList, Reads line) :
    ∃ t', texts.foldlM (withText? platform) t = .ok t' ∧
      t'.Tabulates (lines ++ inForce platform texts) := by
  induction texts generalizing t lines with
  | nil => exact ⟨t, rfl, by simpa [inForce] using h⟩
  | cons text texts ih =>
    rw [List.flatMap_cons, List.forall_mem_append] at hlines
    have hread (l : Nat × List Char) (hl : l ∈ Text.numberedLines text.toList) : Reads l.2 := by
      refine hlines.1 l.2 ?_
      rw [← Text.map_snd_numberedLines]
      exact List.mem_map_of_mem hl
    obtain ⟨t', ht', hnow⟩ := h.addLines platform hread
    obtain ⟨t'', ht'', hlater⟩ := ih hnow hlines.2
    refine ⟨t'', ?_, ?_⟩
    · rw [List.foldlM_cons, withText?_eq_ok_iff.mpr ht']
      exact ht''
    · rw [Text.map_snd_numberedLines, List.append_assoc] at hlater
      rw [inForce, List.flatMap_cons, List.filterMap_append]
      exact hlater

theorem reads_of_withTexts {platform : List String} {t t' : Expectations} {texts : List String}
    (h : texts.foldlM (withText? platform) t = .ok t') :
    ∀ line ∈ texts.flatMap fun text ↦ Text.lines text.toList, Reads line := by
  induction texts generalizing t with
  | nil => simp
  | cons text texts ih =>
    obtain ⟨t'', ht'', hrest⟩ := Answer.bind_eq_ok_iff.mp h
    rw [List.flatMap_cons, List.forall_mem_append]
    refine ⟨fun line hline ↦ ?_, ih hrest⟩
    rw [← Text.map_snd_numberedLines] at hline
    obtain ⟨l, hl, rfl⟩ := List.mem_map.mp hline
    exact reads_of_addLines (withText?_eq_ok_iff.mp ht'') l hl

/-- **A table of several files** holds what their lines in force declare. -/
theorem tabulates_ofTexts? {platform texts : List String} {t : Expectations}
    (h : ofTexts? platform texts = .ok t) : t.Tabulates (inForce platform texts) := by
  obtain ⟨t', ht', htabulates⟩ := tabulates_nil.withTexts platform (reads_of_withTexts h)
  rw [ofTexts?, ht'] at h
  rwa [Except.ok.inj h, List.nil_append] at htabulates

/-! ### The files of a processor -/

theorem exists_of_loadExpectations {tree : FileTree} {tests : Config.Tests} {t t' : Expectations}
    {path : String} (h : Processor.loadExpectations tree tests t path = .ok t') :
    ∃ text, tree.readText (tests.resolve path) = .ok text ∧
      withText? tests.platformTags t text = .ok t' := by
  unfold Processor.loadExpectations at h
  dsimp only at h
  split at h
  · cases h
  · rename_i text htext
    refine ⟨text, htext, ?_⟩
    obtain ⟨e, answer, hadd⟩ : ∃ e answer, t.addText tests.platformTags text = (e, answer) :=
      ⟨_, _, rfl⟩
    cases answer with
    | ok u =>
      simp only [hadd] at h
      simp only [withText?, hadd, Except.ok.inj h]
    | error fault => simp only [hadd, reduceCtorEq] at h

/-- **The expectations of a processor are those of its files**, which can all be read. -/
theorem exists_texts_of_build {tree : FileTree} {c : Config} {p : Processor}
    (h : Processor.build tree c = .ok p) :
    ∃ texts, List.Forall₂ (fun path text ↦ tree.readText (c.tests.resolve path) = .ok text)
        c.tests.expectationsFiles texts ∧
      ofTexts? c.tests.platformTags texts = .ok p.expectations := by
  have key (paths : List String) (t t' : Expectations)
      (h : paths.foldlM (Processor.loadExpectations tree c.tests) t = .ok t') :
      ∃ texts, List.Forall₂ (fun path text ↦ tree.readText (c.tests.resolve path) = .ok text)
          paths texts ∧
        texts.foldlM (withText? c.tests.platformTags) t = .ok t' := by
    induction paths generalizing t with
    | nil =>
      obtain rfl := Except.ok.inj h
      exact ⟨[], .nil, rfl⟩
    | cons path paths ih =>
      obtain ⟨t'', hfirst, hrest⟩ := Answer.bind_eq_ok_iff.mp h
      obtain ⟨text, hread, hwith⟩ := exists_of_loadExpectations hfirst
      obtain ⟨texts, hreads, hfold⟩ := ih t'' hrest
      refine ⟨text :: texts, .cons hread hreads, ?_⟩
      rw [List.foldlM_cons, hwith]
      exact hfold
  obtain ⟨_, -, h⟩ := Answer.bind_eq_ok_iff.mp h
  obtain ⟨_, -, h⟩ := Answer.bind_eq_ok_iff.mp h
  obtain ⟨t, hload, h⟩ := Answer.bind_eq_ok_iff.mp h
  obtain rfl := Except.ok.inj h
  exact key _ _ _ hload

/-! ## What is expected of a test -/

theorem declared?_of_look? {t : Expectations} {test : String} {e : Expectation}
    (h : t.look? test = some e) : t.declared? test = some e := by
  rw [declared?, h]

/-- A test under a suite for which nothing is declared has what is declared for the test itself. -/
theorem declared?_of_suite {t : Expectations} {test suite base : String}
    (h : t.look? test = none) (hsplit : TestName.splitVirtual test = (some suite, base)) :
    t.declared? test = t.look? base := by
  rw [declared?, h, hsplit]

theorem declared?_of_base {t : Expectations} {test : String}
    (hsplit : TestName.splitVirtual test = (none, test)) : t.declared? test = t.look? test := by
  rw [declared?, hsplit]
  cases t.look? test <;> rfl

/-- What is expected of a test where nothing is declared. -/
theorem settled_none : Expectation.none.settled = ⟨.ofList [.pass], false⟩ := by
  decide

/-- Tables that say the same about every name expect the same of every test. -/
theorem get_congr {t t' : Expectations} (h : ∀ test, t.look? test = t'.look? test) (test : String) :
    t.get test = t'.get test := by
  have hlook : t.look? = t'.look? := funext h
  rw [get, get, declared?, declared?, hlook]

/-- **Expectations mean what the files say, in any order.** What is expected of a test is what the
lines in force declare for its name; a test under a suite for which they declare nothing has what
they declare for the test itself, and any other test is expected to pass. Files with the same lines,
however these are ordered and divided among the files, are read as well and expect the same. -/
theorem get_of_lines (platform texts : List String) (t : Expectations)
    (h : ofTexts? platform texts = .ok t) :
    (∀ test,
      (∀ e, declaredFor? (inForce platform texts) test = some e → t.get test = e.settled) ∧
      (declaredFor? (inForce platform texts) test = none →
        (∀ suite base, '/' ∉ suite.toList →
          test = TestName.virtualPrefix ++ suite ++ "/" ++ base →
            t.get test = (declaredFor? (inForce platform texts) base).elim ⟨.ofList [.pass], false⟩
              Expectation.settled) ∧
        ((∀ suite base, '/' ∉ suite.toList →
          test ≠ TestName.virtualPrefix ++ suite ++ "/" ++ base) →
            t.get test = ⟨.ofList [.pass], false⟩))) ∧
    ∀ texts' : List String,
      (texts'.flatMap fun text ↦ Text.lines text.toList).Perm
        (texts.flatMap fun text ↦ Text.lines text.toList) →
      ∃ t', ofTexts? platform texts' = .ok t' ∧ ∀ test, t'.get test = t.get test := by
  have hlook := (tabulates_ofTexts? h).look?_eq
  constructor
  · intro test
    rw [← hlook test]
    refine ⟨fun e he ↦ ?_, fun hnone ↦ ⟨fun suite base hslash htest ↦ ?_, fun hnot ↦ ?_⟩⟩
    · rw [get, declared?_of_look? he, Option.getD_some]
    · have hsplit := TestName.splitVirtual_eq_some_iff.mpr ⟨htest, hslash⟩
      rw [get, declared?_of_suite hnone hsplit, ← hlook base]
      cases t.look? base with
      | none => exact settled_none
      | some e => rfl
    · have hsplit := TestName.splitVirtual_eq_none_iff.mpr ⟨rfl, hnot⟩
      rw [get, declared?_of_base hsplit, hnone]
      exact settled_none
  · intro texts' hperm
    have hreads (line : List Char)
        (hline : line ∈ texts'.flatMap fun text ↦ Text.lines text.toList) : Reads line :=
      reads_of_withTexts h line (hperm.mem_iff.mp hline)
    obtain ⟨t', ht', -⟩ := tabulates_nil.withTexts platform hreads
    have hlook' := ((tabulates_ofTexts? ht').perm (hperm.filterMap (inForce? platform))).look?_eq
    exact ⟨t', ht', get_congr fun test ↦ (hlook' test).trans (hlook test).symm⟩

/-- The platform of a run. -/
def samplePlatform : List String := ["linux", "x64"]

/-- Two files. The longer of two globs comes last. Of the lines with tags one is for the platform,
one for the platform in another spelling, and two are for others. -/
def sampleTexts : List String :=
  ["a* [ Skip ]\n[ Mac ] a/b [ Crash ]\n[ x64 linux ] c [ Failure ]\n",
   "a/b* [ Slow Timeout ] # 1\r\na/b* [ Pass ]\n[ LINUX ] c [ Timeout ]\n[ Mac x64 ] c [ Crash ]"]

theorem get_of_lines_sample :
    ∃ t, ofTexts? samplePlatform sampleTexts = .ok t ∧
      (t.get "virtual/s/a/b").verdicts.toList = [.pass, .timeout] ∧
      (t.get "virtual/s/a/b").slow = true ∧
      (t.get "c").verdicts.toList = [.failure, .timeout] ∧
      ∃ t', ofTexts? samplePlatform sampleTexts.reverse = .ok t' ∧
        t'.get "virtual/s/a/b" = t.get "virtual/s/a/b" := by
  obtain ⟨t, ht⟩ : ∃ t, ofTexts? samplePlatform sampleTexts = .ok t := ⟨_, rfl⟩
  obtain ⟨hget, horder⟩ := get_of_lines samplePlatform sampleTexts t ht
  obtain ⟨t', ht', hsame⟩ := horder sampleTexts.reverse ((List.reverse_perm _).flatMap_right _)
  have hseen : ["virtual/s/a/b", "a/b", "c"].map (fun test ↦
      (declaredFor? (inForce samplePlatform sampleTexts) test).map fun e ↦
        (e.settled.verdicts.toList, e.settled.slow)) =
      [none, some ([.pass, .timeout], true), some ([.failure, .timeout], false)] := by
    decide +kernel
  obtain ⟨hnone, hrest⟩ := List.cons.inj hseen
  obtain ⟨hbase, hrest⟩ := List.cons.inj hrest
  obtain ⟨e, he, hshown⟩ := Option.map_eq_some_iff.mp hbase
  obtain ⟨tagged, htagged, hboth⟩ := Option.map_eq_some_iff.mp (List.cons.inj hrest).1
  have hsuite := ((hget "virtual/s/a/b").2 (Option.map_eq_none_iff.mp hnone)).1 "s" "a/b"
    (by decide) rfl
  rw [he, Option.elim_some] at hsuite
  have hc := (hget "c").1 tagged htagged
  exact ⟨t, ht, hsuite ▸ (Prod.mk.inj hshown).1, hsuite ▸ (Prod.mk.inj hshown).2,
    hc ▸ (Prod.mk.inj hboth).1, t', ht', hsame "virtual/s/a/b"⟩

end Expectations

end WebTestRun
