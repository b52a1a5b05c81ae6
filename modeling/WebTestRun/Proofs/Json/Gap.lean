import Mathlib.Data.List.Basic
import WebTestRun.Json.Document

/-!
# Blanks after a JSON text

A text that ends may as well go on with blanks: a document that is complete stays the same, and one
that is not is not completed by them.

* `Document.Pass.Sound` — no word that is read holds a blank, and `read_sound`.
* `Document.Pass.finish_read_gap` — a blank does not change how a pass ends.
* `Document.ofText?_append_gap` — the document of a text with blanks after it.
-/

set_option autoImplicit false

namespace WebTestRun.Document

/-! ## Words -/

/-- What is left of a word that is being read. -/
def Place.word : Place → List Char
  | .inWord rest _ => rest
  | _ => []

/-- No word that is being read holds a blank. -/
def Pass.Sound (p : Pass) : Prop := ∀ c ∈ p.place.word, isGap c = false

/-- If a pass goes on, no word that is being read holds a blank. -/
def Pass.GoesSound (o : Option Pass) : Prop := ∀ p ∈ o, p.Sound

namespace Pass

theorem GoesSound.none : GoesSound none := nofun

theorem GoesSound.some {p : Pass} (h : p.Sound) : GoesSound (some p) := by
  rintro _ ⟨⟩
  exact h

theorem GoesSound.ite {c : Prop} [Decidable c] {o o' : Option Pass} (h : GoesSound o)
    (h' : GoesSound o') : GoesSound (if c then o else o') := by
  split
  · exact h
  · exact h'

theorem Sound.of_word {p : Pass} (h : p.place.word = []) : p.Sound := by
  rw [Sound, h]
  exact nofun

theorem complete_sound (frames : List Frame) (d : Document) : (Pass.complete frames d).Sound := by
  apply Sound.of_word
  rcases frames with _ | ⟨_ | _, _⟩ <;> rfl

theorem start_sound (frames : List Frame) (c : Char) : GoesSound (Pass.start frames c) := by
  rw [Pass.start.eq_def]
  split
  · exact .some (.of_word rfl)
  · exact .some (.of_word rfl)
  · exact .some (.of_word rfl)
  · exact .some (show ∀ c ∈ ['u', 'l', 'l'], isGap c = false by simp [isGap])
  · exact .some (show ∀ c ∈ ['r', 'u', 'e'], isGap c = false by simp [isGap])
  · exact .some (show ∀ c ∈ ['a', 'l', 's', 'e'], isGap c = false by simp [isGap])
  · exact .ite (.some (.of_word rfl)) .none

theorem settle_sound {p : Pass} (hp : p.Sound) (c : Char) : GoesSound (p.settle c) := by
  rw [Pass.settle]
  refine .ite (.some hp) ?_
  split
  · exact .ite (.some (.of_word rfl)) (.ite (.some (complete_sound _ _)) .none)
  · exact .ite (.some (.of_word rfl)) (.ite (.some (complete_sound _ _)) .none)
  · exact .none

/-- **No word that is being read holds a blank**, however far a pass is. -/
theorem read_sound {p : Pass} (hp : p.Sound) (c : Char) : GoesSound (p.read c) := by
  rw [Pass.read.eq_def]
  split
  · exact .ite (.some hp) (start_sound _ _)
  · exact .ite (.some hp) (.ite (.some (complete_sound _ _)) (start_sound _ _))
  · exact .ite (.some hp) (.ite (.some (complete_sound _ _)) (.ite (.some (.of_word rfl)) .none))
  · exact .ite (.some hp) (.ite (.some (.of_word rfl)) .none)
  · rename_i members q hplace
    cases q.read c with
    | none => exact .none
    | some next => cases next <;> exact .some (.of_word rfl)
  · exact .ite (.some hp) (.ite (.some (.of_word rfl)) .none)
  · rename_i q hplace
    cases q.read c with
    | none => exact .none
    | some next =>
      cases next with
      | more q => exact .some (.of_word rfl)
      | done s => exact .some (complete_sound _ _)
  · rename_i rest d hplace
    split
    · exact .none
    · rename_i w rest
      have hrest : Sound ⟨p.frames, .inWord rest d⟩ := by
        intro c hc
        rw [Sound, hplace] at hp
        exact hp c (List.mem_cons_of_mem w hc)
      exact .ite .none (.ite (.some (complete_sound _ _)) (.some hrest))
  · refine .ite (.some (.of_word rfl)) ?_
    rw [closeNumeral]
    cases Numeral.ofText? _ with
    | none => exact .none
    | some n => exact settle_sound (complete_sound _ _) c
  · exact settle_sound hp c
  · exact settle_sound hp c
  · exact settle_sound hp c

end Pass

/-! ## Blanks at the end -/

theorem mem_of_isGap {c : Char} (h : isGap c = true) : c ∈ [' ', '\n', '\t', '\r'] := by
  simpa [isGap, or_assoc] using h

/-- A blank does not end a text in quotes. -/
theorem Quoted.read_gap (q : Quoted) {c : Char} (hc : isGap c = true) (s : Option String) :
    q.read c ≠ some (.done s) := by
  rw [Quoted.read]
  cases q.escape with
  | closed =>
    have hquote : c ≠ '"' := by
      rintro rfl
      cases hc
    dsimp only
    rw [if_neg hquote]
    split_ifs <;> simp
  | backslash =>
    dsimp only
    split_ifs <;> simp
  | digits left value =>
    dsimp only
    cases hexValue? c with
    | none => simp
    | some d => simp only [Option.map_some]; split_ifs <;> simp

namespace Pass

theorem finish_complete (frames : List Frame) (d : Document) :
    (Pass.complete frames d).finish = if frames.isEmpty then some d else none := by
  rcases frames with _ | ⟨_ | _, _⟩ <;> rfl

theorem settle_gap (p : Pass) {c : Char} (hc : isGap c = true) : p.settle c = some p := if_pos hc

/-- **A blank does not change how a pass ends.** -/
theorem finish_read_gap {p : Pass} (hp : p.Sound) {c : Char} (hc : isGap c = true) :
    (p.read c).bind finish = p.finish := by
  have hsame : (some p).bind finish = p.finish := rfl
  rw [Pass.read.eq_def]
  split
  · rw [if_pos hc, hsame]
  · rw [if_pos hc, hsame]
  · rw [if_pos hc, hsame]
  · rw [if_pos hc, hsame]
  · rename_i members q hplace
    rw [finish, hplace]
    cases q.read c with
    | none => rfl
    | some next => cases next <;> rfl
  · rw [if_pos hc, hsame]
  · rename_i q hplace
    rw [finish, hplace]
    cases hread : q.read c with
    | none => rfl
    | some next =>
      cases next with
      | more q => rfl
      | done s => exact absurd hread (q.read_gap hc s)
  · rename_i rest d hplace
    rw [finish, hplace]
    split
    · rfl
    · rename_i w rest
      have hne : c ≠ w := by
        rintro rfl
        rw [Sound, hplace] at hp
        exact absurd hc (by rw [hp c List.mem_cons_self]; decide)
      rw [if_pos hne]
      rfl
  · rename_i chars hplace
    have hnumeral : isNumeralChar c = false := by
      have hgaps : ∀ c ∈ [' ', '\n', '\t', '\r'], isNumeralChar c = false := by
        simp [isNumeralChar]
      exact hgaps c (mem_of_isGap hc)
    rw [if_neg (by simp [hnumeral]), closeNumeral, finish, hplace]
    dsimp only
    cases Numeral.ofText? chars.reverse with
    | none => cases p.frames <;> rfl
    | some n =>
      rw [Option.map_some, Option.bind_some, settle_gap _ hc, Option.bind_some, finish_complete]
      cases p.frames <;> rfl
  · rw [settle_gap p hc, hsame]
  · rw [settle_gap p hc, hsame]
  · rw [settle_gap p hc, hsame]

theorem foldlM_sound {p p' : Pass} (hp : p.Sound) {s : List Char}
    (h : s.foldlM read p = some p') : p'.Sound := by
  induction s generalizing p with
  | nil =>
    obtain rfl := Option.some.inj h
    exact hp
  | cons c s ih =>
    obtain ⟨next, hnext, hrest⟩ := Option.bind_eq_some_iff.mp h
    exact ih (read_sound hp c next hnext) hrest

end Pass

/-- **The document of a text with blanks after it** is that of the text. -/
theorem ofText?_append_gap (s : List Char) {gap : List Char} (h : ∀ c ∈ gap, isGap c = true) :
    ofText? (String.ofList (s ++ gap)) = ofText? (String.ofList s) := by
  induction gap generalizing s with
  | nil => rw [List.append_nil]
  | cons c gap ih =>
    obtain ⟨hc, hgap⟩ := List.forall_mem_cons.mp h
    rw [List.append_cons, ih (s ++ [c]) hgap, ofText?, ofText?, String.toList_ofList,
      String.toList_ofList, List.foldlM_append]
    cases hread : s.foldlM Pass.read ⟨[], .value⟩ with
    | none => rfl
    | some p =>
      have hp : p.Sound := Pass.foldlM_sound (.of_word rfl) hread
      have hlast : [c].foldlM Pass.read p = p.read c := by simp
      exact (congrArg (Option.bind · Pass.finish) hlast).trans (Pass.finish_read_gap hp hc)

end WebTestRun.Document
