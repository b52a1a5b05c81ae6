import WebTestRun.Json.Written
import WebTestRun.Proofs.Text.Pieces

/-!
# JSON texts on one line

The compact text of a value holds no control character, whatever texts the value holds. So values
that stand on lines of their own are told apart by the lines.

* `Text.Printable` — a text without control characters.
* `Json.written_printable` — the text of a value is one.
* `Json.lines_written` — values on lines are read back as their texts.
-/

set_option autoImplicit false

namespace WebTestRun

/-- A text without control characters. -/
def Text.Printable (s : List Char) : Prop := ∀ c ∈ s, 0x20 ≤ c.toNat

namespace Text.Printable

theorem append {s t : List Char} (hs : Printable s) (ht : Printable t) : Printable (s ++ t) :=
  List.forall_mem_append.mpr ⟨hs, ht⟩

theorem cons {c : Char} {s : List Char} (hc : 0x20 ≤ c.toNat) (hs : Printable s) :
    Printable (c :: s) := List.forall_mem_cons.mpr ⟨hc, hs⟩

theorem sublist {s t : List Char} (hs : Printable s) (h : t.Sublist s) : Printable t :=
  fun c hc ↦ hs c (h.subset hc)

theorem replicate {c : Char} (n : Nat) (hc : 0x20 ≤ c.toNat) :
    Printable (List.replicate n c) := by
  intro d hd
  rw [List.eq_of_mem_replicate hd]
  exact hc

theorem toDigits (n : Nat) : Printable (Nat.toDigits 10 n) := by
  intro c hc
  have hdigit := Nat.isDigit_of_mem_toDigits (by decide) (by decide) hc
  rw [Char.isDigit_iff_toNat] at hdigit
  exact Nat.le_trans (by decide) hdigit.1

theorem intercalate {sep : List Char} (hsep : Printable sep) {pieces : List (List Char)}
    (h : ∀ s ∈ pieces, Printable s) : Printable (sep.intercalate pieces) := by
  induction pieces with
  | nil => simp [Printable]
  | cons s pieces ih =>
    cases pieces with
    | nil => simpa using h s
    | cons t pieces =>
      rw [List.intercalate_cons_cons]
      exact ((h s List.mem_cons_self).append hsep).append
        (ih fun r hr ↦ h r (List.mem_cons_of_mem s hr))

/-- A text without control characters stands on one line. -/
theorem oneLine {s : List Char} (h : Printable s) : OneLine s where
  newline hc := absurd (h _ hc) (by decide)
  carriageReturn hc := absurd (h _ (List.mem_of_getLast? hc)) (by decide)

end Text.Printable

namespace Decimal

open Text

theorem positional_printable {digits : List Char} (h : Printable digits) (exponent : Int) :
    Printable (positional digits exponent) := by
  rw [positional]
  split
  · exact (h.append (.replicate _ (by decide))).append (by simp [Printable])
  · split
    · exact ((h.sublist (List.take_sublist _ _)).append (by simp [Printable])).append
        (h.sublist (List.drop_sublist _ _))
    · exact ((by simp [Printable] : Printable ['0', '.']).append
        (.replicate _ (by decide))).append h

theorem scientific_printable {digits : List Char} (h : Printable digits) (power : Int) :
    Printable (scientific digits power) := by
  rw [scientific]
  refine ((?_ : Printable (digits.take 1 ++ _)).append ?_).append (.toDigits _)
  · refine (h.sublist (List.take_sublist _ _)).append ?_
    split
    · simp [Printable]
    · exact .cons (by decide) (h.sublist (List.drop_sublist _ _))
  · split <;> simp [Printable]

theorem written?_printable {x : Float} {s : List Char} (h : written? x = some s) :
    Printable s := by
  obtain ⟨p, -, rfl⟩ := Option.map_eq_some_iff.mp h
  have hbody : Printable (if p.mantissa = 0 then ['0', '.', '0']
      else
        let d := shortest p.mantissa p.exponent p.leastOfBinade
        let digits := Nat.toDigits 10 d.coefficient
        let power := digits.length + d.exponent - 1
        if -5 ≤ power && power < 16 then positional digits d.exponent
        else scientific digits power) := by
    split
    · simp [Printable]
    · dsimp only
      split
      · exact positional_printable (.toDigits _) _
      · exact scientific_printable (.toDigits _) _
  dsimp only
  split
  · exact .cons (by decide) hbody
  · exact hbody

end Decimal

namespace Json

open Text

theorem escaped_printable (c : Char) : Printable (escaped c) := by
  have hdigit : ∀ n < 16, 0x20 ≤ (hexDigit n).toNat := by decide
  unfold escaped
  repeat' split
  · simp [Printable]
  · simp [Printable]
  · simp [Printable]
  · simp [Printable]
  · simp [Printable]
  · simp [Printable]
  · simp [Printable]
  · rename_i hcontrol
    have hhigh := hdigit (c.toNat / 16) (by omega)
    have hlow := hdigit (c.toNat % 16) (by omega)
    simp [Printable, hhigh, hlow]
  · rename_i hcontrol
    simpa [Printable] using hcontrol

theorem writtenText_printable (s : String) : Printable (writtenText s).toList := by
  rw [writtenText, String.toList_ofList]
  refine .cons (by decide) (Printable.append (fun c hc ↦ ?_) (by simp [Printable]))
  obtain ⟨d, -, hd⟩ := List.mem_flatMap.mp hc
  exact escaped_printable d c hd

theorem writtenNumber_printable (n : Number) : Printable (writtenNumber n).toList := by
  cases n with
  | integer n =>
    rw [writtenNumber, Int.toString_eq_repr, Int.repr_eq_if]
    split
    · rw [Nat.toList_repr]
      exact .toDigits _
    · rw [String.toList_append, Nat.toList_repr]
      exact .cons (by decide) (.toDigits _)
  | real x =>
    rw [writtenNumber, String.toList_ofList]
    cases h : Decimal.written? x with
    | none => simp [Printable]
    | some s => exact Decimal.written?_printable h

theorem enclosed_printable {opening closing : String} (ho : Printable opening.toList)
    (hc : Printable closing.toList) {items : List String}
    (h : ∀ s ∈ items, Printable s.toList) :
    Printable (enclosed opening closing items).toList := by
  rw [enclosed, String.toList_append, String.toList_append, String.toList_intercalate]
  refine (ho.append (.intercalate (by simp [Printable]) fun s hs ↦ ?_)).append hc
  obtain ⟨t, ht, rfl⟩ := List.mem_map.mp hs
  exact h t ht

theorem writtenMember_printable (k : String) {v : String} (h : Printable v.toList) :
    Printable (writtenMember k v).toList := by
  rw [writtenMember, String.toList_append, String.toList_append]
  exact ((writtenText_printable k).append (by simp [Printable])).append h

mutual

/-- **The text of a value holds no control character.** -/
theorem written_printable : (j : Json) → Printable j.written.toList
  | .null => by simp [written, Printable]
  | .bool b => by cases b <;> simp [written, Printable]
  | .number n => by
    rw [written]
    exact writtenNumber_printable n
  | .string s => by
    rw [written]
    exact writtenText_printable s
  | .array items => by
    rw [written]
    exact enclosed_printable (by simp [Printable]) (by simp [Printable])
      (writtenItems_printable items)
  | .object members => by
    rw [written]
    exact enclosed_printable (by simp [Printable]) (by simp [Printable])
      (writtenMembers_printable members)

theorem writtenItems_printable : (items : List Json) →
    ∀ s ∈ writtenItems items, Printable s.toList
  | [] => by simp [writtenItems]
  | j :: rest => by
    rw [writtenItems]
    exact List.forall_mem_cons.mpr ⟨written_printable j, writtenItems_printable rest⟩

theorem writtenMembers_printable : (members : List (String × Json)) →
    ∀ s ∈ writtenMembers members, Printable s.toList
  | [] => by simp [writtenMembers]
  | (k, j) :: rest => by
    rw [writtenMembers]
    exact List.forall_mem_cons.mpr
      ⟨writtenMember_printable k (written_printable j), writtenMembers_printable rest⟩

end

/-- **Values on lines are told apart by the lines.** -/
theorem lines_written (values : List Json) :
    lines (values.flatMap fun j ↦ j.written.toList ++ ['\n']) =
      values.map fun j ↦ j.written.toList := by
  have hlines : (values.flatMap fun j ↦ j.written.toList ++ ['\n']) =
      (values.map fun j ↦ j.written.toList).flatMap fun l ↦ l ++ ['\n'] := by
    rw [List.flatMap_map]
  have hprintable : ∀ l ∈ values.map fun j ↦ j.written.toList, Printable l := by
    intro l hl
    obtain ⟨j, -, rfl⟩ := List.mem_map.mp hl
    exact written_printable j
  rw [hlines, lines_flatMap_of_newline fun l hl ↦ (hprintable l hl).oneLine.newline]
  exact (List.map_congr_left fun l hl ↦
    dropReturn_of_getLast? (hprintable l hl).oneLine.carriageReturn).trans (List.map_id _)

end Json

end WebTestRun
