import Mathlib.Data.List.Basic
import WebTestRun.Proofs.Text.Pieces
import WebTestRun.Proofs.Text.Utf8
import WebTestRun.Text.Percent

/-!
# Components of queries are read back

A component is made in two steps: bytes are escaped, and then every `%20` becomes a plus sign. The
second step is a replacement in the text, but it only ever meets an escaped space: a percent sign
starts every escape, and stands nowhere else. So a component says byte by byte what the text was.

* `replaceAll_cons`, `replaceAll_append` — a replacement, from left to right.
* `formEncodeByte` — what a component holds for a byte, and `toList_formEncode`.
* `IsComponentChar` — the characters of components.
* `formDecode?` — a component read back, and `formDecode?_formEncode`.
-/

set_option autoImplicit false

namespace WebTestRun.Text

/-! ## Replacements -/

section Replacement

variable {pat new s : List Char}

/-- The bound of a replacement does not matter as long as it covers the text. -/
theorem replaceAll_go_eq (hpat : pat ≠ []) {n : Nat} (h : s.length ≤ n) :
    replaceAll.go pat new n s = replaceAll.go pat new s.length s := by
  induction hlength : s.length using Nat.strong_induction_on generalizing s n with
  | _ k ih =>
    subst hlength
    cases hcut : cutOnce pat s with
    | none =>
      have hsame (m : Nat) : replaceAll.go pat new m s = s := by
        cases m with
        | zero => rfl
        | succ m => rw [replaceAll.go, hcut]
      rw [hsame, hsame]
    | some cut =>
      obtain ⟨before, after⟩ := cut
      have hshorter : after.length < s.length := by
        have hpositive := List.length_pos_iff.mpr hpat
        rw [(cutOnce_eq_some_iff.mp hcut).1, List.length_append, List.length_append]
        omega
      obtain ⟨m, rfl⟩ : ∃ m, n = m + 1 := ⟨n - 1, by omega⟩
      obtain ⟨l, hl⟩ : ∃ l, s.length = l + 1 := ⟨s.length - 1, by omega⟩
      rw [hl, replaceAll.go, replaceAll.go, hcut]
      dsimp only
      rw [ih after.length hshorter (by omega : after.length ≤ m) rfl,
        ih after.length hshorter (by omega : after.length ≤ l) rfl]

theorem replaceAll_eq (hpat : pat ≠ []) (new s : List Char) :
    replaceAll pat new s = match cutOnce pat s with
      | none => s
      | some (before, after) => before ++ new ++ replaceAll pat new after := by
  have hgo (t : List Char) : replaceAll pat new t = replaceAll.go pat new t.length t :=
    if_neg (by simpa using hpat)
  rw [hgo, ← replaceAll_go_eq hpat (Nat.le_succ s.length), replaceAll.go]
  cases hcut : cutOnce pat s with
  | none => rfl
  | some cut =>
    obtain ⟨before, after⟩ := cut
    have hshorter : after.length ≤ s.length := by
      rw [(cutOnce_eq_some_iff.mp hcut).1, List.length_append, List.length_append]
      omega
    dsimp only
    rw [replaceAll_go_eq hpat hshorter, ← hgo]

/-- A character stays if the pattern does not begin with it. -/
theorem replaceAll_cons {c : Char} (hpat : pat ≠ []) (h : pat.isPrefixOf? (c :: s) = none) :
    replaceAll pat new (c :: s) = c :: replaceAll pat new s := by
  rw [replaceAll_eq hpat, replaceAll_eq hpat new s, cutOnce_cons, h]
  cases cutOnce pat s with
  | none => rfl
  | some cut => rfl

/-- What stands for the pattern comes in its place. -/
theorem replaceAll_append (hpat : pat ≠ []) :
    replaceAll pat new (pat ++ s) = new ++ replaceAll pat new s := by
  have hcut : cutOnce pat (pat ++ s) = some ([], s) :=
    cutOnce_eq_some_iff.mpr ⟨rfl, fun _ _ _ ↦ Nat.zero_le _⟩
  rw [replaceAll_eq hpat, hcut]
  rfl

end Replacement

/-! ## Bytes in a component -/

/-- The characters of a component. -/
def IsComponentChar (c : Char) : Prop :=
  c.isAlphanum = true ∨ c ∈ ['_', '.', '-', '~', '+', '%']

instance : DecidablePred IsComponentChar := fun c ↦ by unfold IsComponentChar; infer_instance

/-- What a component holds for a byte. -/
def formEncodeByte (b : UInt8) : List Char :=
  if isPlainByte b then [Char.ofNat b.toNat]
  else if b = 0x20 then ['+']
  else ['%', upperHexDigit (b.toNat / 16), upperHexDigit (b.toNat % 16)]

/-- The number that a hexadecimal digit stands for. -/
def hexValue? (c : Char) : Option Nat :=
  if '0' ≤ c ∧ c ≤ '9' then some (c.toNat - '0'.toNat)
  else if 'A' ≤ c ∧ c ≤ 'F' then some (c.toNat - 'A'.toNat + 10)
  else if 'a' ≤ c ∧ c ≤ 'f' then some (c.toNat - 'a'.toNat + 10)
  else none

theorem upperHexDigit_spec {n : Nat} (h : n < 16) :
    hexValue? (upperHexDigit n) = some n ∧ IsComponentChar (upperHexDigit n) ∧
      upperHexDigit n ≠ '%' := by
  revert n
  decide

/-- A byte that stands for itself is a character that means nothing else in a component. -/
theorem plainByte_spec {b : UInt8} (h : isPlainByte b = true) :
    String.utf8EncodeChar (Char.ofNat b.toNat) = [b] ∧ IsComponentChar (Char.ofNat b.toNat) ∧
      Char.ofNat b.toNat ≠ '%' ∧ Char.ofNat b.toNat ≠ '+' := by
  have hall : ∀ n < 256, isPlainByte (UInt8.ofNat n) = true →
      String.utf8EncodeChar (Char.ofNat n) = [UInt8.ofNat n] ∧ IsComponentChar (Char.ofNat n) ∧
        Char.ofNat n ≠ '%' ∧ Char.ofNat n ≠ '+' := by decide +kernel
  have hb := hall b.toNat b.toNat_lt
  rw [UInt8.ofNat_toNat] at hb
  exact hb h

theorem isComponentChar_of_mem {b : UInt8} {c : Char} (h : c ∈ formEncodeByte b) :
    IsComponentChar c := by
  have hb := b.toNat_lt
  rw [formEncodeByte] at h
  split at h
  · rename_i hplain
    rw [List.mem_singleton.mp h]
    exact (plainByte_spec hplain).2.1
  · split at h
    · rw [List.mem_singleton.mp h]
      decide
    · have hhigh := upperHexDigit_spec (n := b.toNat / 16) (by omega)
      have hlow := upperHexDigit_spec (n := b.toNat % 16) (by omega)
      simp only [List.mem_cons, List.not_mem_nil, or_false] at h
      obtain rfl | rfl | rfl := h
      · decide
      · exact hhigh.2.1
      · exact hlow.2.1

/-- Only an escaped space is written `%20`. -/
theorem upperHexDigit_of_space {b : UInt8} (hhigh : upperHexDigit (b.toNat / 16) = '2')
    (hlow : upperHexDigit (b.toNat % 16) = '0') : b = 0x20 := by
  have hb := b.toNat_lt
  have hhigh' := (upperHexDigit_spec (n := b.toNat / 16) (by omega)).1
  have hlow' := (upperHexDigit_spec (n := b.toNat % 16) (by omega)).1
  rw [hhigh, show hexValue? '2' = some 2 by decide, Option.some.injEq] at hhigh'
  rw [hlow, show hexValue? '0' = some 0 by decide, Option.some.injEq] at hlow'
  rw [← UInt8.toNat_inj, show (0x20 : UInt8).toNat = 32 from rfl]
  omega

/-- **The replacement only meets escaped spaces**: what was escaped byte by byte is a component byte
by byte. -/
theorem replaceAll_percentEncodeByte (bs : List UInt8) :
    replaceAll ['%', '2', '0'] ['+'] (bs.flatMap percentEncodeByte) =
      bs.flatMap formEncodeByte := by
  have hpat : ['%', '2', '0'] ≠ [] := List.cons_ne_nil _ _
  have hother {c : Char} (hc : c ≠ '%') (s : List Char) :
      ['%', '2', '0'].isPrefixOf? (c :: s) = none := isPrefixOf?_cons_of_ne hc.symm _ s
  induction bs with
  | nil => rfl
  | cons b bs ih =>
    have hb := b.toNat_lt
    rw [List.flatMap_cons, List.flatMap_cons, percentEncodeByte, formEncodeByte]
    by_cases hplain : isPlainByte b = true
    · have hne := (plainByte_spec hplain).2.2.1
      rw [if_pos hplain, if_pos hplain, List.singleton_append, replaceAll_cons hpat (hother hne _),
        ih, List.singleton_append]
    · rw [if_neg hplain, if_neg hplain]
      by_cases hspace : b = 0x20
      · have hdigits : ['%', upperHexDigit (b.toNat / 16), upperHexDigit (b.toNat % 16)] =
            ['%', '2', '0'] := by
          rw [hspace]
          decide
        rw [if_pos hspace, hdigits, replaceAll_append hpat, ih]
      · obtain ⟨-, -, hhigh⟩ := upperHexDigit_spec (n := b.toNat / 16) (by omega)
        obtain ⟨-, -, hlow⟩ := upperHexDigit_spec (n := b.toNat % 16) (by omega)
        have hstart (s : List Char) : ['%', '2', '0'].isPrefixOf? ('%' ::
            upperHexDigit (b.toNat / 16) :: upperHexDigit (b.toNat % 16) :: s) = none := by
          refine Option.eq_none_iff_forall_ne_some.mpr fun after hafter ↦ hspace ?_
          have heq := List.isPrefixOf?_eq_some_iff_append_eq.mp hafter
          simp only [List.cons_append, List.cons.injEq] at heq
          exact upperHexDigit_of_space heq.2.1.symm heq.2.2.1.symm
        rw [if_neg hspace]
        simp only [List.cons_append, List.nil_append]
        rw [replaceAll_cons hpat (hstart _), replaceAll_cons hpat (hother hhigh _),
          replaceAll_cons hpat (hother hlow _), ih]

/-- A component holds the bytes of the text, one after the other. -/
theorem toList_formEncode (s : String) :
    (formEncode s).toList = (bytes s).flatMap formEncodeByte := by
  rw [formEncode, String.toList_ofList, percentEncode, ← List.flatMap_assoc, ← bytes_eq,
    replaceAll_percentEncodeByte]

/-- **A component is made of a few characters only.** -/
theorem isComponentChar_of_mem_formEncode {s : String} {c : Char} (h : c ∈ (formEncode s).toList) :
    IsComponentChar c := by
  rw [toList_formEncode] at h
  obtain ⟨b, -, hc⟩ := List.mem_flatMap.mp h
  exact isComponentChar_of_mem hc

/-! ## Components read back -/

/-- The bytes that a component stands for. A plus sign is a space, and a percent sign with two
digits the byte with their value; any other character stands for itself. -/
def formBytes : List Char → List UInt8
  | '+' :: s => 0x20 :: formBytes s
  | '%' :: high :: low :: s =>
    match hexValue? high, hexValue? low with
    | some m, some n => UInt8.ofNat (m * 16 + n) :: formBytes s
    | _, _ => 0x25 :: formBytes (high :: low :: s)
  | c :: s => String.utf8EncodeChar c ++ formBytes s
  | [] => []

/-- The text of a component, if its bytes are one. -/
def formDecode? (s : String) : Option String := (Utf8.text (formBytes s.toList)).toOption

theorem formBytes_formEncodeByte_append (b : UInt8) (s : List Char) :
    formBytes (formEncodeByte b ++ s) = b :: formBytes s := by
  have hb := b.toNat_lt
  rw [formEncodeByte]
  split
  · rename_i hplain
    obtain ⟨hbytes, -, hpercent, hplus⟩ := plainByte_spec hplain
    rw [List.singleton_append, formBytes, hbytes, List.singleton_append]
    · exact fun h ↦ hplus h
    · exact fun _ _ _ h _ ↦ hpercent h
  · split
    · rename_i hspace
      rw [hspace, List.singleton_append, formBytes]
    · have hhigh := (upperHexDigit_spec (n := b.toNat / 16) (by omega)).1
      have hlow := (upperHexDigit_spec (n := b.toNat % 16) (by omega)).1
      simp only [List.cons_append, List.nil_append, formBytes, hhigh, hlow]
      rw [Nat.div_add_mod', UInt8.ofNat_toNat]

/-- **A component is read back as the text it was made of.** -/
theorem formDecode?_formEncode (s : String) : formDecode? (formEncode s) = some s := by
  have hbytes (bs : List UInt8) : formBytes (bs.flatMap formEncodeByte) = bs := by
    induction bs with
    | nil => rfl
    | cons b bs ih => rw [List.flatMap_cons, formBytes_formEncodeByte_append, ih]
  rw [formDecode?, Answer.toOption_eq_some_iff, Utf8.text_eq_ok_iff, toList_formEncode, hbytes]

end WebTestRun.Text
