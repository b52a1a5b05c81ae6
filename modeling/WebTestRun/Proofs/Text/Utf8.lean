import WebTestRun.Proofs.Collection.Answer
import WebTestRun.Proofs.Text.Bytes
import WebTestRun.Text.Utf8

/-!
# Which bytes are a text

The reader of bytes knows how many bytes of a character are to come and in which range the next one
is. It comes through exactly the bytes that some characters have.

* `Utf8.Passes` — the reader comes through, and `passes_char` — through the bytes of a character.
* `Utf8.exists_char_of_passes` — bytes that the reader comes through start with a character.
* `Utf8.text_eq_ok_iff` — the text of bytes is the one that has these bytes.
* `Utf8.fromUTF8?_eq_some_iff` — so it is the text that the library finds.
-/

set_option autoImplicit false

namespace WebTestRun.Utf8

/-! ## The reader -/

/-- The reader comes through some bytes and is between two characters then. -/
def Passes (s : Option Inside) (bytes : List UInt8) : Prop := faultFrom? 0 s bytes = none

/-- Where the reader is after a byte. -/
def next? (s : Option Inside) (b : UInt8) : Except Nat (Option Inside) :=
  match s with
  | some inside => inside.read? b.toNat
  | none => start? b.toNat

theorem faultFrom?_of_error {s : Option Inside} {b : UInt8} {n : Nat} (h : next? s b = .error n)
    (place : Nat) (rest : List UInt8) : faultFrom? place s (b :: rest) = some ⟨place, some n⟩ := by
  cases s with
  | none => simp only [faultFrom?, show start? b.toNat = _ from h]
  | some inside => simp only [faultFrom?, show inside.read? b.toNat = _ from h]

theorem exists_faultFrom? {s t : Option Inside} {b : UInt8} (h : next? s b = .ok t) (place : Nat)
    (rest : List UInt8) : ∃ next, faultFrom? place s (b :: rest) = faultFrom? next t rest := by
  cases s with
  | none =>
    simp only [faultFrom?, show start? b.toNat = _ from h]
    cases t <;> exact ⟨_, rfl⟩
  | some inside =>
    simp only [faultFrom?, show inside.read? b.toNat = _ from h]
    cases t <;> exact ⟨_, rfl⟩

/-- Whether the reader comes through does not depend on how much it has read. -/
theorem passes_iff (place : Nat) {s : Option Inside} {bytes : List UInt8} :
    faultFrom? place s bytes = none ↔ Passes s bytes := by
  have key (p q : Nat) : faultFrom? p s bytes = none → faultFrom? q s bytes = none := by
    induction bytes generalizing p q s with
    | nil => cases s <;> simp [faultFrom?]
    | cons b rest ih =>
      cases hnext : next? s b with
      | error n =>
        rw [faultFrom?_of_error hnext]
        simp
      | ok t =>
        obtain ⟨p', hp⟩ := exists_faultFrom? hnext p rest
        obtain ⟨q', hq⟩ := exists_faultFrom? hnext q rest
        rw [hp, hq]
        exact ih p' q'
  exact ⟨key place 0, key 0 place⟩

theorem passes_cons {s : Option Inside} {b : UInt8} {rest : List UInt8} :
    Passes s (b :: rest) ↔ ∃ t, next? s b = .ok t ∧ Passes t rest := by
  cases hnext : next? s b with
  | error n =>
    rw [Passes, faultFrom?_of_error hnext]
    simp
  | ok t =>
    obtain ⟨place, hplace⟩ := exists_faultFrom? hnext 0 rest
    rw [Passes, hplace, passes_iff]
    simp

/-- Where the reader is after one more byte of a character. -/
def following? (read : Nat) : (after : Nat) → Option Inside
  | 0 => none
  | n + 1 => some ⟨read + 1, 0x80, 0xBF, n⟩

theorem not_passes_inside (inside : Inside) : ¬ Passes (some inside) [] := nofun

theorem passes_inside_cons {read least most after : Nat} {b : UInt8} {rest : List UInt8} :
    Passes (some ⟨read, least, most, after⟩) (b :: rest) ↔ least ≤ b.toNat ∧ b.toNat ≤ most ∧
      Passes (following? read after) rest := by
  rw [passes_cons, next?, Inside.read?]
  dsimp only
  by_cases hrange : least ≤ b.toNat ∧ b.toNat ≤ most
  · rw [if_neg (by simp [hrange])]
    cases after <;> simp [hrange, following?]
  · rw [if_pos (by simp; omega)]
    simp; omega

theorem passes_following_cons {read n : Nat} {b : UInt8} {rest : List UInt8} :
    Passes (following? read (n + 1)) (b :: rest) ↔ 0x80 ≤ b.toNat ∧ b.toNat ≤ 0xBF ∧
      Passes (following? (read + 1) n) rest :=
  passes_inside_cons

theorem passes_of_lt {b : UInt8} {rest : List UInt8} (h : b.toNat < 0x80) :
    Passes none (b :: rest) ↔ Passes none rest := by
  rw [passes_cons, next?, start?, if_pos h]
  simp

theorem passes_of_second? {b : UInt8} {rest : List UInt8} {least most after : Nat}
    (hb : 0x80 ≤ b.toNat) (h : second? b.toNat = some (least, most, after)) :
    Passes none (b :: rest) ↔ Passes (some ⟨1, least, most, after⟩) rest := by
  rw [passes_cons, next?, start?, if_neg (Nat.not_lt.mpr hb), h]
  simp

/-! ## First bytes -/

theorem second?_two {n : Nat} (h : 0xC2 ≤ n ∧ n ≤ 0xDF) : second? n = some (0x80, 0xBF, 0) := by
  simp [second?, h]

theorem second?_three {n : Nat} (h : 0xE0 ≤ n ∧ n ≤ 0xEF) :
    second? n = some (if n = 0xE0 then 0xA0 else 0x80, if n = 0xED then 0x9F else 0xBF, 1) := by
  rw [second?, if_neg (by simp; omega)]
  split_ifs <;> simp_all
  all_goals omega

theorem second?_four {n : Nat} (h : 0xF0 ≤ n ∧ n ≤ 0xF4) :
    second? n = some (if n = 0xF0 then 0x90 else 0x80, if n = 0xF4 then 0x8F else 0xBF, 2) := by
  rw [second?, if_neg (by simp; omega), if_neg (by omega), if_neg (by omega),
    if_neg (by simp; omega)]
  split_ifs <;> simp_all
  all_goals omega

theorem second?_none {n : Nat} (h : n < 0xC2 ∨ 0xDF < n ∧ n < 0xE0 ∨ 0xF4 < n) :
    second? n = none := by
  rw [second?, if_neg (by simp; omega), if_neg (by omega), if_neg (by omega),
    if_neg (by simp; omega), if_neg (by omega), if_neg (by simp; omega), if_neg (by omega)]

/-! ## The bytes of a character -/

theorem char_lt (c : Char) :
    c.val.toNat < 0xD800 ∨ 0xDFFF < c.val.toNat ∧ c.val.toNat < 0x110000 := c.valid

theorem exists_char {v : Nat} (h : v < 0xD800 ∨ 0xDFFF < v ∧ v < 0x110000) :
    ∃ c : Char, c.val.toNat = v := by
  have hsize : v < UInt32.size := by
    rw [show UInt32.size = 4294967296 from rfl]
    omega
  have hv : (UInt32.ofNat v).toNat = v := UInt32.toNat_ofNat_of_lt' hsize
  exact ⟨⟨UInt32.ofNat v, by rwa [UInt32.isValidChar, hv]⟩, hv⟩

/-- The reader comes through the bytes of a character. -/
theorem passes_char (c : Char) (rest : List UInt8) :
    Passes none (String.utf8EncodeChar c ++ rest) ↔ Passes none rest := by
  have hvalid := char_lt c
  have hbyte {n : Nat} (h : n < 256) : (UInt8.ofNat n).toNat = n := UInt8.toNat_ofNat_of_lt' h
  simp only [String.utf8EncodeChar]
  generalize c.val.toNat = v at hvalid ⊢
  split_ifs with h1 h2 h3
  · have hfirst := hbyte (n := v) (by omega)
    exact passes_of_lt (by omega)
  · have hfirst := hbyte (n := v / 64 % 32 + 192) (by omega)
    have hsecond := hbyte (n := v % 64 + 128) (by omega)
    simp only [List.cons_append, List.nil_append]
    rw [passes_of_second? (by omega) (second?_two (by omega)), passes_inside_cons, hsecond]
    exact ⟨fun h ↦ h.2.2, fun h ↦ ⟨by omega, by omega, h⟩⟩
  · have hfirst := hbyte (n := v / 4096 % 16 + 224) (by omega)
    have hsecond := hbyte (n := v / 64 % 64 + 128) (by omega)
    have hthird := hbyte (n := v % 64 + 128) (by omega)
    simp only [List.cons_append, List.nil_append]
    rw [passes_of_second? (by omega) (second?_three (by omega)), passes_inside_cons,
      passes_following_cons, hfirst, hsecond, hthird]
    refine ⟨fun h ↦ h.2.2.2.2, fun h ↦ ⟨?_, ?_, by omega, by omega, h⟩⟩
    · split_ifs <;> omega
    · split_ifs <;> omega
  · have hfirst := hbyte (n := v / 262144 % 8 + 240) (by omega)
    have hsecond := hbyte (n := v / 4096 % 64 + 128) (by omega)
    have hthird := hbyte (n := v / 64 % 64 + 128) (by omega)
    have hfourth := hbyte (n := v % 64 + 128) (by omega)
    simp only [List.cons_append, List.nil_append]
    rw [passes_of_second? (by omega) (second?_four (by omega)), passes_inside_cons,
      passes_following_cons, passes_following_cons, hfirst, hsecond, hthird, hfourth]
    refine ⟨fun h ↦ h.2.2.2.2.2.2, fun h ↦ ⟨?_, ?_, by omega, by omega, by omega, by omega, h⟩⟩
    · split_ifs <;> omega
    · split_ifs <;> omega

/-- Inside a character the reader needs one byte more. -/
theorem exists_cons_of_passes {read least most after : Nat} {bytes : List UInt8}
    (h : Passes (some ⟨read, least, most, after⟩) bytes) :
    ∃ b rest, bytes = b :: rest ∧ least ≤ b.toNat ∧ b.toNat ≤ most ∧
      Passes (following? read after) rest := by
  cases bytes with
  | nil => exact absurd h (not_passes_inside _)
  | cons b rest => exact ⟨b, rest, rfl, passes_inside_cons.mp h⟩

/-- **Bytes that the reader comes through start with a character**, if there are any. -/
theorem exists_char_of_passes {b : UInt8} {bytes : List UInt8} (h : Passes none (b :: bytes)) :
    ∃ c rest, b :: bytes = String.utf8EncodeChar c ++ rest ∧ Passes none rest := by
  have hbyte {n : Nat} {b : UInt8} (h : n = b.toNat) : UInt8.ofNat n = b := by
    rw [h, UInt8.ofNat_toNat]
  have hmost := b.toNat_lt
  rcases (by omega : b.toNat < 0x80 ∨ (0xC2 ≤ b.toNat ∧ b.toNat ≤ 0xDF) ∨
      (0xE0 ≤ b.toNat ∧ b.toNat ≤ 0xEF) ∨ (0xF0 ≤ b.toNat ∧ b.toNat ≤ 0xF4) ∨
      0x80 ≤ b.toNat ∧ (b.toNat < 0xC2 ∨ 0xDF < b.toNat ∧ b.toNat < 0xE0 ∨ 0xF4 < b.toNat))
    with hb | hb | hb | hb | hb
  · obtain ⟨c, hc⟩ := exists_char (v := b.toNat) (by omega)
    refine ⟨c, bytes, ?_, (passes_of_lt hb).mp h⟩
    rw [String.utf8EncodeChar, hc, if_pos (by omega), hbyte rfl, List.singleton_append]
  · rw [passes_of_second? (by omega) (second?_two hb)] at h
    obtain ⟨b₂, rest, rfl, hleast, hmost, hrest⟩ := exists_cons_of_passes h
    obtain ⟨c, hc⟩ := exists_char (v := (b.toNat - 192) * 64 + (b₂.toNat - 128)) (by omega)
    refine ⟨c, rest, ?_, hrest⟩
    rw [String.utf8EncodeChar, hc, if_neg (by omega), if_pos (by omega), hbyte (b := b) (by omega),
      hbyte (b := b₂) (by omega)]
    rfl
  · rw [passes_of_second? (by omega) (second?_three hb)] at h
    obtain ⟨b₂, rest, rfl, hleast, hmost, hrest⟩ := exists_cons_of_passes h
    obtain ⟨b₃, rest, rfl, hleast₃, hmost₃, hrest⟩ := exists_cons_of_passes hrest
    have hleast : 0x80 ≤ b₂.toNat ∧ (b.toNat = 0xE0 → 0xA0 ≤ b₂.toNat) := by
      split_ifs at hleast <;> omega
    have hmost : b₂.toNat ≤ 0xBF ∧ (b.toNat = 0xED → b₂.toNat ≤ 0x9F) := by
      split_ifs at hmost <;> omega
    obtain ⟨c, hc⟩ := exists_char
      (v := (b.toNat - 224) * 4096 + (b₂.toNat - 128) * 64 + (b₃.toNat - 128)) (by omega)
    refine ⟨c, rest, ?_, hrest⟩
    rw [String.utf8EncodeChar, hc, if_neg (by omega), if_neg (by omega), if_pos (by omega),
      hbyte (b := b) (by omega), hbyte (b := b₂) (by omega), hbyte (b := b₃) (by omega)]
    rfl
  · rw [passes_of_second? (by omega) (second?_four hb)] at h
    obtain ⟨b₂, rest, rfl, hleast, hmost, hrest⟩ := exists_cons_of_passes h
    obtain ⟨b₃, rest, rfl, hleast₃, hmost₃, hrest⟩ := exists_cons_of_passes hrest
    obtain ⟨b₄, rest, rfl, hleast₄, hmost₄, hrest⟩ := exists_cons_of_passes hrest
    have hleast : 0x80 ≤ b₂.toNat ∧ (b.toNat = 0xF0 → 0x90 ≤ b₂.toNat) := by
      split_ifs at hleast <;> omega
    have hmost : b₂.toNat ≤ 0xBF ∧ (b.toNat = 0xF4 → b₂.toNat ≤ 0x8F) := by
      split_ifs at hmost <;> omega
    obtain ⟨c, hc⟩ := exists_char
      (v := (b.toNat - 240) * 262144 + (b₂.toNat - 128) * 4096 + (b₃.toNat - 128) * 64 +
        (b₄.toNat - 128)) (by omega)
    refine ⟨c, rest, ?_, hrest⟩
    rw [String.utf8EncodeChar, hc, if_neg (by omega), if_neg (by omega), if_neg (by omega),
      hbyte (b := b) (by omega), hbyte (b := b₂) (by omega), hbyte (b := b₃) (by omega),
      hbyte (b := b₄) (by omega)]
    rfl
  · obtain ⟨hb, hnone⟩ := hb
    rw [passes_cons, next?, start?, if_neg (by omega), second?_none hnone] at h
    simp at h

/-! ## Texts -/

/-- **The reader comes through exactly the bytes of some characters.** -/
theorem passes_iff_exists {bytes : List UInt8} :
    Passes none bytes ↔ ∃ cs : List Char, cs.flatMap String.utf8EncodeChar = bytes := by
  constructor
  · intro h
    induction hlength : bytes.length using Nat.strong_induction_on generalizing bytes with
    | _ n ih =>
      cases bytes with
      | nil => exact ⟨[], rfl⟩
      | cons b bytes =>
        obtain ⟨c, rest, heq, hrest⟩ := exists_char_of_passes h
        have hshorter : rest.length < n := by
          have hpositive := List.length_pos_iff.mpr (String.utf8EncodeChar_ne_nil (c := c))
          rw [← hlength, heq, List.length_append]
          omega
        obtain ⟨cs, hcs⟩ := ih rest.length hshorter hrest rfl
        exact ⟨c :: cs, by rw [List.flatMap_cons, hcs, heq]⟩
  · rintro ⟨cs, rfl⟩
    induction cs with
    | nil => rfl
    | cons c cs ih => rwa [List.flatMap_cons, passes_char]

/-- The library finds the text that has some bytes. -/
theorem fromUTF8?_eq_some_iff {bytes : List UInt8} {s : String} :
    String.fromUTF8? ⟨bytes.toArray⟩ = some s ↔ Text.bytes s = bytes := by
  have hbytes : Text.bytes s = bytes ↔ s.toByteArray = ⟨bytes.toArray⟩ := by
    rw [Text.bytes, String.toUTF8, ByteArray.ext_iff, ← Array.toList_inj]
  rw [hbytes, String.fromUTF8?]
  split
  · rename_i hvalid
    rw [Option.some.injEq, ← String.toByteArray_inj, String.fromUTF8, eq_comm]
  · rename_i hinvalid
    have hvalid (h : s.toByteArray = ⟨bytes.toArray⟩) : (⟨bytes.toArray⟩ : ByteArray).IsValidUTF8 :=
      h ▸ s.isValidUTF8
    exact iff_of_false (Option.some_ne_none s).symm fun h ↦ hinvalid (hvalid h)

/-- **The text of bytes is the one that has these bytes.** -/
theorem text_eq_ok_iff {bytes : List UInt8} {s : String} :
    text bytes = .ok s ↔ Text.bytes s = bytes := by
  have hpasses : firstFault? bytes = none ↔ ∃ t : String, Text.bytes t = bytes := by
    rw [show firstFault? bytes = none ↔ Passes none bytes from Iff.rfl, passes_iff_exists]
    constructor
    · rintro ⟨cs, hcs⟩
      exact ⟨String.ofList cs, by rw [Text.bytes_eq, String.toList_ofList, hcs]⟩
    · rintro ⟨t, ht⟩
      exact ⟨t.toList, by rw [← Text.bytes_eq, ht]⟩
  rw [text]
  split
  · rename_i fault hfault
    refine ⟨nofun, fun h ↦ ?_⟩
    rw [hpasses.mpr ⟨s, h⟩] at hfault
    cases hfault
  · rename_i hnone
    obtain ⟨t, ht⟩ := hpasses.mp hnone
    rw [fromUTF8?_eq_some_iff.mpr ht, Option.getD_some, Except.ok.injEq,
      ← Option.some.injEq, ← fromUTF8?_eq_some_iff.mpr ht, fromUTF8?_eq_some_iff]

/-- The text of bytes is the one that the library finds. -/
theorem toOption_text (bytes : List UInt8) :
    (text bytes).toOption = String.fromUTF8? ⟨bytes.toArray⟩ := by
  ext s
  rw [Answer.toOption_eq_some_iff, text_eq_ok_iff, fromUTF8?_eq_some_iff]

end WebTestRun.Utf8
