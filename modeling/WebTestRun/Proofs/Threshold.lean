import Mathlib.Data.List.Forall2
import Mathlib.Data.List.Zip
import WebTestRun.Proofs.Collection.Answer
import WebTestRun.Proofs.Decimal.Digits
import WebTestRun.Threshold

/-!
# Thresholds and their texts

A threshold comes of a text on a command line, or of a text or a number in a configuration. It
tolerates exactly the number that it was told. Its text is one that a command line may hold, and
reads as the same threshold, unless the number has more than 63 bits: a configuration may tell such
a number and a command line may not.

* `Threshold.count?` — how many results a threshold tolerates.
* `Spells` — the spellings of a number, and `integer?_eq_some_iff` — the texts that spell one.
* `AnyCase` — a word in lower or upper case, and `equalsIgnoringCase_iff`.
* `parse_eq_ok_iff` — the arguments that are thresholds.
* `Source` — what thresholds are read of, and `Source.Says` — which thresholds.
* `text_reads_back` — a source reads as what it says, and its text reads back.
-/

set_option autoImplicit false

namespace WebTestRun.Threshold

open Width (signedLimit64)

/-- How many results a threshold tolerates, unless it tolerates any number. -/
def count? : Threshold → Option Nat
  | .unbounded => none
  | .upTo pred => some (pred + 1)

theorem count?_injective {t t' : Threshold} (h : t.count? = t'.count?) : t = t' := by
  cases t <;> cases t' <;> simp_all [count?]

theorem ok_unbounded_eq_iff {ε : Type} {t : Threshold} :
    (.ok unbounded : Except ε Threshold) = .ok t ↔ t.count? = none := by
  rw [Except.ok.injEq]
  exact ⟨by rintro rfl; rfl, fun h ↦ count?_injective h.symm⟩

theorem pos_of_count? {t : Threshold} {n : Nat} (h : t.count? = some n) : 0 < n := by
  cases t with
  | unbounded => cases h
  | upTo pred =>
    obtain rfl := Option.some.inj h
    exact pred.succ_pos

theorem ofInt?_eq_some_iff {n : Int} {t : Threshold} :
    ofInt? n = some t ↔ 0 < n ∧ t.count? = some n.toNat := by
  rw [ofInt?]
  split
  · rename_i hpositive
    have hcount : (upTo (n.toNat - 1)).count? = some n.toNat :=
      congrArg some (Nat.sub_add_cancel (by omega))
    rw [Option.some.injEq, and_iff_right hpositive]
    constructor
    · rintro rfl
      exact hcount
    · exact fun h ↦ count?_injective (hcount.trans h.symm)
  · rename_i hnonpositive
    exact iff_of_false nofun fun h ↦ hnonpositive h.1

/-! ## Numbers -/

/-- The spellings of a number: a plus sign if one likes, zeros, and its digits. -/
def Spells (s : List Char) (n : Nat) : Prop :=
  ∃ sign ∈ [[], ['+']], ∃ zeros, s = sign ++ (List.replicate zeros '0' ++ Nat.toDigits 10 n)

theorem isDigit_of_zeros {zeros n : Nat} {c : Char}
    (h : c ∈ List.replicate zeros '0' ++ Nat.toDigits 10 n) : c.isDigit = true := by
  rcases List.mem_append.mp h with hzero | hdigit
  · rw [List.eq_of_mem_replicate hzero]
    decide
  · exact Nat.isDigit_of_mem_toDigits (by decide) (by decide) hdigit

theorem digits?_eq_some_iff {s : List Char} {n : Nat} :
    digits? s = some n ↔ ∃ zeros, s = List.replicate zeros '0' ++ Nat.toDigits 10 n := by
  have hvalue : s.foldl (fun n c ↦ n * 10 + (c.toNat - '0'.toNat)) 0 = Nat.ofDigitChars 10 s 0 := by
    rw [Nat.ofDigitChars_eq_foldl]
    simp only [Nat.mul_comm]
  rw [digits?, hvalue]
  constructor
  · intro h
    split at h
    · rename_i hdigits
      rw [Bool.and_eq_true, List.all_eq_true, Bool.not_eq_true', List.isEmpty_eq_false_iff]
        at hdigits
      obtain rfl := Option.some.inj h
      exact Decimal.eq_toDigits hdigits.1 hdigits.2
    · cases h
  · rintro ⟨zeros, rfl⟩
    have hne : (List.replicate zeros '0' ++ Nat.toDigits 10 n).isEmpty = false := by
      rw [List.isEmpty_eq_false_iff, Ne, List.append_eq_nil_iff, not_and_or]
      exact .inr Nat.toDigits_ne_nil
    rw [hne, List.all_eq_true.mpr fun c ↦ isDigit_of_zeros, Decimal.ofDigitChars_zeros]
    rfl

theorem digits?_cons_eq_none {c : Char} (hc : c.isDigit = false) (rest : List Char) :
    digits? (c :: rest) = none := by
  rw [digits?, List.all_cons, hc]
  rfl

theorem digits?_of_bind {s : List Char} {n : Nat}
    (h : ((digits? s).bind fun m ↦ if m < signedLimit64 then some (m : Int) else none) =
      some (n : Int)) : digits? s = some n ∧ n < signedLimit64 := by
  obtain ⟨m, hm, hlimit⟩ := Option.bind_eq_some_iff.mp h
  split at hlimit
  · rename_i hlt
    obtain rfl : m = n := Int.ofNat_inj.mp (Option.some.inj hlimit)
    exact ⟨hm, hlt⟩
  · cases hlimit

theorem spells_iff {s : List Char} {n : Nat} :
    Spells s n ↔ digits? s = some n ∨ ∃ rest, s = '+' :: rest ∧ digits? rest = some n := by
  simp only [Spells, List.mem_pair, exists_eq_or_imp, exists_eq_left, List.nil_append,
    List.singleton_append, digits?_eq_some_iff]
  constructor
  · rintro (⟨zeros, rfl⟩ | ⟨zeros, rfl⟩)
    · exact .inl ⟨zeros, rfl⟩
    · exact .inr ⟨_, rfl, zeros, rfl⟩
  · rintro (⟨zeros, rfl⟩ | ⟨rest, rfl, zeros, rfl⟩)
    · exact .inl ⟨zeros, rfl⟩
    · exact .inr ⟨zeros, rfl⟩

theorem integer?_of_spells {s : List Char} {n : Nat} (h : Spells s n) :
    integer? s = if n < signedLimit64 then some (n : Int) else none := by
  rcases spells_iff.mp h with hn | ⟨rest, rfl, hn⟩
  · rw [integer?.eq_def]
    split
    · rw [digits?_cons_eq_none (by decide)] at hn
      cases hn
    · rw [digits?_cons_eq_none (by decide)] at hn
      cases hn
    · rw [hn, Option.bind_some]
  · rw [integer?, hn, Option.bind_some]

/-- **The texts that spell a positive number** are its spellings, if it has at most 63 bits. -/
theorem integer?_eq_some_iff {s : List Char} {n : Nat} (hpositive : 0 < n) :
    integer? s = some (n : Int) ↔ Spells s n ∧ n < signedLimit64 := by
  refine ⟨fun h ↦ ?_, fun ⟨hspells, hlimit⟩ ↦ by rw [integer?_of_spells hspells, if_pos hlimit]⟩
  rw [spells_iff]
  rw [integer?.eq_def] at h
  split at h
  · -- A number with a minus sign is not positive.
    obtain ⟨m, -, hm⟩ := Option.bind_eq_some_iff.mp h
    split at hm
    · have hcast := Option.some.inj hm
      omega
    · cases hm
  · obtain ⟨hn, hlimit⟩ := digits?_of_bind h
    exact ⟨.inr ⟨_, rfl, hn⟩, hlimit⟩
  · obtain ⟨hn, hlimit⟩ := digits?_of_bind h
    exact ⟨.inl hn, hlimit⟩

/-! ## Words -/

/-- A word, each letter in lower or in upper case. -/
def AnyCase (word s : String) : Prop :=
  List.Forall₂ (fun c d ↦ c = d ∨ c = d.toUpper) s.toList word.toList

theorem toNat_toLower (c : Char) :
    c.toLower.toNat = if 65 ≤ c.toNat ∧ c.toNat ≤ 90 then c.toNat + 32 else c.toNat := by
  by_cases hupper : c.val ≥ 'A'.val ∧ c.val ≤ 'Z'.val
  · have hrange : 65 ≤ c.toNat ∧ c.toNat ≤ 90 := hupper
    have hsum : c.toLower.toNat = (c.toNat + 32) % 2 ^ 32 :=
      (congrArg Char.toNat (dif_pos hupper)).trans (UInt32.toNat_add ..)
    rw [if_pos hrange, hsum]
    omega
  · exact (congrArg Char.toNat (dif_neg hupper)).trans (if_neg hupper).symm

theorem toNat_toUpper (c : Char) :
    c.toUpper.toNat = if 97 ≤ c.toNat ∧ c.toNat ≤ 122 then c.toNat - 32 else c.toNat := by
  by_cases hlower : 'a'.val ≤ c.val ∧ c.val ≤ 'z'.val
  · have hrange : 97 ≤ c.toNat ∧ c.toNat ≤ 122 := hlower
    -- The difference of the letters is below zero, so the sum wraps around.
    have hsum : c.toUpper.toNat = (c.toNat + (2 ^ 32 - 32)) % 2 ^ 32 :=
      (congrArg Char.toNat (dif_pos hlower)).trans (UInt32.toNat_add ..)
    rw [if_pos hrange, hsum]
    omega
  · exact (congrArg Char.toNat (dif_neg hlower)).trans (if_neg hlower).symm

theorem toLower_eq_iff {c d : Char} (hd : d.toLower = d) :
    c.toLower = d ↔ c = d ∨ c = d.toUpper := by
  simp only [← Char.toNat_inj, toNat_toLower, toNat_toUpper] at hd ⊢
  split_ifs at * <;> omega

theorem equalsIgnoringCase_iff {word s : String} (hword : ∀ d ∈ word.toList, d.toLower = d) :
    Text.equalsIgnoringCase s word = true ↔ AnyCase word s := by
  have hlower : word.toList.map Char.toLower = word.toList :=
    (List.map_congr_left hword).trans (List.map_id _)
  rw [Text.equalsIgnoringCase, beq_iff_eq, Text.lower, Text.lower, String.ofList_inj, hlower,
    ← List.forall₂_eq_eq_eq, List.forall₂_map_left_iff, AnyCase, List.forall₂_iff_zip,
    List.forall₂_iff_zip]
  refine and_congr_right fun _ ↦ forall₂_congr fun c d ↦ forall_congr' fun hmem ↦ ?_
  exact toLower_eq_iff (hword d (List.of_mem_zip hmem).2)

/-! ## Reading -/

theorem not_anyCase_of_spells {s : String} {n : Nat} (h : Spells s.toList n) :
    ¬AnyCase "unbounded" s := by
  intro hword
  obtain ⟨c, rest, hc, -, hs⟩ := List.forall₂_cons_right_iff.mp hword
  have hdigit : c = '+' ∨ c.isDigit = true := by
    obtain ⟨sign, hsign, zeros, hspelled⟩ := h
    have hmem : c ∈ sign ++ (List.replicate zeros '0' ++ Nat.toDigits 10 n) := by
      rw [← hspelled, hs]
      exact List.mem_cons_self
    rcases List.mem_append.mp hmem with hmem | hmem
    · left
      rcases List.mem_pair.mp hsign with rfl | rfl
      · cases hmem
      · exact List.mem_singleton.mp hmem
    · exact .inr (isDigit_of_zeros hmem)
  rcases hc with rfl | rfl <;> revert hdigit <;> decide

theorem anyCase_iff {s : String} :
    Text.equalsIgnoringCase s "unbounded" = true ↔ AnyCase "unbounded" s :=
  equalsIgnoringCase_iff (by simp)

/-- **The texts that are thresholds**, and which. -/
theorem parse_eq_ok_iff {s : String} {t : Threshold} :
    parse s = .ok t ↔ (AnyCase "unbounded" s ∧ t.count? = none) ∨
      ∃ n, Spells s.toList n ∧ 0 < n ∧ n < signedLimit64 ∧ t.count? = some n := by
  rw [parse]
  split
  · rename_i hword
    have hunbounded : AnyCase "unbounded" s := anyCase_iff.mp hword
    rw [or_iff_left fun ⟨n, hn, _⟩ ↦ not_anyCase_of_spells hn hunbounded, and_iff_right hunbounded]
    exact ok_unbounded_eq_iff
  · rename_i hword
    rw [or_iff_right fun h ↦ hword (anyCase_iff.mpr h.1)]
    constructor
    · intro h
      split at h
      · cases h
      · rename_i n hn
        split at h
        · rename_i t' ht
          obtain rfl := Except.ok.inj h
          obtain ⟨hpositive, hcount⟩ := ofInt?_eq_some_iff.mp ht
          rw [← Int.toNat_of_nonneg (Int.le_of_lt hpositive)] at hn
          obtain ⟨hspells, hlimit⟩ := (integer?_eq_some_iff (by omega)).mp hn
          exact ⟨n.toNat, hspells, by omega, hlimit, hcount⟩
        · cases h
    · rintro ⟨n, hspells, hpositive, hlimit, hcount⟩
      have ht : ofInt? n = some t := ofInt?_eq_some_iff.mpr ⟨by omega, hcount⟩
      rw [(integer?_eq_some_iff hpositive).mpr ⟨hspells, hlimit⟩]
      dsimp only
      rw [ht]

theorem spells_text {t : Threshold} {n : Nat} (h : t.count? = some n) : Spells t.text.toList n := by
  cases t with
  | unbounded => cases h
  | upTo pred =>
    obtain rfl := Option.some.inj h
    exact ⟨[], by decide, 0, Nat.toList_repr⟩

/-- A text is refused as no number if it spells a number of more than 63 bits. -/
theorem parse_long {s : String} {n : Nat} (hspells : Spells s.toList n)
    (hlong : signedLimit64 ≤ n) : parse s = .error ⟨s, .notNumber⟩ := by
  rw [parse, if_neg fun hword ↦ not_anyCase_of_spells hspells (anyCase_iff.mp hword),
    integer?_of_spells hspells, if_neg (Nat.not_lt_of_le hlong)]

theorem parse_text {t : Threshold} (h : ∀ n, t.count? = some n → n < signedLimit64) :
    parse t.text = .ok t := by
  rw [parse_eq_ok_iff]
  cases hcount : t.count? with
  | none =>
    obtain rfl : t = unbounded := count?_injective hcount
    exact .inl ⟨anyCase_iff.mp (by decide +kernel), rfl⟩
  | some n =>
    exact .inr ⟨n, spells_text hcount, pos_of_count? hcount, h n hcount, rfl⟩

theorem ofText_eq_ok_iff {s : String} {t : Threshold} :
    ofText s = .ok t ↔ s = "unbounded" ∧ t.count? = none := by
  rw [ofText]
  split
  · rename_i hword
    rw [and_iff_right hword]
    exact ok_unbounded_eq_iff
  · rename_i hword
    refine iff_of_false (fun h ↦ ?_) fun h ↦ hword h.1
    split at h <;> cases h

theorem ofInt_eq_ok_iff {n : Int} {t : Threshold} :
    ofInt n = .ok t ↔ 0 < n ∧ t.count? = some n.toNat := by
  rw [← ofInt?_eq_some_iff, ofInt]
  cases ofInt? n <;> simp

/-! ## Thresholds and what they come of -/

/-- What a threshold is read of. -/
inductive Source where
  /-- An argument of a command line. -/
  | argument (s : String)
  /-- A text in a configuration. -/
  | text (s : String)
  /-- A number in a configuration, read with its sign. -/
  | signed (n : Int64)
  /-- A number in a configuration, read without a sign. -/
  | unsigned (n : UInt64)

namespace Source

/-- The source reads as the threshold. -/
def Reads : Source → Threshold → Prop
  | .argument s, t => parse s = .ok t
  | .text s, t => ofJson (.string s) = .ok t
  | .signed n, t => ofJson (.number (.integer n.toInt)) = .ok t
  | .unsigned n, t => ofJson (.number (.integer n.toNat)) = .ok t

/-- The source tells the threshold: a number from one on, or that there is none. An argument has
room for 63 bits. -/
def Says : Source → Threshold → Prop
  | .argument s, t => (AnyCase "unbounded" s ∧ t.count? = none) ∨
      ∃ n, Spells s.toList n ∧ 0 < n ∧ n < signedLimit64 ∧ t.count? = some n
  | .text s, t => s = "unbounded" ∧ t.count? = none
  | .signed n, t => 0 < n.toInt ∧ t.count? = some n.toInt.toNat
  | .unsigned n, t => 0 < n.toNat ∧ t.count? = some n.toNat

/-- The source is a number that has more than 63 bits. -/
def IsLong : Source → Prop
  | .unsigned n => signedLimit64 ≤ n.toNat
  | _ => False

theorem reads_iff {source : Source} {t : Threshold} : source.Reads t ↔ source.Says t := by
  cases source with
  | argument s => exact parse_eq_ok_iff
  | text s => exact ofText_eq_ok_iff
  | signed n => exact ofInt_eq_ok_iff
  | unsigned n => exact ofInt_eq_ok_iff.trans (and_congr_left' Int.natCast_pos)

theorem Says.lt_signedLimit64 {source : Source} {t : Threshold} (h : source.Says t)
    (hshort : ¬source.IsLong) {n : Nat} (hn : t.count? = some n) : n < signedLimit64 := by
  cases source with
  | argument s =>
    rcases h with ⟨-, hnone⟩ | ⟨m, -, -, hlimit, hm⟩
    · cases hn.symm.trans hnone
    · obtain rfl : m = n := Option.some.inj (hm.symm.trans hn)
      exact hlimit
  | text s => cases hn.symm.trans h.2
  | signed m =>
    obtain rfl : m.toInt.toNat = n := Option.some.inj (h.2.symm.trans hn)
    have hlimit : m.toInt < 2 ^ 63 := m.toInt_lt
    simp only [signedLimit64]
    omega
  | unsigned m =>
    obtain rfl : m.toNat = n := Option.some.inj (h.2.symm.trans hn)
    exact Nat.lt_of_not_le hshort

end Source

/-- **A source reads as what it says**, and as nothing else. The text of the threshold then reads
as the threshold, as an argument of a command line, but for a number of more than 63 bits: its text
is refused. -/
theorem text_reads_back (source : Source) (t : Threshold) :
    (source.Reads t ↔ source.Says t) ∧
      (source.Reads t → ¬source.IsLong → parse t.text = .ok t) ∧
      (source.Reads t → source.IsLong → parse t.text = .error ⟨t.text, .notNumber⟩) := by
  refine ⟨Source.reads_iff, fun hreads hshort ↦ ?_, fun hreads hlong ↦ ?_⟩
  · exact parse_text fun n ↦ (Source.reads_iff.mp hreads).lt_signedLimit64 hshort
  · cases source with
    | unsigned n => exact parse_long (spells_text (Source.reads_iff.mp hreads).2) hlong
    | argument s | text s | signed n => exact absurd hlong not_false

/-- A number with a sign and zeros is read and read back; the first number of more than 63 bits is
read and its text refused. -/
theorem text_reads_back_at_edges :
    (Source.argument "+0042").Reads (upTo 41) ∧
      parse (upTo 41).text = .ok (upTo 41) ∧
      (Source.unsigned 9223372036854775808).Reads (upTo 9223372036854775807) ∧
      parse (upTo 9223372036854775807).text = .error ⟨"9223372036854775808", .notNumber⟩ := by
  have hsigned : (Source.argument "+0042").Reads (upTo 41) := by
    refine (text_reads_back (.argument "+0042") (upTo 41)).1.mpr (.inr ⟨42, ?_, ?_, ?_, rfl⟩)
    · exact ⟨['+'], by decide, 2, by decide +kernel⟩
    · decide
    · decide
  have hlong : (Source.unsigned 9223372036854775808).Reads (upTo 9223372036854775807) :=
    (text_reads_back _ _).1.mpr ⟨by decide, rfl⟩
  refine ⟨hsigned, (text_reads_back _ _).2.1 hsigned not_false, hlong, ?_⟩
  exact (text_reads_back _ _).2.2 hlong (Nat.le_refl signedLimit64)

/-- Not every threshold that a configuration tells can be told on a command line. -/
theorem exists_not_read_back :
    ¬∀ (source : Source) (t : Threshold), source.Reads t → parse t.text = .ok t := by
  intro h
  have hread : (Source.unsigned 9223372036854775808).Reads (upTo 9223372036854775807) := rfl
  have hlong : parse (upTo 9223372036854775807).text = .error ⟨_, .notNumber⟩ :=
    parse_long (spells_text rfl) (Nat.le_refl signedLimit64)
  cases hlong.symm.trans (h _ _ hread)

end WebTestRun.Threshold
