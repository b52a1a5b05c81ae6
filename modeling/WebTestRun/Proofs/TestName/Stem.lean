import WebTestRun.Processor.Lookup
import WebTestRun.Proofs.File.Path

/-!
# Cutting off an extension

The extension of a path is that of its last name, wherever that stands; it is cut off the end of
the path as it is written. So where the last name is followed by slashes, the cut may fall into a
character, and files about the test cannot be named.

* `takeBytes?_eq_some_iff` — what the first bytes of a text are.
* `Nameable` — the extension of a test can be cut off.
* `outputPath_eq_error_iff` — files about a test can be named exactly then.
* `nameable_of_ascii`, `nameable_of_end` — tests whose files can be named.
-/

set_option autoImplicit false

namespace WebTestRun

/-! ## Bytes of a text -/

namespace Text

/-- The number of bytes of some characters. -/
def byteSize : List Char → Nat
  | [] => 0
  | c :: s => c.utf8Size + byteSize s

@[simp] theorem byteSize_nil : byteSize [] = 0 := rfl

@[simp] theorem byteSize_cons (c : Char) (s : List Char) :
    byteSize (c :: s) = c.utf8Size + byteSize s := rfl

@[simp] theorem byteSize_append (s t : List Char) :
    byteSize (s ++ t) = byteSize s + byteSize t := by
  induction s with
  | nil => rw [List.nil_append, byteSize_nil, Nat.zero_add]
  | cons c s ih => rw [List.cons_append, byteSize_cons, byteSize_cons, ih, Nat.add_assoc]

theorem byteSize_eq_zero_iff {s : List Char} : byteSize s = 0 ↔ s = [] := by
  cases s with
  | nil => simp
  | cons c s => simpa using fun h ↦ absurd h (Nat.ne_of_gt c.utf8Size_pos)

theorem byteSize_eq_length {s : List Char} (h : ∀ c ∈ s, c.utf8Size = 1) :
    byteSize s = s.length := by
  induction s with
  | nil => rfl
  | cons c s ih =>
    obtain ⟨hc, hs⟩ := List.forall_mem_cons.mp h
    rw [byteSize_cons, hc, ih hs, List.length_cons, Nat.add_comm]

theorem byteSize_ofList (s : List Char) : (String.ofList s).utf8ByteSize = byteSize s := by
  induction s with
  | nil => rfl
  | cons c s ih =>
    rw [String.ofList_cons, String.utf8ByteSize_append, String.utf8ByteSize_singleton, ih,
      byteSize_cons]

theorem byteSize_toList (s : String) : byteSize s.toList = s.utf8ByteSize := by
  rw [← byteSize_ofList, String.ofList_toList]

end Text

open Text

namespace TestName

theorem takeBytes?_zero_eq_some_iff {s kept : List Char} :
    takeBytes? 0 s = some kept ↔ byteSize kept = 0 ∧ ∃ cut, s = kept ++ cut := by
  rw [takeBytes?, byteSize_eq_zero_iff, Option.some.injEq]
  constructor
  · rintro rfl
    exact ⟨rfl, s, rfl⟩
  · rintro ⟨rfl, -⟩
    rfl

/-- **The first bytes of a text** are those of its first characters, if a character ends with
them. -/
theorem takeBytes?_eq_some_iff {n : Nat} {s kept : List Char} :
    takeBytes? n s = some kept ↔ byteSize kept = n ∧ ∃ cut, s = kept ++ cut := by
  induction s generalizing n kept with
  | nil =>
    cases n with
    | zero => exact takeBytes?_zero_eq_some_iff
    | succ n =>
      rw [takeBytes?]
      refine iff_of_false (by simp) ?_
      rintro ⟨hsize, cut, hcut⟩
      rw [(List.append_eq_nil_iff.mp hcut.symm).1] at hsize
      cases hsize
  | cons c rest ih =>
    cases n with
    | zero => exact takeBytes?_zero_eq_some_iff
    | succ n =>
      rw [takeBytes?]
      split
      · rename_i hfits
        rw [Option.map_eq_some_iff]
        constructor
        · rintro ⟨before, hbefore, rfl⟩
          obtain ⟨hsize, cut, rfl⟩ := ih.mp hbefore
          refine ⟨?_, cut, rfl⟩
          rw [byteSize_cons, hsize]
          omega
        · rintro ⟨hsize, cut, hcut⟩
          cases kept with
          | nil => cases hsize
          | cons d before =>
            rw [List.cons_append, List.cons.injEq] at hcut
            obtain ⟨rfl, rfl⟩ := hcut
            rw [byteSize_cons] at hsize
            exact ⟨before, ih.mpr ⟨by omega, cut, rfl⟩, rfl⟩
      · rename_i hlarge
        refine iff_of_false (by simp) ?_
        rintro ⟨hsize, cut, hcut⟩
        cases kept with
        | nil => cases hsize
        | cons d before =>
          rw [List.cons_append, List.cons.injEq] at hcut
          rw [byteSize_cons, ← hcut.1] at hsize
          omega

end TestName

namespace Path

theorem byteSize_of_extension? {p extension : String} (h : extension? p = some extension) :
    extension.utf8ByteSize + 1 ≤ p.utf8ByteSize := by
  obtain ⟨front, after, hp, -⟩ := exists_of_extension? h
  have hdot : '.'.utf8Size = 1 := rfl
  rw [← byteSize_toList p, ← byteSize_toList extension, hp]
  simp only [byteSize_append, byteSize_cons, hdot]
  omega

end Path

/-! ## Tests whose files can be named -/

namespace TestName

/-- **The stem of a path** is there if a character starts where the extension and its dot would
start at the end of the path. -/
theorem isSome_stem?_iff {path : String} :
    (stem? path).isSome = true ↔ ∀ extension ∈ Path.extension? path,
      ∃ kept cut, path.toList = kept ++ cut ∧ byteSize cut = extension.utf8ByteSize + 1 := by
  rw [stem?]
  cases hextension : Path.extension? path with
  | none => simp
  | some extension =>
    have hsize := Path.byteSize_of_extension? hextension
    rw [← byteSize_toList path] at hsize ⊢
    have hcut {kept cut : List Char} (hpath : path.toList = kept ++ cut) :
        byteSize kept = byteSize path.toList - (extension.utf8ByteSize + 1) ↔
          byteSize cut = extension.utf8ByteSize + 1 := by
      rw [hpath, byteSize_append] at hsize ⊢
      omega
    simp only [Option.isSome_iff_exists, takeBytes?_eq_some_iff, Option.mem_some_iff,
      forall_eq']
    constructor
    · rintro ⟨kept, hkept, cut, hpath⟩
      exact ⟨kept, cut, hpath, (hcut hpath).mp hkept⟩
    · rintro ⟨kept, cut, hpath, hbytes⟩
      exact ⟨kept, (hcut hpath).mpr hbytes, cut, hpath⟩

/-- Files about a test can be named: a character of its path starts where the extension and its
dot would start at the end of the path. -/
def Nameable (test : String) : Prop :=
  ∀ extension ∈ Path.extension? (Lookup.withoutVariant test), ∃ kept cut,
    (Lookup.withoutVariant test).toList = kept ++ cut ∧
      byteSize cut = extension.utf8ByteSize + 1

instance (test : String) : Decidable (Nameable test) :=
  decidable_of_iff ((stem? (Lookup.withoutVariant test)).isSome = true) isSome_stem?_iff

/-- **Files about a test can be named exactly if it is nameable**, whatever is put in the place of
its extension. -/
theorem outputPath_eq_error_iff {test suffix extension : String} {e : Unnameable} :
    outputPath test suffix extension = .error e ↔ e = ⟨test⟩ ∧ ¬ Nameable test := by
  have hpath :
      String.ofList (test.toList.takeWhile fun c ↦ !(decide (c = '?') || decide (c = '#'))) =
        Lookup.withoutVariant test := by
    simp [Lookup.withoutVariant]
  rw [Nameable, ← isSome_stem?_iff, outputPath, hpath]
  cases stem? (Lookup.withoutVariant test) with
  | none => simp [eq_comm]
  | some stem => simp

/-- A path of characters of one byte each can be cut anywhere. -/
theorem nameable_of_ascii {test : String} (h : ∀ c ∈ test.toList, c.utf8Size = 1) :
    Nameable test := by
  intro extension hextension
  have hsize := Path.byteSize_of_extension? hextension
  have hpath : ∀ c ∈ (Lookup.withoutVariant test).toList, c.utf8Size = 1 := by
    intro c hc
    rw [Lookup.withoutVariant, String.toList_ofList] at hc
    exact h c (List.takeWhile_subset _ hc)
  rw [← byteSize_toList (Lookup.withoutVariant test), byteSize_eq_length hpath] at hsize
  refine ⟨_, _, (List.take_append_drop
    ((Lookup.withoutVariant test).toList.length - (extension.utf8ByteSize + 1)) _).symm, ?_⟩
  rw [byteSize_eq_length fun c hc ↦ hpath c (List.mem_of_mem_drop hc), List.length_drop]
  omega

/-- A path that ends with its last name can be cut before the extension of that. -/
theorem nameable_of_end {test : String}
    (hslash : ¬ ['/'] <:+ (Lookup.withoutVariant test).toList)
    (hdot : ¬ ['/', '.'] <:+ (Lookup.withoutVariant test).toList) : Nameable test := by
  intro extension hextension
  obtain ⟨front, after, hpath, hafter⟩ := Path.exists_of_extension? hextension
  rcases List.eq_nil_or_concat after with rfl | ⟨before, last, rfl⟩
  · refine ⟨front, '.' :: extension.toList, by simpa [Path.trail] using hpath, ?_⟩
    rw [byteSize_cons, byteSize_toList, Nat.add_comm]
    rfl
  · have hend : '/' :: last <:+ (Lookup.withoutVariant test).toList := by
      refine ⟨front ++ '.' :: extension.toList ++ Path.trail before, ?_⟩
      rw [hpath]
      simp [Path.trail]
    rcases hafter last (by simp) with rfl | rfl
    · exact absurd hend hslash
    · exact absurd hend hdot

end TestName

end WebTestRun
