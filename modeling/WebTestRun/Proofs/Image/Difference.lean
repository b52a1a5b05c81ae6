import Mathlib.Data.Finset.Card
import Mathlib.Data.Finset.Prod
import Mathlib.Order.Bounds.Basic
import WebTestRun.Image.Compared
import WebTestRun.Proofs.Collection.Answer

/-!
# What a comparison of two images says

A place of an image is a column and a row. Two images of the same dimensions are compared place by
place, and what comes out counts the places where they differ, tells how far, and shows where.

* `Image.pixel?` — the pixel in a place, `Image.differing` — the places where two images differ.
* `Pixel.DiffersBy` — how far two pixels differ in a channel, and `isGreatest_distance`.
* `Pixel.FadesTo` — what is shown in a place where two images agree.
* `Image.Difference.Exact` — what a comparison has to say, and `exact_difference` that it does.
* `Image.compareFiles_exact` — the same of two files.
-/

set_option autoImplicit false

namespace WebTestRun

/-! ## The largest of several numbers -/

theorem isGreatest_foldl_max {l : List Nat} (h : l ≠ []) :
    IsGreatest {n | n ∈ l} (l.foldl max 0) := by
  have key (l : List Nat) (first : Nat) :
      IsGreatest {n | n = first ∨ n ∈ l} (l.foldl max first) := by
    induction l generalizing first with
    | nil => exact ⟨.inl rfl, by rintro n (rfl | hn); exacts [le_rfl, absurd hn (List.not_mem_nil)]⟩
    | cons a l ih =>
      obtain ⟨hmem, hupper⟩ := ih (max first a)
      refine ⟨?_, ?_⟩
      · rcases hmem with hmax | hmem
        · rw [List.foldl_cons, hmax]
          rcases Nat.le_total first a with hle | hle
          · exact .inr (by simp [Nat.max_eq_right hle])
          · exact .inl (Nat.max_eq_left hle)
        · exact .inr (List.mem_cons_of_mem a hmem)
      · have hfirst : max first a ≤ l.foldl max (max first a) := hupper (.inl rfl)
        rintro n (rfl | hn)
        · exact (Nat.le_max_left n a).trans hfirst
        · rcases List.mem_cons.mp hn with rfl | hn
          · exact (Nat.le_max_right first n).trans hfirst
          · exact hupper (.inr hn)
  cases l with
  | nil => exact absurd rfl h
  | cons a l =>
    have hl := key l a
    rw [List.foldl_cons, Nat.zero_max]
    simpa only [List.mem_cons] using hl

/-! ## Pixels -/

namespace Pixel

/-- Two pixels differ by so much in one of their channels. -/
def DiffersBy (p q : Pixel) (n : Nat) : Prop :=
  ∃ channel ∈ [Pixel.red, Pixel.green, Pixel.blue, Pixel.alpha],
    ((channel p).toNat - (channel q).toNat : Int).natAbs = n

theorem DiffersBy.lt {p q : Pixel} {n : Nat} (h : p.DiffersBy q n) : n < 2 ^ 8 := by
  obtain ⟨channel, -, rfl⟩ := h
  have hp := (channel p).toNat_lt
  have hq := (channel q).toNat_lt
  omega

theorem channelDistance_eq (a b : UInt8) :
    channelDistance a b = (a.toNat - b.toNat : Int).natAbs := by
  rw [channelDistance]
  omega

theorem channelDistance_comm (a b : UInt8) : channelDistance a b = channelDistance b a :=
  Nat.add_comm _ _

theorem distance_comm (p q : Pixel) : p.distance q = q.distance p := by
  simp only [distance, channels, List.zip_cons_cons, List.map_cons, List.zip_nil_right,
    List.map_nil, channelDistance_comm]

/-- **The distance of two pixels** is the largest difference in one channel. -/
theorem isGreatest_distance (p q : Pixel) : IsGreatest {n | p.DiffersBy q n} (p.distance q) := by
  have hset : {n | p.DiffersBy q n} =
      {n | n ∈ (p.channels.zip q.channels).map fun c ↦ channelDistance c.1 c.2} := by
    ext n
    simp [DiffersBy, channels, channelDistance_eq, eq_comm (a := n)]
  rw [hset]
  exact isGreatest_foldl_max (by simp [channels])

theorem distance_eq_zero_iff {p q : Pixel} : p.distance q = 0 ↔ p = q := by
  constructor
  · intro h
    have hupper := (isGreatest_distance p q).2
    rw [h] at hupper
    have hsame (channel : Pixel → UInt8)
        (hmem : channel ∈ [Pixel.red, Pixel.green, Pixel.blue, Pixel.alpha]) :
        channel p = channel q := by
      have hzero : ((channel p).toNat - (channel q).toNat : Int).natAbs ≤ 0 :=
        hupper ⟨channel, hmem, rfl⟩
      exact UInt8.toNat_inj.mp (by omega)
    cases p
    cases q
    simp only [List.forall_mem_cons] at hsame
    simpa [and_assoc] using hsame
  · rintro rfl
    obtain ⟨channel, -, hzero⟩ := (isGreatest_distance p p).1
    omega

/-- What is shown for a pixel that stays: an opaque gray, three times closer to white than the pixel
is bright. The numbers are whole numbers without any bound, rounded down. -/
def FadesTo (p s : Pixel) : Prop :=
  let brightness : Int := (3 * p.red.toNat + 6 * p.green.toNat + p.blue.toNat) / 10
  ∃ n : UInt8, s = ⟨n, n, n, 255⟩ ∧ (n.toNat : Int) = 255 - (255 - brightness) / 3 ∧ 170 ≤ n

theorem brightness_le (p : Pixel) : p.brightness ≤ 255 := by
  have hred := p.red.toNat_lt
  have hgreen := p.green.toNat_lt
  have hblue := p.blue.toNat_lt
  rw [brightness]
  omega

theorem fadesTo_faded (p : Pixel) : p.FadesTo p.faded := by
  have hle := p.brightness_le
  have hlight : (UInt8.ofNat (255 - (255 - p.brightness) / 3)).toNat =
      255 - (255 - p.brightness) / 3 := UInt8.toNat_ofNat_of_lt' (by show _ < 256; omega)
  refine ⟨UInt8.ofNat (255 - (255 - p.brightness) / 3), rfl, ?_, ?_⟩
  · rw [hlight]
    rw [brightness] at hle ⊢
    omega
  · rw [UInt8.le_iff_toNat_le, hlight]
    show 170 ≤ 255 - (255 - p.brightness) / 3
    omega

/-- No gray is taken for the color of pixels that differ. -/
theorem FadesTo.ne_marked {p s : Pixel} (h : p.FadesTo s) : s ≠ marked := by
  obtain ⟨n, rfl, -, -⟩ := h
  intro heq
  obtain ⟨hred, hgreen, -, -⟩ := Pixel.mk.inj heq
  exact absurd (hred.symm.trans hgreen) (by decide)

theorem shown_self (p : Pixel) : p.shown p = p.faded := if_pos (distance_eq_zero_iff.mpr rfl)

theorem shown_of_ne {p q : Pixel} (h : p ≠ q) : p.shown q = marked :=
  if_neg fun hzero ↦ h (distance_eq_zero_iff.mp hzero)

end Pixel

/-! ## Places -/

namespace Image

variable {e a : Image}

/-- The pixel in a column and a row. -/
def pixel? (i : Image) (x y : Nat) : Option Pixel :=
  if x < i.width then i.pixels[y * i.width + x]? else none

theorem pixel?_eq_some_iff {i : Image} {x y : Nat} {p : Pixel} :
    i.pixel? x y = some p ↔ x < i.width ∧ i.pixels[y * i.width + x]? = some p := by
  simp [pixel?]

/-- The pixels of an image, by their places in the list of all. -/
theorem getElem?_pixels {i : Image} {n : Nat} (h : 0 < i.width) :
    i.pixels[n]? = i.pixel? (n % i.width) (n / i.width) := by
  rw [pixel?, if_pos (Nat.mod_lt n h), Nat.div_add_mod']

/-- Rows of one length stand one after the other. -/
theorem index_lt_iff {width height x y : Nat} (hx : x < width) :
    y * width + x < width * height ↔ y < height := by
  constructor
  · intro h
    refine Nat.lt_of_not_le fun hy ↦ ?_
    have hle : height * width ≤ y * width := Nat.mul_le_mul_right width hy
    rw [Nat.mul_comm] at hle
    omega
  · intro hy
    calc y * width + x < y * width + width := Nat.add_lt_add_left hx _
      _ = (y + 1) * width := (Nat.succ_mul y width).symm
      _ ≤ height * width := Nat.mul_le_mul_right _ hy
      _ = width * height := Nat.mul_comm _ _

/-- A place is in an image if its column and its row are. -/
theorem exists_pixel?_iff {i : Image} {x y : Nat} :
    (∃ p, i.pixel? x y = some p) ↔ x < i.width ∧ y < i.height := by
  have hlist (n : Nat) : (∃ p, i.pixels[n]? = some p) ↔ n < i.width * i.height := by
    simp [List.getElem?_eq_some_iff, i.length_pixels]
  simp only [pixel?_eq_some_iff, exists_and_left, hlist]
  exact and_congr_right index_lt_iff

/-- The places where two images differ. -/
def differing (e a : Image) : Finset (Nat × Nat) :=
  (Finset.range e.width ×ˢ Finset.range e.height).filter fun place ↦
    e.pixel? place.1 place.2 ≠ a.pixel? place.1 place.2

variable {e a : Image}

/-- Images of the same dimensions have pixels in the same places. -/
theorem exists_pixel?_of_dimensions (h : e.dimensions = a.dimensions) {x y : Nat} {p : Pixel}
    (hp : e.pixel? x y = some p) : ∃ q, a.pixel? x y = some q := by
  obtain ⟨hwidth, hheight⟩ := Prod.mk.inj h
  rw [exists_pixel?_iff, ← hwidth, ← hheight]
  exact exists_pixel?_iff.mp ⟨p, hp⟩

theorem pixel?_eq_none_of_dimensions (h : e.dimensions = a.dimensions) {x y : Nat}
    (hp : e.pixel? x y = none) : a.pixel? x y = none := by
  by_contra hne
  obtain ⟨q, hq⟩ := Option.ne_none_iff_exists'.mp hne
  obtain ⟨p, hp'⟩ := exists_pixel?_of_dimensions h.symm hq
  rw [hp] at hp'
  cases hp'

theorem mem_differing {x y : Nat} :
    (x, y) ∈ differing e a ↔ (x < e.width ∧ y < e.height) ∧ e.pixel? x y ≠ a.pixel? x y := by
  rw [differing, Finset.mem_filter, Finset.mem_product, Finset.mem_range, Finset.mem_range]

/-- Images of the same dimensions differ in some place unless they agree in all. -/
theorem differing_eq_empty_iff (h : e.dimensions = a.dimensions) :
    differing e a = ∅ ↔ ∀ x y, e.pixel? x y = a.pixel? x y := by
  rw [Finset.eq_empty_iff_forall_notMem]
  constructor
  · intro hnone x y
    cases hp : e.pixel? x y with
    | none => exact (pixel?_eq_none_of_dimensions h hp).symm
    | some p =>
      by_contra hne
      exact hnone (x, y) (mem_differing.mpr ⟨exists_pixel?_iff.mp ⟨p, hp⟩, hp ▸ hne⟩)
  · intro hsame place hmem
    exact (mem_differing.mp hmem).2 (hsame place.1 place.2)

/-! ## Distances -/

/-- Two lists of pixels differ at as many indices as there are distances that are not zero. -/
theorem countP_zipWith_distance {ps qs : List Pixel} (h : ps.length = qs.length) :
    (ps.zipWith Pixel.distance qs).countP (0 < ·) =
      (List.range ps.length).countP fun n ↦ ps[n]? ≠ qs[n]? := by
  induction ps generalizing qs with
  | nil => rfl
  | cons p ps ih =>
    cases qs with
    | nil => cases h
    | cons q qs =>
      have hpixel : 0 < p.distance q ↔ p ≠ q :=
        Nat.pos_iff_ne_zero.trans (not_congr Pixel.distance_eq_zero_iff)
      rw [List.zipWith_cons_cons, List.countP_cons, ih (Nat.succ.inj h), List.length_cons,
        List.range_succ_eq_map, List.countP_cons, List.countP_map]
      simp [hpixel, Function.comp_def]

/-- **Images differ in as many places as there are distances that are not zero.** -/
theorem countP_distances (h : e.dimensions = a.dimensions) :
    (distances e a).countP (0 < ·) = (differing e a).card := by
  obtain ⟨hwidth, hheight⟩ := Prod.mk.inj h
  have hlength : e.pixels.length = a.pixels.length := by
    rw [e.length_pixels, a.length_pixels, hwidth, hheight]
  rw [distances, countP_zipWith_distance hlength, ← List.nodup_range.card_eq_countP]
  -- All rows are of one length, so an index is a place.
  refine Finset.card_nbij' (fun n ↦ (n % e.width, n / e.width))
    (fun place ↦ place.2 * e.width + place.1) ?_ ?_ ?_ ?_
  · intro n hn
    obtain ⟨hrange, hne⟩ := Finset.mem_filter.mp hn
    have hlt : n < e.width * e.height := by simpa [e.length_pixels] using hrange
    have hpos : 0 < e.width := Nat.pos_of_mul_pos_right (Nat.zero_lt_of_lt hlt)
    rw [getElem?_pixels hpos, getElem?_pixels (hwidth ▸ hpos), ← hwidth] at hne
    exact mem_differing.mpr ⟨⟨Nat.mod_lt n hpos, Nat.div_lt_of_lt_mul hlt⟩, hne⟩
  · rintro ⟨x, y⟩ hplace
    obtain ⟨⟨hx, hy⟩, hne⟩ := mem_differing.mp hplace
    rw [pixel?, pixel?, ← hwidth, if_pos hx, if_pos hx] at hne
    refine Finset.mem_filter.mpr ⟨?_, hne⟩
    rw [List.mem_toFinset, List.mem_range, e.length_pixels]
    exact (index_lt_iff hx).mpr hy
  · intro n _
    exact Nat.div_add_mod' n e.width
  · rintro ⟨x, y⟩ hplace
    have hx := (mem_differing.mp hplace).1.1
    have hmod : (y * e.width + x) % e.width = x := by
      rw [Nat.mul_comm, Nat.mul_add_mod, Nat.mod_eq_of_lt hx]
    have hdiv : (y * e.width + x) / e.width = y := by
      rw [Nat.mul_comm, Nat.mul_add_div (Nat.zero_lt_of_lt hx), Nat.div_eq_of_lt hx, Nat.add_zero]
    exact Prod.ext hmod hdiv

theorem mem_distances {n : Nat} (h : e.dimensions = a.dimensions) :
    n ∈ distances e a ↔
      ∃ x y p q, e.pixel? x y = some p ∧ a.pixel? x y = some q ∧ p.distance q = n := by
  obtain ⟨hwidth, -⟩ := Prod.mk.inj h
  rw [distances, List.mem_iff_getElem?]
  constructor
  · rintro ⟨i, hi⟩
    rw [List.getElem?_zipWith] at hi
    split at hi
    · rename_i p q hp hq
      have hlt : i < e.width * e.height := by
        rw [← e.length_pixels]
        exact (List.getElem?_eq_some_iff.mp hp).1
      have hpos : 0 < e.width := Nat.pos_of_mul_pos_right (Nat.zero_lt_of_lt hlt)
      rw [getElem?_pixels hpos] at hp
      rw [getElem?_pixels (hwidth ▸ hpos), ← hwidth] at hq
      exact ⟨_, _, p, q, hp, hq, Option.some.inj hi⟩
    · cases hi
  · rintro ⟨x, y, p, q, hp, hq, rfl⟩
    obtain ⟨-, hp⟩ := pixel?_eq_some_iff.mp hp
    obtain ⟨-, hq⟩ := pixel?_eq_some_iff.mp hq
    rw [← hwidth] at hq
    exact ⟨y * e.width + x, by rw [List.getElem?_zipWith, hp, hq]⟩

/-! ## What is said and shown -/

/-- What a comparison of two images has to say and to show. -/
structure Difference.Exact (e a : Image) (d : Difference) : Prop where
  /-- The places where they differ are counted. -/
  maxPixels : d.stats.maxPixels = (differing e a).card
  /-- The largest difference in a channel, in all places, is told. -/
  maxDifference : IsGreatest
    {n | ∃ x y p q, e.pixel? x y = some p ∧ a.pixel? x y = some q ∧ p.DiffersBy q n}
    d.stats.maxDifference
  /-- The image that shows where they differ is as large as they are. -/
  dimensions : d.image.dimensions = e.dimensions
  /-- It is red where they differ, and shows a pixel that stays as a light gray. -/
  shown (x y : Nat) (p q : Pixel) (hp : e.pixel? x y = some p) (hq : a.pixel? x y = some q) :
    ∃ s, d.image.pixel? x y = some s ∧ (s = ⟨255, 0, 0, 255⟩ ↔ p ≠ q) ∧ (p = q → p.FadesTo s)

theorem isGreatest_maxDifference (h : e.dimensions = a.dimensions)
    (hne : (differing e a).Nonempty) : IsGreatest
      {n | ∃ x y p q, e.pixel? x y = some p ∧ a.pixel? x y = some q ∧ p.DiffersBy q n}
      ((distances e a).foldl max 0) := by
  have hdistances : distances e a ≠ [] := by
    intro hnil
    rw [← Finset.card_pos, ← countP_distances h, hnil] at hne
    exact absurd hne (Nat.lt_irrefl 0)
  obtain ⟨hmem, hupper⟩ := isGreatest_foldl_max hdistances
  refine ⟨?_, ?_⟩
  · obtain ⟨x, y, p, q, hp, hq, hdistance⟩ := (mem_distances h).mp hmem
    exact ⟨x, y, p, q, hp, hq, hdistance ▸ (Pixel.isGreatest_distance p q).1⟩
  · rintro n ⟨x, y, p, q, hp, hq, hn⟩
    exact ((Pixel.isGreatest_distance p q).2 hn).trans
      (hupper ((mem_distances h).mpr ⟨x, y, p, q, hp, hq, rfl⟩))

theorem pixel?_shown (h : e.dimensions = a.dimensions) {x y : Nat} {p q : Pixel}
    (hp : e.pixel? x y = some p) (hq : a.pixel? x y = some q) :
    (shown e a h).pixel? x y = some (p.shown q) := by
  obtain ⟨hwidth, -⟩ := Prod.mk.inj h
  obtain ⟨hx, hp⟩ := pixel?_eq_some_iff.mp hp
  obtain ⟨-, hq⟩ := pixel?_eq_some_iff.mp hq
  rw [← hwidth] at hq
  refine pixel?_eq_some_iff.mpr ⟨hx, ?_⟩
  show (e.pixels.zipWith Pixel.shown a.pixels)[y * e.width + x]? = _
  rw [List.getElem?_zipWith, hp, hq]

/-- **What is said and shown of two images that differ** is what has to be. -/
theorem exact_difference (h : e.dimensions = a.dimensions) (hne : (differing e a).Nonempty) :
    Difference.Exact e a ⟨shown e a h, statsOf (distances e a)⟩ where
  maxPixels := countP_distances h
  maxDifference := isGreatest_maxDifference h hne
  dimensions := rfl
  shown x y p q hp hq := by
    refine ⟨_, pixel?_shown h hp hq, ?_⟩
    by_cases hpq : p = q
    · subst hpq
      rw [Pixel.shown_self]
      exact ⟨iff_of_false p.fadesTo_faded.ne_marked (not_not.mpr rfl), fun _ ↦ p.fadesTo_faded⟩
    · rw [Pixel.shown_of_ne hpq]
      exact ⟨iff_of_true rfl hpq, fun heq ↦ absurd heq hpq⟩

theorem difference?_eq (h : e.dimensions = a.dimensions) :
    difference? e a = .ok (if differing e a = ∅ then none
      else some ⟨shown e a h, statsOf (distances e a)⟩) := by
  have hzero : (statsOf (distances e a)).maxPixels = 0 ↔ differing e a = ∅ := by
    rw [← Finset.card_eq_zero, ← countP_distances h]
    rfl
  rw [difference?, dif_pos h]
  simp only [hzero]
  split <;> rfl

/-- It does not matter which image comes first. -/
theorem distances_comm (e a : Image) : distances e a = distances a e :=
  List.zipWith_comm_of_comm Pixel.distance_comm

/-! ## Numbers that fit -/

theorem card_differing_le (e a : Image) : (differing e a).card ≤ e.width * e.height := by
  have hle := Finset.card_filter_le (Finset.range e.width ×ˢ Finset.range e.height)
    fun place ↦ e.pixel? place.1 place.2 ≠ a.pixel? place.1 place.2
  rwa [Finset.card_product, Finset.card_range, Finset.card_range] at hle

theorem bigEndian_lt (bytes : List UInt8) : Octets.bigEndian bytes < 256 ^ bytes.length := by
  induction bytes using List.reverseRecOn with
  | nil => exact Nat.one_pos
  | append_singleton bytes b ih =>
    have hb := b.toNat_lt
    have hstep : Octets.bigEndian (bytes ++ [b]) = Octets.bigEndian bytes * 256 + b.toNat := by
      simp [Octets.bigEndian]
    rw [hstep, List.length_append, List.length_singleton, pow_succ]
    omega

theorem bigEndian_lt_of_splitAt? {n : Nat} {s front rest : List UInt8}
    (h : Octets.splitAt? n s = some (front, rest)) : Octets.bigEndian front < 256 ^ n := by
  obtain ⟨-, hlength⟩ := Octets.splitAt?_eq_some_iff.mp h
  exact hlength ▸ bigEndian_lt front

theorem form_lt {data : List UInt8} {form : Png.Form} (h : Png.Form.ofBytes? data = some form) :
    form.width < 2 ^ 32 ∧ form.height < 2 ^ 32 := by
  obtain ⟨⟨width, rest⟩, hwidth, h⟩ := Option.bind_eq_some_iff.mp h
  obtain ⟨⟨height, rest'⟩, hheight, h⟩ := Option.bind_eq_some_iff.mp h
  dsimp only at h
  split at h
  · obtain ⟨color, -, h⟩ := Option.bind_eq_some_iff.mp h
    split at h
    · cases h
    · obtain rfl := Option.some.inj h
      exact ⟨bigEndian_lt_of_splitAt? hwidth, bigEndian_lt_of_splitAt? hheight⟩
  · cases h

theorem dimensions_of_ofPixels? {width height : Nat} {pixels : List Pixel} {i : Image}
    (h : ofPixels? width height pixels = some i) : i.width = width ∧ i.height = height := by
  rw [ofPixels?] at h
  split at h
  · obtain rfl := Option.some.inj h
    exact ⟨rfl, rfl⟩
  · cases h

theorem dimensions_lt_of_ofChunks? {chunks : List Png.Chunk} {i : Image}
    (h : Png.ofChunks? chunks = some i) : i.width < 2 ^ 32 ∧ i.height < 2 ^ 32 := by
  obtain ⟨first, -, h⟩ := Option.bind_eq_some_iff.mp h
  dsimp only at h
  split at h
  · cases h
  · obtain ⟨form, hform, h⟩ := Option.bind_eq_some_iff.mp h
    split at h
    · cases h
    · obtain ⟨bytes, -, h⟩ := Option.bind_eq_some_iff.mp h
      obtain ⟨placed, -, h⟩ := Option.bind_eq_some_iff.mp h
      obtain ⟨hwidth, hheight⟩ := dimensions_of_ofPixels? h
      rw [hwidth, hheight]
      exact form_lt hform

/-- The numbers of columns and rows of an image in a file have 32 bits. -/
theorem dimensions_lt_of_ofPng? {f : ByteArray} {i : Image} (h : ofPng? f = some i) :
    i.width < 2 ^ 32 ∧ i.height < 2 ^ 32 := by
  obtain ⟨⟨start, rest⟩, -, h⟩ := Option.bind_eq_some_iff.mp h
  dsimp only at h
  split at h
  · cases h
  · obtain ⟨chunks, -, h⟩ := Option.bind_eq_some_iff.mp h
    exact dimensions_lt_of_ofChunks? h

/-- The numbers that a comparison of two files gives have 8 and 64 bits. -/
theorem Difference.Exact.fits {f : ByteArray} {d : Difference} (h : d.Exact e a)
    (he : ofPng? f = some e) : d.stats.maxDifference < 2 ^ 8 ∧ d.stats.maxPixels < 2 ^ 64 := by
  obtain ⟨hwidth, hheight⟩ := dimensions_lt_of_ofPng? he
  obtain ⟨x, y, p, q, -, -, hdiffers⟩ := h.maxDifference.1
  refine ⟨hdiffers.lt, ?_⟩
  calc d.stats.maxPixels = (differing e a).card := h.maxPixels
    _ ≤ e.width * e.height := card_differing_le e a
    _ < 2 ^ 32 * 2 ^ 32 := Nat.mul_lt_mul'' hwidth hheight
    _ = 2 ^ 64 := rfl

/-! ## Files -/

theorem compareFiles_eq {f g : ByteArray} (he : ofPng? f = some e) (ha : ofPng? g = some a) :
    compareFiles f g = (difference? e a).mapError .mismatch := by
  rw [compareFiles, ofFile, he, ofFile, ha]
  rfl

theorem compareFiles_of_dimensions {f g : ByteArray} (he : ofPng? f = some e)
    (ha : ofPng? g = some a) (h : e.dimensions = a.dimensions) :
    compareFiles f g = .ok (if differing e a = ∅ then none
      else some ⟨shown e a h, statsOf (distances e a)⟩) := by
  rw [compareFiles_eq he ha, difference?_eq h]
  rfl

/-- Two files are images of the same dimensions that differ somewhere. -/
def FilesDiffer (f g : ByteArray) : Prop :=
  ∃ e a, ofPng? f = some e ∧ ofPng? g = some a ∧ e.dimensions = a.dimensions ∧
    ∃ x y, e.pixel? x y ≠ a.pixel? x y

/-- A difference is found exactly between files that differ. -/
theorem exists_compareFiles_iff {f g : ByteArray} :
    (∃ d, compareFiles f g = .ok (some d)) ↔ FilesDiffer f g := by
  have hofFile {which : String} {file : ByteArray} {i : Image} :
      ofFile which file = .ok i ↔ ofPng? file = some i := by
    rw [ofFile]
    cases ofPng? file <;> simp
  have hdiffer {e a : Image} (h : e.dimensions = a.dimensions) :
      (∃ x y, e.pixel? x y ≠ a.pixel? x y) ↔ differing e a ≠ ∅ := by
    rw [Ne, differing_eq_empty_iff h]
    simp only [not_forall, Ne]
  constructor
  · rintro ⟨d, hd⟩
    obtain ⟨e, he, ha⟩ := Answer.bind_eq_ok_iff.mp hd
    obtain ⟨a, ha, hcompare⟩ := Answer.bind_eq_ok_iff.mp ha
    rw [hofFile] at he ha
    have hdim : e.dimensions = a.dimensions := by
      by_contra hne
      rw [difference?, dif_neg hne] at hcompare
      cases hcompare
    rw [compareFiles_of_dimensions he ha hdim] at hd
    refine ⟨e, a, he, ha, hdim, (hdiffer hdim).mpr fun hempty ↦ ?_⟩
    rw [if_pos hempty] at hd
    cases hd
  · rintro ⟨e, a, he, ha, hdim, hne⟩
    exact ⟨_, by rw [compareFiles_of_dimensions he ha hdim, if_neg ((hdiffer hdim).mp hne)]⟩

/-- **A comparison of two files is exact.** If their images have the same dimensions, nothing is
said exactly if all pixels are the same. What is said otherwise is the same whichever file comes
first, it is the number of places that differ and the largest difference in a channel, both of which
fit their bytes, and the places are shown. Images of other dimensions are an error that tells
both. -/
theorem compareFiles_exact {f g : ByteArray} (he : ofPng? f = some e) (ha : ofPng? g = some a) :
    (e.dimensions = a.dimensions →
      (compareFiles f g = .ok none ↔ ∀ x y, e.pixel? x y = a.pixel? x y) ∧
      ((∃ x y, e.pixel? x y ≠ a.pixel? x y) → ∃ d d', compareFiles f g = .ok (some d) ∧
        compareFiles g f = .ok (some d') ∧ d'.stats = d.stats ∧ d.Exact e a ∧
        d.stats.maxDifference < 2 ^ 8 ∧ d.stats.maxPixels < 2 ^ 64)) ∧
    (e.dimensions ≠ a.dimensions → ∃ fault, compareFiles f g = .error fault ∧
      fault.message = s!"image dimensions differ: expected {e.width}x{e.height}, " ++
        s!"actual {a.width}x{a.height}") := by
  refine ⟨fun h ↦ ⟨?_, fun ⟨x, y, hne⟩ ↦ ?_⟩, fun h ↦ ?_⟩
  · rw [compareFiles_of_dimensions he ha h, ← differing_eq_empty_iff h]
    split <;> simp_all
  · have hsome : differing e a ≠ ∅ := fun hempty ↦ hne ((differing_eq_empty_iff h).mp hempty x y)
    have hsome' : differing a e ≠ ∅ :=
      fun hempty ↦ hne ((differing_eq_empty_iff h.symm).mp hempty x y).symm
    have hexact := exact_difference h (Finset.nonempty_iff_ne_empty.mpr hsome)
    refine ⟨_, ⟨shown a e h.symm, statsOf (distances a e)⟩, ?_, ?_,
      congrArg statsOf (distances_comm a e), hexact, hexact.fits he⟩
    · rw [compareFiles_of_dimensions he ha h, if_neg hsome]
    · rw [compareFiles_of_dimensions ha he h.symm, if_neg hsome']
  · rw [compareFiles_eq he ha, difference?, dif_neg h]
    exact ⟨.mismatch ⟨e.dimensions, a.dimensions⟩, rfl, rfl⟩

/-- Two pixels in a row, of which the first is not the same. -/
theorem compareFiles_exact_sample :
    let e : Image := ⟨2, 1, [⟨0, 0, 0, 255⟩, ⟨10, 20, 30, 255⟩], rfl⟩
    let a : Image := ⟨2, 1, [⟨0, 40, 0, 255⟩, ⟨10, 20, 30, 255⟩], rfl⟩
    ofPng? e.png = some e ∧ ofPng? a.png = some a ∧
      ∃ d, compareFiles e.png a.png = .ok (some d) ∧ d.Exact e a ∧ d.stats = ⟨40, 1⟩ := by
  intro e a
  have he : ofPng? e.png = some e := by decide +kernel
  have ha : ofPng? a.png = some a := by decide +kernel
  obtain ⟨d, d', hd, -, -, hexact, -⟩ :=
    ((compareFiles_exact he ha).1 rfl).2 ⟨0, 0, by decide⟩
  refine ⟨he, ha, d, hd, hexact, ?_⟩
  rw [compareFiles_of_dimensions he ha rfl, if_neg (by decide)] at hd
  obtain rfl := Option.some.inj (Except.ok.inj hd)
  decide

end Image

end WebTestRun
