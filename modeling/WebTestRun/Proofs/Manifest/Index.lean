import Mathlib.Data.List.Induction
import WebTestRun.Proofs.Manifest.Listing
import WebTestRun.Proofs.TestName.Suite

/-!
# Looking up tests in a manifest

A manifest is read into a table of tests under their URLs. Of the tests that are listed under one
URL the table keeps the last one.

* `Manifest.find?_reverse_eq_some_iff`, `getElem?_ofTests` — the last of several tests under a URL,
  and that a table keeps it.
* `Manifest.ordered_of_parts?` — the items of a manifest are ordered.
* `Manifest.read_by_listing` — which manifests can be read, and what is found in them.
-/

set_option autoImplicit false

namespace WebTestRun

namespace Manifest

variable {text : String} {items : List (String × Json)} {url : String} {entry : Entry}

/-! ## Tables of tests -/

/-- **A table keeps the last test** under a URL. -/
theorem getElem?_ofTests (tests : List (String × Entry)) (url : String) :
    (ofTests tests).tests[url]? = Keyed.find? url tests.reverse := by
  induction tests using List.reverseRecOn with
  | nil => simp [ofTests]
  | append_singleton tests test ih =>
    rw [ofTests] at ih
    rw [ofTests, List.foldl_append, List.foldl_cons, List.foldl_nil, Std.HashMap.getElem?_insert,
      ih, List.reverse_append, List.reverse_singleton, List.singleton_append, Keyed.find?]
    simp

/-- **The last test under a URL** in a list with addresses in order is the one whose address comes
after all others. -/
theorem find?_reverse_eq_some_iff {l : List (Address × String × Entry)}
    (h : l.Pairwise fun e e' ↦ e.1.Before e'.1) :
    Keyed.find? url (l.map (·.2)).reverse = some entry ↔
      ∃ a, (a, url, entry) ∈ l ∧
        ∀ a' entry', (a', url, entry') ∈ l → a' = a ∨ a'.Before a := by
  induction l using List.reverseRecOn with
  | nil => simp
  | append_singleton l last ih =>
    obtain ⟨b, u, other⟩ := last
    obtain ⟨hl, -, hbefore⟩ := List.pairwise_append.mp h
    rw [List.map_append, List.reverse_append, List.map_singleton, List.reverse_singleton,
      List.singleton_append, Keyed.find?]
    by_cases hu : u = url
    · subst hu
      rw [if_pos rfl, Option.some.injEq]
      constructor
      · rintro rfl
        refine ⟨b, by simp, fun a' entry' hmem ↦ ?_⟩
        rcases List.mem_append.mp hmem with hmem | hmem
        · exact .inr (hbefore _ hmem _ List.mem_cons_self)
        · exact .inl (Prod.mk.inj (List.mem_singleton.mp hmem)).1
      · rintro ⟨a, hmem, hlast⟩
        rcases List.mem_append.mp hmem with hmem | hmem
        · -- The last one would come after itself.
          have hab : a.Before b := hbefore _ hmem _ List.mem_cons_self
          rcases hlast b other (by simp) with rfl | hba
          · exact absurd hab hab.asymm
          · exact absurd hba hab.asymm
        · exact (Prod.mk.inj (Prod.mk.inj (List.mem_singleton.mp hmem)).2).2.symm
    · have hmem {a : Address} {entry : Entry} :
          (a, url, entry) ∈ l ++ [(b, u, other)] ↔ (a, url, entry) ∈ l := by
        simp [Ne.symm hu]
      rw [if_neg hu, ih hl]
      simp only [hmem]

/-! ## Manifests that can be read -/

/-- **The items of a manifest are ordered** at every depth. -/
theorem ordered_of_parts? {d : Document} {found : Nat} (h : parts? d = some (found, items)) :
    (Json.object items).Ordered := by
  obtain ⟨fields, -, h⟩ := Option.bind_eq_some_iff.mp h
  obtain ⟨number, -, h⟩ := Option.bind_eq_some_iff.mp h
  obtain ⟨version, -, h⟩ := Option.bind_eq_some_iff.mp h
  split at h
  · obtain rfl := (Prod.mk.inj (Option.some.inj h)).2
    exact .object .nil fun m hm ↦ absurd hm List.not_mem_nil
  · obtain ⟨value, hvalue, h⟩ := Option.bind_eq_some_iff.mp h
    split at h
    · obtain rfl := (Prod.mk.inj (Option.some.inj h)).2
      exact Document.ordered_of_value? hvalue
    · cases h

theorem ordered_of_text {found : Nat}
    (h : (Document.ofText? text).bind parts? = some (found, items)) :
    (Json.object items).Ordered := by
  obtain ⟨d, -, hparts⟩ := Option.bind_eq_some_iff.mp h
  exact ordered_of_parts? hparts

/-- A manifest of the right version is read if its items can be. -/
theorem read_eq_ok_iff (h : (Document.ofText? text).bind parts? = some (version, items))
    {m : Manifest} :
    read text = .ok m ↔ ∃ tests, itemTests? items = some tests ∧ ofTests tests = m := by
  simp only [read, h, ne_eq, not_true_eq_false, if_false]
  cases itemTests? items with
  | none => simp
  | some tests => simp

/-- A URL is in the table if a test is listed under it. -/
theorem mem_ofTests_iff (hordered : (Json.object items).Ordered) {tests : List (String × Entry)}
    (h : itemTests? items = some tests) :
    url ∈ (ofTests tests).tests ↔ ∃ a entry, Lists items a url entry := by
  rw [Std.HashMap.mem_iff_isSome_getElem?, getElem?_ofTests, ← Keyed.mem_keys_iff, Keyed.keys,
    ← map_listing h]
  simp only [← mem_listing hordered, List.mem_map, List.mem_reverse]
  constructor
  · rintro ⟨_, ⟨⟨a, url, entry⟩, hmem, rfl⟩, rfl⟩
    exact ⟨a, entry, hmem⟩
  · rintro ⟨a, entry, hmem⟩
    exact ⟨(url, entry), ⟨(a, url, entry), hmem, rfl⟩, rfl⟩

/-- **A manifest says what it lists.** A manifest of the right version can be read exactly if it has
a tree of tests under the name of each kind that is there; what it has under other names does not
matter. Under a URL without a slash in front, and under the same with one, stands the last test that
is listed there, and nothing if none is. The number of tests is the number of URLs under which one
is listed. -/
theorem read_by_listing (h : (Document.ofText? text).bind parts? = some (version, items)) :
    ((∃ m, read text = .ok m) ↔
      ∀ (kind : TestKind) tree, Keyed.find? (Named.name kind) items = some tree → IsTree tree) ∧
    (∀ text' items', (Document.ofText? text').bind parts? = some (version, items') →
      (∀ kind : TestKind,
        Keyed.find? (Named.name kind) items' = Keyed.find? (Named.name kind) items) →
      read text' = read text) ∧
    ∀ m, read text = .ok m →
      (∀ url, ¬ ['/'] <+: url.toList →
        m.get? ("/" ++ url) = m.get? url ∧
        (∀ entry, m.get? url = some entry ↔ ∃ a, Lists items a url entry ∧
          ∀ a' entry', Lists items a' url entry' → a' = a ∨ a'.Before a) ∧
        (m.get? url = none ↔ ∀ a entry, ¬ Lists items a url entry)) ∧
      ∃ urls : List String, urls.Nodup ∧
        (∀ url, url ∈ urls ↔ ∃ a entry, Lists items a url entry) ∧ m.size = urls.length := by
  have hordered := ordered_of_text h
  refine ⟨?_, fun text' items' h' hsame ↦ ?_, fun m hread ↦ ?_⟩
  · rw [← exists_itemTests?_iff hordered]
    simp only [read_eq_ok_iff h]
    exact ⟨fun ⟨_, tests, htests, _⟩ ↦ ⟨tests, htests⟩,
      fun ⟨tests, htests⟩ ↦ ⟨_, tests, htests, rfl⟩⟩
  · simp only [read, h, h', itemTests?_congr hordered (ordered_of_text h') hsame]
  · obtain ⟨tests, htests, rfl⟩ := (read_eq_ok_iff h).mp hread
    refine ⟨fun url hurl ↦ ?_, (ofTests tests).tests.keys, Std.HashMap.nodup_keys, fun url ↦ ?_,
      Std.HashMap.length_keys.symm⟩
    · rw [get?, get?, TestName.withoutSlash_slash, TestName.withoutSlash_of_not_prefix hurl]
      refine ⟨rfl, fun entry ↦ ?_, ?_⟩
      · rw [getElem?_ofTests, ← map_listing htests,
          find?_reverse_eq_some_iff (pairwise_listing hordered)]
        simp only [mem_listing hordered]
      · rw [← Option.not_isSome_iff_eq_none, ← Std.HashMap.mem_iff_isSome_getElem?,
          mem_ofTests_iff hordered htests]
        simp only [not_exists]
    · rw [Std.HashMap.mem_keys, mem_ofTests_iff hordered htests]

/-- A manifest that lists two tests under one URL, and has something else under another name. -/
def sampleText : String :=
  "\x7b\"version\":8,\"items\":\x7b\"x\":0,\"wdspec\":\x7b\"b\":[0,[\"/u\"]],\"a\":[0,[\"u\"]]\x7d\x7d\x7d"

/-- What it lists. -/
def sampleListing : List (Address × String × Entry) :=
  [(⟨["wdspec", "a"], 1⟩, "u", ⟨.wdspec, "a"⟩), (⟨["wdspec", "b"], 1⟩, "u", ⟨.wdspec, "b"⟩)]

theorem read_by_listing_sample :
    ∃ items m, (Document.ofText? sampleText).bind parts? = some (version, items) ∧
      read sampleText = .ok m ∧ m.get? ("/" ++ "u") = some ⟨.wdspec, "b"⟩ := by
  have hsample : ((Document.ofText? sampleText).bind parts?).any (fun p ↦
      p.1 == version && (itemTests? p.2).isSome && listing p.2 == sampleListing) = true := by
    decide +kernel
  obtain ⟨⟨found, items⟩, hitems, hsample⟩ := (Option.any_eq_true _ _).mp hsample
  simp only [Bool.and_eq_true, beq_iff_eq, Option.isSome_iff_exists] at hsample
  obtain ⟨⟨rfl, tests, htests⟩, hlisting⟩ := hsample
  have hlists {a : Address} {url : String} {entry : Entry} :
      Lists items a url entry ↔ (a, url, entry) ∈ sampleListing := by
    rw [← mem_listing (ordered_of_text hitems), hlisting]
  have hread := (read_eq_ok_iff hitems).mpr ⟨tests, htests, rfl⟩
  obtain ⟨hslash, hget, -⟩ := ((read_by_listing hitems).2.2 _ hread).1 "u" (by decide)
  have hlast := (hget ⟨.wdspec, "b"⟩).mpr
    ⟨⟨["wdspec", "b"], 1⟩, hlists.mpr (by decide), fun a entry h ↦ by
      rw [hlists, sampleListing] at h
      simp only [List.mem_cons, Prod.mk.injEq, List.not_mem_nil, or_false] at h
      rcases h with ⟨rfl, -⟩ | ⟨rfl, -⟩
      · exact .inr (.inl (by decide))
      · exact .inl rfl⟩
  exact ⟨items, _, hitems, hread, hslash.trans hlast⟩

end Manifest

end WebTestRun
