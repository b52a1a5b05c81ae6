import Mathlib.Data.List.Nodup
import WebTestRun.Collection.Keyed

/-!
# Reading entries under keys

What the look-up of a key finds, in lists whose keys are distinct and in lists that were changed.

* `find?_eq_some_of_mem` — with distinct keys every entry is found under its key.
* `has_insert`, `keys_insert_congr`, `has_erase`, `mem_keys_put` — which keys are there after a
  change.
* `ordered_insert`, `ordered_ofList` — the keys stay in increasing order, `Ordered.ext` — lists in
  order are equal if they hold the same under every key.
* `find?_perm`, `perm_ofList`, `ofList_perm` — the order of distinct keys does not matter.
* `flatMap_put_perm` — what lists under keys hold after a change.
-/

set_option autoImplicit false

namespace WebTestRun.Keyed

variable {α β : Type}

/-- With distinct keys every entry is found under its key. -/
theorem find?_eq_some_of_mem {l : List (String × α)} (hnodup : (keys l).Nodup) {e : String × α}
    (he : e ∈ l) : find? e.1 l = some e.2 := by
  induction l with
  | nil => simp at he
  | cons d l ih =>
    rw [keys, List.map_cons, List.nodup_cons] at hnodup
    rw [find?]
    rcases List.mem_cons.mp he with rfl | he
    · exact if_pos rfl
    · have hne : d.1 ≠ e.1 := fun h ↦ hnodup.1 (List.mem_map.mpr ⟨e, he, h.symm⟩)
      rw [if_neg hne]
      exact ih hnodup.2 he

theorem has_iff_mem_keys {k : String} {l : List (String × α)} : has k l = true ↔ k ∈ keys l :=
  mem_keys_iff.symm

theorem find?_map (f : α → β) (k : String) (l : List (String × α)) :
    find? k (l.map fun e ↦ (e.1, f e.2)) = (find? k l).map f := by
  induction l with
  | nil => rfl
  | cons e l ih =>
    rw [List.map_cons, find?, find?, ih]
    split <;> rfl

theorem keys_map (f : α → β) (l : List (String × α)) :
    keys (l.map fun e ↦ (e.1, f e.2)) = keys l := by
  rw [keys, keys, List.map_map]
  rfl

/-- A key that is new can be added at the end. -/
theorem nodup_concat_iff {β : Type} {ks : List β} {k : β} :
    (ks ++ [k]).Nodup ↔ k ∉ ks ∧ ks.Nodup := by
  rw [List.nodup_append_comm, List.singleton_append, List.nodup_cons]

theorem nodup_keys_put {k : String} (a : α) {l : List (String × α)} (h : (keys l).Nodup) :
    (keys (put k a l)).Nodup := by
  rw [keys_put]
  split
  · exact h
  · rename_i hnew
    exact nodup_concat_iff.mpr ⟨hnew, h⟩

theorem mem_keys_put {k q : String} (a : α) (l : List (String × α)) :
    q ∈ keys (put k a l) ↔ q ∈ keys l ∨ q = k := by
  rw [keys_put]
  split
  · rename_i hmem
    exact ⟨.inl, fun h ↦ h.elim id fun h ↦ h ▸ hmem⟩
  · rw [List.mem_append, List.mem_singleton]

/-- One more in the list under a key is one more in all lists together. -/
theorem flatMap_put_perm (k : String) (a : α) (l : List (String × List α)) :
    ((put k ((find? k l).getD [] ++ [a]) l).flatMap (·.2)).Perm (l.flatMap (·.2) ++ [a]) := by
  induction l with
  | nil => exact .refl _
  | cons e l ih =>
    obtain ⟨j, as⟩ := e
    rw [find?, put]
    split
    · rw [Option.getD_some, List.flatMap_cons, List.flatMap_cons, List.append_assoc,
        List.append_assoc]
      exact List.perm_append_comm.append_left as
    · rw [List.flatMap_cons, List.flatMap_cons, List.append_assoc]
      exact ih.append_left as

theorem erase_insert (k : String) (a : α) (l : List (String × α)) :
    erase k (insert k a l) = erase k l := by
  induction l with
  | nil => simp [erase, insert]
  | cons e l ih =>
    obtain ⟨j, b⟩ := e
    rw [insert]
    split
    · rename_i hk
      simp [erase, hk]
    · split
      · simp [erase]
      · rw [erase, List.filter_cons, erase, List.filter_cons]
        rw [erase, erase] at ih
        rw [ih]

theorem has_insert (k q : String) (a : α) (l : List (String × α)) :
    has q (insert k a l) = (decide (k = q) || has q l) := by
  rw [has, find?_insert]
  by_cases h : k = q <;> simp [h, has]

/-- An entry in the place of one that is there adds no key. -/
theorem has_insert_of_find? {k : String} {a b : α} {l : List (String × α)}
    (h : find? k l = some b) (q : String) : has q (insert k a l) = has q l := by
  rw [has_insert]
  by_cases hq : k = q
  · rw [← hq, has, h]
    simp
  · simp [hq]

/-- Which keys are there after an entry is inserted has nothing to do with the entries. -/
theorem keys_insert_congr (k : String) (a : α) (b : β) {l : List (String × α)}
    {l' : List (String × β)} (h : keys l = keys l') :
    keys (insert k a l) = keys (insert k b l') := by
  induction l generalizing l' with
  | nil =>
    rw [List.map_eq_nil_iff.mp h.symm]
    rfl
  | cons e l ih =>
    cases l' with
    | nil => cases h
    | cons e' l' =>
      obtain ⟨j, c⟩ := e
      obtain ⟨j', c'⟩ := e'
      obtain ⟨hj, hl⟩ := List.cons.inj h
      obtain rfl : j = j' := hj
      rw [insert, insert]
      split
      · exact congrArg (k :: ·) hl
      · split
        · exact congrArg (k :: j :: ·) hl
        · exact congrArg (j :: ·) (ih hl)

theorem has_erase (k q : String) (l : List (String × α)) :
    has q (erase k l) = (!decide (k = q) && has q l) := by
  rw [has, find?_erase]
  by_cases h : k = q <;> simp [h, has]

/-! ## Increasing order -/

theorem mem_of_mem_insert {k : String} {a : α} {l : List (String × α)} {e : String × α}
    (h : e ∈ insert k a l) : e = (k, a) ∨ e ∈ l := by
  induction l with
  | nil => exact .inl (List.mem_singleton.mp h)
  | cons d l ih =>
    rw [insert] at h
    split at h
    · exact (List.mem_cons.mp h).imp_right (List.mem_cons_of_mem d)
    · split at h
      · exact List.mem_cons.mp h
      · rcases List.mem_cons.mp h with rfl | h
        · exact .inr List.mem_cons_self
        · exact (ih h).imp_right (List.mem_cons_of_mem d)

/-- The keys are in increasing order if the first is below all others, and they are in order. -/
theorem ordered_cons {e : String × α} {l : List (String × α)} :
    Ordered (e :: l) ↔ (∀ d ∈ l, e.1 < d.1) ∧ Ordered l := by
  simp [Ordered, keys]

theorem ordered_insert (k : String) (a : α) {l : List (String × α)} (h : Ordered l) :
    Ordered (insert k a l) := by
  induction l with
  | nil => exact List.pairwise_singleton _ _
  | cons e l ih =>
    rw [ordered_cons] at h
    rw [insert]
    split
    · rename_i hk
      rw [ordered_cons, hk]
      exact h
    · split
      · rename_i hlt
        rw [ordered_cons, ordered_cons]
        refine ⟨fun d hd ↦ ?_, h⟩
        rcases List.mem_cons.mp hd with rfl | hd
        · exact hlt
        · exact String.lt_trans hlt (h.1 d hd)
      · rename_i hne hnlt
        rw [ordered_cons]
        refine ⟨fun d hd ↦ ?_, ih h.2⟩
        rcases mem_of_mem_insert hd with rfl | hd
        · exact Std.lt_of_le_of_ne (String.not_lt.mp hnlt) (Ne.symm hne)
        · exact h.1 d hd

/-- **A list that is built key by key is in increasing order.** -/
theorem ordered_ofList (l : List (String × α)) : Ordered (ofList l) := by
  have key (built : List (String × α)) (h : Ordered built) :
      Ordered (l.foldl (fun built e ↦ insert e.1 e.2 built) built) := by
    induction l generalizing built with
    | nil => exact h
    | cons e l ih => exact ih _ (ordered_insert e.1 e.2 h)
  exact key [] .nil

theorem mem_of_mem_ofList {l : List (String × α)} {e : String × α} (h : e ∈ ofList l) : e ∈ l := by
  have key (built : List (String × α)) (more : List (String × α))
      (h : e ∈ more.foldl (fun built e ↦ insert e.1 e.2 built) built) : e ∈ built ∨ e ∈ more := by
    induction more generalizing built with
    | nil => exact .inl h
    | cons d more ih =>
      rcases ih _ h with hbuilt | hmore
      · rcases mem_of_mem_insert hbuilt with rfl | hbuilt
        · exact .inr List.mem_cons_self
        · exact .inl hbuilt
      · exact .inr (List.mem_cons_of_mem d hmore)
  exact (key [] l h).resolve_left List.not_mem_nil

/-- Keys in increasing order are distinct. -/
theorem Ordered.nodup {l : List (String × α)} (h : Ordered l) : (keys l).Nodup :=
  List.Pairwise.imp (fun {j k} (hlt : j < k) (heq : j = k) ↦ String.lt_irrefl k (heq ▸ hlt)) h

theorem mem_of_find? {k : String} {a : α} {l : List (String × α)} (h : find? k l = some a) :
    (k, a) ∈ l := by
  induction l with
  | nil => cases h
  | cons e l ih =>
    obtain ⟨j, b⟩ := e
    rw [find?] at h
    split at h
    · rename_i hj
      rw [hj, Option.some.inj h]
      exact List.mem_cons_self
    · exact List.mem_cons_of_mem _ (ih h)

/-- **Lists in order are equal if they hold the same under every key.** -/
theorem Ordered.ext {l l' : List (String × α)} (h : Ordered l) (h' : Ordered l')
    (hsame : ∀ k, find? k l = find? k l') : l = l' := by
  have hmem (e : String × α) : e ∈ l ↔ e ∈ l' := by
    constructor
    · intro he
      exact mem_of_find? ((hsame e.1).symm.trans (find?_eq_some_of_mem h.nodup he))
    · intro he
      exact mem_of_find? ((hsame e.1).trans (find?_eq_some_of_mem h'.nodup he))
  have hperm : l.Perm l' :=
    (List.perm_ext_iff_of_nodup (List.Nodup.of_map _ h.nodup) (List.Nodup.of_map _ h'.nodup)).mpr
      hmem
  refine hperm.eq_of_pairwise (fun e d _ _ hlt hgt ↦ ?_) (List.pairwise_map.mp h)
    (List.pairwise_map.mp h')
  exact absurd (String.lt_trans hlt hgt) (String.lt_irrefl _)

/-! ## Lists in another order -/

theorem find?_append (k : String) (l l' : List (String × α)) :
    find? k (l ++ l') = (find? k l).or (find? k l') := by
  induction l with
  | nil => rfl
  | cons e l ih =>
    rw [List.cons_append, find?, find?, ih]
    split <;> rfl

theorem find?_eq_none_iff {k : String} {l : List (String × α)} : find? k l = none ↔ k ∉ keys l := by
  rw [mem_keys_iff, Option.not_isSome_iff_eq_none]

/-- **Distinct keys hold the same in any order.** -/
theorem find?_perm {l l' : List (String × α)} (h : l.Perm l') (hnodup : (keys l).Nodup)
    (k : String) : find? k l = find? k l' := by
  have hnodup' : (keys l').Nodup := (h.map _).nodup_iff.mp hnodup
  cases hk : find? k l with
  | some a => exact (find?_eq_some_of_mem hnodup' (h.subset (mem_of_find? hk))).symm
  | none =>
    rw [find?_eq_none_iff] at hk
    exact (find?_eq_none_iff.mpr fun hk' ↦ hk ((h.map _).symm.subset hk')).symm

theorem find?_ofList {l : List (String × α)} (hnodup : (keys l).Nodup) (k : String) :
    find? k (ofList l) = find? k l := by
  have key (built : List (String × α)) :
      find? k (l.foldl (fun built e ↦ insert e.1 e.2 built) built) =
        (find? k l).or (find? k built) := by
    induction l generalizing built with
    | nil => rfl
    | cons e l ih =>
      rw [keys, List.map_cons, List.nodup_cons] at hnodup
      rw [List.foldl_cons, ih hnodup.2, find?_insert, find?]
      split
      · rename_i hk
        rw [find?_eq_none_iff.mpr (hk ▸ hnodup.1), Option.none_or, Option.some_or]
      · rfl
  rw [ofList, key, find?_nil, Option.or_none]

/-- With distinct keys a list in order holds all entries that came. -/
theorem perm_ofList {l : List (String × α)} (hnodup : (keys l).Nodup) : (ofList l).Perm l := by
  refine (List.perm_ext_iff_of_nodup (List.Nodup.of_map _ (ordered_ofList l).nodup)
    (List.Nodup.of_map _ hnodup)).mpr fun e ↦ ⟨mem_of_mem_ofList, fun he ↦ ?_⟩
  exact mem_of_find? ((find?_ofList hnodup e.1).trans (find?_eq_some_of_mem hnodup he))

/-- The order in which distinct keys came does not matter to a list in order. -/
theorem ofList_perm {l l' : List (String × α)} (h : l.Perm l') (hnodup : (keys l).Nodup) :
    ofList l = ofList l' := by
  have hnodup' : (keys l').Nodup := (h.map _).nodup_iff.mp hnodup
  refine (ordered_ofList l).ext (ordered_ofList l') fun k ↦ ?_
  rw [find?_ofList hnodup, find?_ofList hnodup', find?_perm h hnodup]

theorem Ordered.ofList_eq_self {l : List (String × α)} (h : Ordered l) : ofList l = l :=
  (ordered_ofList l).ext h (find?_ofList h.nodup)

end WebTestRun.Keyed
