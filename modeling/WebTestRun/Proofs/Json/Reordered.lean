import Mathlib.Data.List.Perm.Subperm
import WebTestRun.Json.Decode
import WebTestRun.Proofs.Collection.Answer
import WebTestRun.Proofs.Collection.Keyed

/-!
# Values read back, their members in any order

A record is written with its members in the order of its fields, and a value that was read holds
them in the order of their keys. Readers do not care: what a reader gets back from a value it gets
back from every value that differs from it in the order of members only.

* `Json.Same` — two values that differ in the order of members only.
* `Document.Recovers` — what a reader gets back from a value and from all that are the same.
* `Document.exists_fields_of_same` — the fields of a record, `Document.exists_reads_of_same` — the
  members of an object without a fixed form.
-/

set_option autoImplicit false

namespace WebTestRun

/-- The second value is the first one, with the members of its objects in any order. -/
inductive Json.Same : Json → Json → Prop where
  | null : Same .null .null
  | bool (b : Bool) : Same (.bool b) (.bool b)
  | number (n : Number) : Same (.number n) (.number n)
  | string (s : String) : Same (.string s) (.string s)
  | array {items items' : List Json} (hlength : items.length = items'.length)
    (hitems : ∀ {i i'}, (i, i') ∈ items.zip items' → Same i i') :
    Same (.array items) (.array items')
  | object {members members' : List (String × Json)}
    (hkeys : (Keyed.keys members).Perm (Keyed.keys members'))
    (hmembers : ∀ {k j j'}, Keyed.find? k members = some j → Keyed.find? k members' = some j' →
      Same j j') : Same (.object members) (.object members')

namespace Json

mutual

theorem Same.refl : ∀ j : Json, j.Same j
  | .null => .null
  | .bool b => .bool b
  | .number n => .number n
  | .string s => .string s
  | .array items => .array rfl fun {_ _} h ↦ same_of_mem_zip items h
  | .object members => .object (.refl _) fun {k j j'} hj hj' ↦ by
    rw [hj, Option.some.injEq] at hj'
    exact hj' ▸ same_of_mem members (Keyed.mem_of_find? hj)

theorem same_of_mem_zip :
    ∀ items : List Json, ∀ {i i' : Json}, (i, i') ∈ items.zip items → i.Same i'
  | [], _, _, h => by cases h
  | j :: items, i, i', h => by
    rcases List.mem_cons.mp h with heq | h
    · obtain ⟨rfl, rfl⟩ := Prod.mk.inj heq
      exact Same.refl _
    · exact same_of_mem_zip items h

theorem same_of_mem : ∀ members : List (String × Json), ∀ {k : String} {j : Json},
    (k, j) ∈ members → j.Same j
  | [], _, _, h => by cases h
  | (_, j') :: members, k, j, h => by
    rcases List.mem_cons.mp h with heq | h
    · obtain ⟨rfl, rfl⟩ := Prod.mk.inj heq
      exact Same.refl j
    · exact same_of_mem members h

end

/-- What is the same as an object is one. -/
theorem Same.exists_object {members : List (String × Json)} {j : Json}
    (h : (Json.object members).Same j) : ∃ members', j = .object members' := by
  cases h
  exact ⟨_, rfl⟩

/-- Every member of the second object is a member of the first. -/
theorem Same.exists_of_mem {members members' : List (String × Json)}
    (h : (Json.object members).Same (.object members')) (hnodup : (Keyed.keys members).Nodup)
    {m : String × Json} (hm : m ∈ members') :
    ∃ j, Keyed.find? m.1 members = some j ∧ j.Same m.2 := by
  cases h with
  | object hkeys hmembers =>
    obtain ⟨j, hj⟩ := Option.isSome_iff_exists.mp
      (Keyed.mem_keys_iff.mp (hkeys.symm.subset (List.mem_map_of_mem hm)))
    exact ⟨j, hj, hmembers hj
      (Keyed.find?_eq_some_of_mem (hkeys.nodup_iff.mp hnodup) hm)⟩

theorem Same.ne_null {j j' : Json} (h : j.Same j') (hj : j ≠ .null) : j' ≠ .null := by
  cases h <;> simp_all

end Json

namespace Document

open Json (Same)

variable {α : Type}

theorem ofItems_eq_map (items : List Json) : ofItems items = items.map ofJson := by
  induction items with
  | nil => rfl
  | cons j items ih => rw [ofItems, ih, List.map_cons]

theorem ofMembers_eq_map (members : List (String × Json)) :
    ofMembers members = members.map fun m ↦ (some m.1, ofJson m.2) := by
  induction members with
  | nil => rfl
  | cons m members ih => rw [ofMembers, ih, List.map_cons]

/-- A reader gets something back from a value, whatever the order of members in it. -/
def Recovers (read? : Document → Option α) (j : Json) (a : α) : Prop :=
  ∀ j', j.Same j' → read? (ofJson j') = some a

/-! ## Values of one type -/

theorem recovers_text (s : String) : Recovers text? (.string s) s := by
  rintro _ ⟨⟩
  rfl

theorem recovers_boolean (b : Bool) : Recovers boolean? (.bool b) b := by
  rintro _ ⟨⟩
  rfl

theorem recovers_natural (n : Nat) : Recovers natural? (.ofNat n) n := by
  rintro _ ⟨⟩
  simp [ofJson, natural?, integer?]

theorem recovers_signed {n : Int} (h : Width.IsSigned64 n) :
    Recovers signed? (.number (.integer n)) n := by
  rintro _ ⟨⟩
  exact if_pos (decide_eq_true h)

theorem recovers_real (x : Float) : Recovers real? (.number (.real x)) x := by
  rintro _ ⟨⟩
  rfl

theorem recovers_null (read? : Document → Option α) : Recovers (orNull? read?) .null none := by
  rintro _ ⟨⟩
  rfl

theorem Recovers.orNull {read? : Document → Option α} {j : Json} {a : α} (h : Recovers read? j a)
    (hj : j ≠ .null) : Recovers (orNull? read?) j (some a) := by
  intro j' hsame
  have hj' := hsame.ne_null hj
  have hread := h j' hsame
  cases j' with
  | null => exact absurd rfl hj'
  | _ => exact congrArg (Option.map some) hread

theorem recovers_textOrNull (s : Option String) : Recovers (orNull? text?) (.textOrNull s) s := by
  cases s with
  | none => exact recovers_null text?
  | some s => exact (recovers_text s).orNull (by simp)

theorem recovers_list {read? : Document → Option α} {js : List Json} {as : List α}
    (h : List.Forall₂ (Recovers read?) js as) : Recovers (list? read?) (.array js) as := by
  intro j' hsame
  cases hsame with
  | @array _ js' hlength hitems =>
    show (ofItems js').mapM read? = some as
    rw [ofItems_eq_map, Answer.mapM_eq_some_iff, List.forall₂_map_left_iff]
    induction h generalizing js' with
    | nil =>
      rw [List.length_eq_zero_iff.mp hlength.symm]
      exact .nil
    | cons hj _ ih =>
      cases js' with
      | nil => cases hlength
      | cons i' js' =>
        exact .cons (hj i' (hitems List.mem_cons_self))
          (ih (Nat.succ.inj hlength) fun {i j} h ↦ hitems (List.mem_cons_of_mem _ h))

/-! ## Objects without a fixed form -/

theorem exists_forall₂_of_mem {β γ : Type} {R : β → γ → Prop} {bs : List β} {cs : List γ}
    (h : ∀ b ∈ bs, ∃ c ∈ cs, R b c) : ∃ ds, List.Forall₂ R bs ds ∧ ds ⊆ cs := by
  induction bs with
  | nil => exact ⟨[], .nil, List.nil_subset cs⟩
  | cons b bs ih =>
    rw [List.forall_mem_cons] at h
    obtain ⟨c, hc, hb⟩ := h.1
    obtain ⟨ds, hds, hsub⟩ := ih h.2
    exact ⟨c :: ds, .cons hb hds, List.cons_subset.mpr ⟨hc, hsub⟩⟩

/-- What a member gives: an entry under its key. -/
def Reads (read? : Document → Option α) (m : String × Json) (e : String × α) : Prop :=
  m.1 = e.1 ∧ read? (ofJson m.2) = some e.2

theorem keys_of_reads {read? : Document → Option α} {members : List (String × Json)}
    {es : List (String × α)} (h : List.Forall₂ (Reads read?) members es) :
    Keyed.keys es = Keyed.keys members := by
  induction h with
  | nil => rfl
  | cons hm _ ih => exact congrArg₂ List.cons hm.1.symm ih

/-- **Members in any order are read back as entries in some order.** -/
theorem exists_reads_of_same {read? : Document → Option α} {w : α → Json}
    {es : List (String × α)} {members : List (String × Json)} (hnodup : (Keyed.keys es).Nodup)
    (hsame : (Json.object (es.map fun e ↦ (e.1, w e.2))).Same (.object members))
    (hread : ∀ e ∈ es, Recovers read? (w e.2) e.2) :
    ∃ es', es'.Perm es ∧ List.Forall₂ (Reads read?) members es' := by
  have hwritten : (Keyed.keys (es.map fun e ↦ (e.1, w e.2))).Nodup := by rwa [Keyed.keys_map]
  have hmember : ∀ m ∈ members, ∃ e ∈ es, Reads read? m e := by
    intro m hm
    obtain ⟨j, hj, hsame⟩ := hsame.exists_of_mem hwritten hm
    rw [Keyed.find?_map, Option.map_eq_some_iff] at hj
    obtain ⟨a, ha, rfl⟩ := hj
    have he := Keyed.mem_of_find? ha
    exact ⟨_, he, rfl, hread _ he _ hsame⟩
  obtain ⟨es', hreads, hsub⟩ := exists_forall₂_of_mem hmember
  have hkeys : (Keyed.keys es').Perm (Keyed.keys es) := by
    cases hsame with
    | object hkeys _ =>
      rw [Keyed.keys_map] at hkeys
      rw [keys_of_reads hreads]
      exact hkeys.symm
  -- Both lists have the same keys, so they are of one length.
  have hdistinct : es'.Nodup := .of_map _ (hkeys.nodup_iff.mpr hnodup)
  have hlength : es.length ≤ es'.length := by
    have hlengths := hkeys.length_eq
    rw [Keyed.keys, Keyed.keys, List.length_map, List.length_map] at hlengths
    exact Nat.le_of_eq hlengths.symm
  exact ⟨es', (hdistinct.subperm hsub).perm_of_length_le hlength, hreads⟩

end Document

/-! ## Records -/

/-- The fields of a record are what its members were written with. -/
structure Fields.Give (f : Fields) (members : List (String × Json)) : Prop where
  /-- A field is given for every member. -/
  some : ∀ {k j}, Keyed.find? k members = some j →
    ∃ j', j.Same j' ∧ f.optional k = some (.ofJson j')
  /-- No other field is given. -/
  none : ∀ {k}, Keyed.find? k members = none → f.optional k = none

theorem Fields.Give.required {α : Type} {f : Fields} {members : List (String × Json)}
    (h : f.Give members) {read? : Document → Option α} {k : String} {j : Json} {a : α}
    (hj : Keyed.find? k members = .some j) (hread : Document.Recovers read? j a) :
    ∃ d, f.required? k = .some d ∧ read? d = .some a := by
  obtain ⟨j', hsame, hd⟩ := h.some hj
  exact ⟨_, hd, hread j' hsame⟩

theorem Fields.Give.nullable {α : Type} {f : Fields} {members : List (String × Json)}
    (h : f.Give members) {read? : Document → Option α} {k : String} {j : Json} {a : α}
    (hj : Keyed.find? k members = .some j) (hread : Document.Recovers read? j a) :
    ∃ d, f.nullable? k = .some d ∧ read? d = .some a := by
  obtain ⟨d, hd, hread⟩ := h.required hj hread
  exact ⟨d, by rw [Fields.nullable?, show f.optional k = _ from hd], hread⟩

namespace Document

theorem namedFields?_eq_some {names : List String} {members : List (String × Json)}
    (hnames : ∀ k ∈ Keyed.keys members, k ∈ names) (hnodup : (Keyed.keys members).Nodup) :
    namedFields? names (ofMembers members) = some (members.map fun m ↦ (m.1, ofJson m.2)) := by
  induction members with
  | nil => rfl
  | cons m members ih =>
    rw [Keyed.keys, List.map_cons] at hnames hnodup
    rw [List.forall_mem_cons] at hnames
    rw [List.nodup_cons] at hnodup
    have hnew : Keyed.has m.1 (members.map fun m ↦ (m.1, ofJson m.2)) = false := by
      rw [Bool.eq_false_iff, ne_eq, Keyed.has_iff_mem_keys, Keyed.keys_map]
      exact hnodup.1
    rw [ofMembers, namedFields?, ih hnames.2 hnodup.2]
    simp [hnames.1, hnew]

/-- **A record gives its fields back**, its members in any order. -/
theorem exists_fields_of_same {names : List String} {members : List (String × Json)} {j : Json}
    (hnames : (Keyed.keys members).Sublist names) (hnodup : names.Nodup)
    (hsame : (Json.object members).Same j) :
    ∃ f, (ofJson j).fields? names = some f ∧ f.Give members := by
  cases hsame with
  | @object _ members' hkeys hmembers =>
    have hfields : namedFields? names (ofMembers members') =
        some (members'.map fun m ↦ (m.1, ofJson m.2)) :=
      namedFields?_eq_some (fun k hk ↦ hnames.subset (hkeys.symm.subset hk))
        (hkeys.nodup_iff.mp (hnodup.sublist hnames))
    refine ⟨⟨_, true⟩, by rw [ofJson, fields?, hfields]; rfl, ?_, ?_⟩
    · intro k j hj
      obtain ⟨j', hj'⟩ : ∃ j', Keyed.find? k members' = some j' :=
        Option.isSome_iff_exists.mp (Keyed.mem_keys_iff.mp (hkeys.subset
          (Keyed.mem_keys_iff.mpr (by rw [hj]; rfl))))
      exact ⟨j', hmembers hj hj', by rw [Fields.optional, Keyed.find?_map, hj']; rfl⟩
    · intro k hk
      have hk' : Keyed.find? k members' = none := by
        rw [Keyed.find?_eq_none_iff] at hk ⊢
        exact fun h ↦ hk (hkeys.symm.subset h)
      rw [Fields.optional, Keyed.find?_map, hk']
      rfl

/-- A field that is given is a member of the object. -/
theorem mem_of_namedFields? {names : List String} {members : List (Option String × Document)}
    {given : List (String × Document)} (h : namedFields? names members = some given)
    {m : String × Document} (hm : m ∈ given) : (some m.1, m.2) ∈ members := by
  induction members generalizing given with
  | nil =>
    rw [namedFields?, Option.some.injEq] at h
    rw [← h] at hm
    cases hm
  | cons e members ih =>
    obtain ⟨k, d⟩ := e
    cases k with
    | none => cases h
    | some k =>
      rw [namedFields?] at h
      obtain ⟨rest, hrest, h⟩ := Option.bind_eq_some_iff.mp h
      split at h
      · rw [← Option.some.inj h] at hm
        exact List.mem_cons_of_mem _ (ih hrest hm)
      · split at h
        · cases h
        · rw [← Option.some.inj h] at hm
          rcases List.mem_cons.mp hm with rfl | hm
          · exact List.mem_cons_self
          · exact List.mem_cons_of_mem _ (ih hrest hm)

end Document

end WebTestRun
