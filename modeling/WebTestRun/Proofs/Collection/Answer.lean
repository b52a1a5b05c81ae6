import Mathlib.Data.List.Forall2

/-!
# Answers that are a value, and answers that are an error

What follows from an answer that is a value and no error, for the ways in which answers are put
together, and what kind of error there may be.

* `Answer.map_eq_ok_iff`, `Answer.bind_eq_ok_iff` — the value of an answer that was changed, or
  that another one was made from.
* `Answer.mapM_eq_ok_iff`, `Answer.mapM_eq_some_iff`, `Answer.mapM_eq_some_iff_filterMap` — the
  values of a list of answers.
* `Answer.toOption_eq_some_iff` — the value of an answer whose error is forgotten;
  `Answer.error_or_ok_of_toOption_eq` — two answers that say the same then.
* `Answer.FailsWith`, `Answer.Gives` — every error, or every value, is as a condition says.
* `Answer.Both` — the values of two answers are related.
* `FirstOf` — the first value of a list that something comes of.
-/

set_option autoImplicit false

namespace WebTestRun.Answer

variable {ε α β : Type}

theorem map_eq_ok_iff {x : Except ε α} {f : α → β} {b : β} :
    x.map f = .ok b ↔ ∃ a, x = .ok a ∧ f a = b := by
  cases x with
  | error e => simp [Except.map]
  | ok a => simp [Except.map]

theorem bind_eq_ok_iff {x : Except ε α} {f : α → Except ε β} {b : β} :
    (x >>= f) = .ok b ↔ ∃ a, x = .ok a ∧ f a = .ok b := by
  cases x with
  | error e => simp [bind, Except.bind]
  | ok a => simp [bind, Except.bind]

/-- A list of answers is a list of values if each answer is its value. -/
theorem mapM_eq_ok_iff {f : α → Except ε β} {as : List α} {bs : List β} :
    as.mapM f = .ok bs ↔ List.Forall₂ (fun a b ↦ f a = .ok b) as bs := by
  induction as generalizing bs with
  | nil =>
    rw [List.forall₂_nil_left_iff, eq_comm (a := bs)]
    exact Iff.of_eq (Except.ok.injEq [] bs)
  | cons a as ih =>
    simp only [List.mapM_cons, bind_eq_ok_iff, List.forall₂_cons_left_iff, ih]
    constructor
    · rintro ⟨b, hb, bs', hbs, h⟩
      exact ⟨b, bs', hb, hbs, (Except.ok.inj h).symm⟩
    · rintro ⟨b, bs', hb, hbs, rfl⟩
      exact ⟨b, hb, bs', hbs, rfl⟩

/-- A list of values that may be missing is a list of values if none is. -/
theorem mapM_eq_some_iff {f : α → Option β} {as : List α} {bs : List β} :
    as.mapM f = some bs ↔ List.Forall₂ (fun a b ↦ f a = some b) as bs := by
  induction as generalizing bs with
  | nil =>
    rw [List.forall₂_nil_left_iff, eq_comm (a := bs)]
    exact Iff.of_eq (Option.some.injEq [] bs)
  | cons a as ih =>
    simp only [List.mapM_cons, Option.bind_eq_bind, Option.bind_eq_some_iff,
      List.forall₂_cons_left_iff, ih]
    constructor
    · rintro ⟨b, hb, bs', hbs, h⟩
      exact ⟨b, bs', hb, hbs, (Option.some.inj h).symm⟩
    · rintro ⟨b, bs', hb, hbs, rfl⟩
      exact ⟨b, hb, bs', hbs, rfl⟩

/-- A list of values that may be missing is there if none is missing, and holds all of them. -/
theorem mapM_eq_some_iff_filterMap {f : α → Option β} {as : List α} {bs : List β} :
    as.mapM f = some bs ↔ (∀ a ∈ as, (f a).isSome) ∧ as.filterMap f = bs := by
  induction as generalizing bs with
  | nil => simp [pure]
  | cons a as ih =>
    rw [List.mapM_cons, List.forall_mem_cons]
    cases ha : f a with
    | none => simp
    | some b =>
      simp only [Option.bind_eq_bind, Option.bind_some, Option.bind_eq_some_iff, ih,
        Option.pure_def, Option.some.injEq, Option.isSome_some, true_and,
        List.filterMap_cons_some ha]
      constructor
      · rintro ⟨rest, ⟨hall, rfl⟩, rfl⟩
        exact ⟨hall, rfl⟩
      · rintro ⟨hall, rfl⟩
        exact ⟨_, ⟨hall, rfl⟩, rfl⟩

/-- A value that may be missing, once it is known. -/
theorem bind_of_eq_some {x : Option α} {a : α} (h : x = some a) (f : α → Option β) :
    (x >>= f) = f a := by
  rw [h]
  rfl

theorem toOption_eq_some_iff {x : Except ε α} {a : α} : x.toOption = some a ↔ x = .ok a := by
  cases x with
  | error e => simp [Except.toOption]
  | ok b => simp [Except.toOption]

/-- Of two answers that say the same, both are errors or both are values. -/
theorem error_or_ok_of_toOption_eq {γ : Type} {x : Except ε α} {y : Except ε β} {f : α → γ}
    {g : β → γ} (h : (x.map f).toOption = (y.map g).toOption) :
    (∃ e e', x = .error e ∧ y = .error e') ∨ ∃ a b, x = .ok a ∧ y = .ok b ∧ f a = g b := by
  cases x with
  | error e =>
    cases y with
    | error e' => exact .inl ⟨e, e', rfl, rfl⟩
    | ok b => cases h
  | ok a =>
    cases y with
    | error e' => cases h
    | ok b => exact .inr ⟨a, b, rfl, rfl, Option.some.inj h⟩

/-! ## What may go wrong -/

/-- Whatever goes wrong is as a condition says. -/
def FailsWith (cond : ε → Prop) (x : Except ε α) : Prop := ∀ e, x = .error e → cond e

namespace FailsWith

variable {cond : ε → Prop}

theorem ok (a : α) : FailsWith cond (.ok a) := nofun

theorem map {x : Except ε α} (h : FailsWith cond x) (f : α → β) : FailsWith cond (x.map f) := by
  cases x with
  | ok a => exact ok (f a)
  | error e =>
    rintro _ ⟨⟩
    exact h e rfl

theorem bind {x : Except ε α} {f : α → Except ε β} (h : FailsWith cond x)
    (hf : ∀ a, FailsWith cond (f a)) : FailsWith cond (x >>= f) := by
  cases x with
  | ok a => exact hf a
  | error e =>
    rintro _ ⟨⟩
    exact h e rfl

theorem foldlM {f : β → α → Except ε β} (hf : ∀ b a, FailsWith cond (f b a)) (b : β)
    (as : List α) : FailsWith cond (as.foldlM f b) := by
  induction as generalizing b with
  | nil => exact ok b
  | cons a as ih => exact (hf b a).bind ih

end FailsWith

/-! ## What may come -/

/-- Whatever value comes is as a condition says. -/
def Gives (cond : α → Prop) (x : Except ε α) : Prop := ∀ a, x = .ok a → cond a

namespace Gives

variable {cond : α → Prop} {cond' : β → Prop}

theorem ok {a : α} (h : cond a) : Gives cond (.ok a : Except ε α) := by
  rintro _ ⟨⟩
  exact h

theorem map {x : Except ε α} {f : α → β} (h : Gives cond x) (hf : ∀ a, cond a → cond' (f a)) :
    Gives cond' (x.map f) := by
  intro b hb
  obtain ⟨a, ha, rfl⟩ := map_eq_ok_iff.mp hb
  exact hf a (h a ha)

theorem bind {x : Except ε α} {f : α → Except ε β} (h : Gives cond x)
    (hf : ∀ a, cond a → Gives cond' (f a)) : Gives cond' (x >>= f) := by
  intro b hb
  obtain ⟨a, ha, hb⟩ := bind_eq_ok_iff.mp hb
  exact hf a (h a ha) b hb

theorem self (x : Except ε α) : Gives (fun a ↦ x = .ok a) x := fun _ h ↦ h

theorem foldlM {f : β → α → Except ε β} (hf : ∀ b a, cond' b → Gives cond' (f b a)) {b : β}
    (hb : cond' b) (as : List α) : Gives cond' (as.foldlM f b) := by
  induction as generalizing b with
  | nil => exact ok hb
  | cons a as ih => exact (hf b a hb).bind fun _ hnext ↦ ih hnext

end Gives

/-! ## Two answers -/

/-- Whatever values come of two answers, they are related. -/
def Both (rel : α → β → Prop) (x : Except ε α) (y : Except ε β) : Prop :=
  ∀ a b, x = .ok a → y = .ok b → rel a b

namespace Both

variable {α' β' : Type} {rel : α → β → Prop} {rel' : α' → β' → Prop}

theorem ok {a : α} {b : β} (h : rel a b) : Both rel (.ok a : Except ε α) (.ok b) := by
  rintro _ _ ⟨⟩ ⟨⟩
  exact h

theorem any (x : Except ε α) (y : Except ε β) : Both (fun _ _ ↦ True) x y := fun _ _ _ _ ↦ trivial

theorem map {x : Except ε α} {y : Except ε β} {f : α → α'} {g : β → β'} (h : Both rel x y)
    (hfg : ∀ a b, rel a b → rel' (f a) (g b)) : Both rel' (x.map f) (y.map g) := by
  intro a' b' ha' hb'
  obtain ⟨a, ha, rfl⟩ := map_eq_ok_iff.mp ha'
  obtain ⟨b, hb, rfl⟩ := map_eq_ok_iff.mp hb'
  exact hfg a b (h a b ha hb)

theorem bind {x : Except ε α} {y : Except ε β} {f : α → Except ε α'} {g : β → Except ε β'}
    (h : Both rel x y) (hfg : ∀ a b, rel a b → Both rel' (f a) (g b)) :
    Both rel' (x >>= f) (y >>= g) := by
  intro a' b' ha' hb'
  obtain ⟨a, ha, ha'⟩ := bind_eq_ok_iff.mp ha'
  obtain ⟨b, hb, hb'⟩ := bind_eq_ok_iff.mp hb'
  exact hfg a b (h a b ha hb) a' b' ha' hb'

theorem foldlM {γ : Type} {f : α → γ → Except ε α} {g : β → γ → Except ε β}
    (hfg : ∀ a b c, rel a b → Both rel (f a c) (g b c)) {a : α} {b : β} (h : rel a b)
    (cs : List γ) : Both rel (cs.foldlM f a) (cs.foldlM g b) := by
  induction cs generalizing a b with
  | nil => exact ok h
  | cons c cs ih => exact (hfg a b c h).bind fun _ _ hnext ↦ ih hnext

end Both

end WebTestRun.Answer

namespace WebTestRun

/-! ## The first of several -/

/-- The first value of a list that something comes of, and what comes of it. -/
def FirstOf {α β : Type} (comes : α → β → Prop) (l : List α) (b : β) : Prop :=
  ∃ before a after, l = before ++ a :: after ∧ comes a b ∧ ∀ x ∈ before, ∀ c, ¬ comes x c

section

variable {α β : Type} {f : α → Option β} {comes : α → β → Prop}

theorem eq_none_iff_of_eq_some_iff (h : ∀ a b, f a = some b ↔ comes a b) (a : α) :
    f a = none ↔ ∀ b, ¬ comes a b := by
  rw [Option.eq_none_iff_forall_ne_some]
  exact forall_congr' fun b ↦ not_congr (h a b)

theorem findSome?_eq_some_iff_firstOf (h : ∀ a b, f a = some b ↔ comes a b) {l : List α} {b : β} :
    l.findSome? f = some b ↔ FirstOf comes l b := by
  simp only [List.findSome?_eq_some_iff, FirstOf, h, eq_none_iff_of_eq_some_iff h]

end

end WebTestRun
