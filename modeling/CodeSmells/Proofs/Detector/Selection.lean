import CodeSmells.Smell.Detector
import Mathlib.Data.List.Perm.Basic

/-!
# Selecting from lists whose order is open

Detectors select members of a list by tests against thresholds. A test may break off, and then the
whole selection does, with the fault of the first member at which that happens. `SameEnding` relates
two computations that end alike: with related answers, or with the same fault.

`filterM_sameEnding` says that a selection does not depend on the order of the list: two lists that
are permutations of each other, under whatever part of their members the test looks at, lead to
selections that are permutations in the same sense, or to the same fault. For this all members at
which the test breaks off have to give one fault (`OneFault`), which is so for comparisons with
thresholds, since a threshold that cannot be compared cannot be compared with any count.
-/

set_option autoImplicit false
set_option relaxedAutoImplicit false

namespace CodeSmells

variable {α β : Type}

/-! ### Computations that end alike -/

/-- Two computations give related answers, or break off with the same fault. -/
inductive SameEnding {α β : Type} (R : α → β → Prop) : Except Fault α → Except Fault β → Prop
  | answer {a : α} {b : β} (h : R a b) : SameEnding R (.ok a) (.ok b)
  | fault (e : Fault) : SameEnding R (.error e) (.error e)

namespace SameEnding

theorem refl {R : α → α → Prop} (hR : ∀ a, R a a) (x : Except Fault α) : SameEnding R x x := by
  cases x with
  | error e => exact fault e
  | ok a => exact answer (hR a)

theorem mono {R S : α → β → Prop} {x : Except Fault α} {y : Except Fault β}
    (h : SameEnding R x y) (hRS : ∀ a b, R a b → S a b) : SameEnding S x y := by
  cases h with
  | answer hab => exact answer (hRS _ _ hab)
  | fault e => exact fault e

theorem bind {γ δ : Type} {R : α → β → Prop} {S : γ → δ → Prop} {x : Except Fault α}
    {y : Except Fault β} {f : α → Except Fault γ} {g : β → Except Fault δ}
    (h : SameEnding R x y) (hstep : ∀ a b, R a b → SameEnding S (f a) (g b)) :
    SameEnding S (x >>= f) (y >>= g) := by
  cases h with
  | answer hab => exact hstep _ _ hab
  | fault e => exact fault e

/-- What starts with the same computation ends alike when the rest does. -/
theorem bind_left {γ δ : Type} {S : γ → δ → Prop} (x : Except Fault α) {f : α → Except Fault γ}
    {g : α → Except Fault δ} (hstep : ∀ a, SameEnding S (f a) (g a)) :
    SameEnding S (x >>= f) (x >>= g) :=
  bind (refl (R := Eq) (fun _ ↦ rfl) x) fun a _ h ↦ h ▸ hstep a

end SameEnding

/-! ### Tests that break off in one way -/

/-- A test that breaks off with one fault only. -/
def OneFault (test : α → Except Fault Bool) : Prop :=
  ∃ e, ∀ a, (∃ b, test a = .ok b) ∨ test a = .error e

/-- A test that breaks off everywhere with the same fault, or nowhere. -/
def AllOrNone (test : α → Except Fault Bool) : Prop :=
  (∃ e, ∀ a, test a = .error e) ∨ ∀ a, ∃ b, test a = .ok b

theorem AllOrNone.oneFault {test : α → Except Fault Bool} (h : AllOrNone test) :
    OneFault test := by
  rcases h with ⟨e, he⟩ | hok
  · exact ⟨e, fun a ↦ Or.inr (he a)⟩
  · exact ⟨default, fun a ↦ Or.inl (hok a)⟩

/-- Numbers of one kind can be compared with a limit, or none of them can. -/
theorem allOrNone_compareWith (relation : String) (test : Quantity → Quantity → Bool)
    (number : α → Quantity) (kind : String) (limit : Value) :
    AllOrNone fun a ↦ compareWith relation test ⟨number a, kind⟩ limit := by
  unfold compareWith
  cases limit.quantity? with
  | none => exact Or.inl ⟨.incomparable relation kind limit.kindName, fun _ ↦ rfl⟩
  | some q => exact Or.inr fun a ↦ ⟨_, rfl⟩

theorem allOrNone_above (count : α → Nat) (limit : Value) :
    AllOrNone fun a ↦ Measured.above (count a) limit :=
  allOrNone_compareWith _ _ (fun a ↦ .ofNat (count a)) "int" limit

theorem allOrNone_atLeast (count : α → Nat) (limit : Value) :
    AllOrNone fun a ↦ Measured.atLeast (count a) limit :=
  allOrNone_compareWith _ _ (fun a ↦ .ofNat (count a)) "int" limit

/-- A test that first asks for something that does not depend on the member. -/
theorem OneFault.bind_left {x : Except Fault β} {test : β → α → Except Fault Bool}
    (h : ∀ b, OneFault (test b)) : OneFault fun a ↦ x >>= fun b ↦ test b a := by
  cases x with
  | error e => exact ⟨e, fun _ ↦ Or.inr rfl⟩
  | ok b => exact h b

/-- A test that is made only where another one holds. -/
theorem OneFault.guarded {first second : α → Except Fault Bool} (hfirst : AllOrNone first)
    (hsecond : OneFault second) :
    OneFault fun a ↦ first a >>= fun b ↦ if b then second a else pure false := by
  rcases hfirst with ⟨e, he⟩ | hok
  · refine ⟨e, fun a ↦ Or.inr ?_⟩
    simp only [he a]
    rfl
  · obtain ⟨e, he⟩ := hsecond
    refine ⟨e, fun a ↦ ?_⟩
    obtain ⟨b, hb⟩ := hok a
    simp only [hb]
    cases b with
    | false => exact Or.inl ⟨false, rfl⟩
    | true => exact he a

/-- A test that is made only under a condition. -/
theorem OneFault.ite {condition : α → Bool} {test : α → Except Fault Bool} (h : OneFault test) :
    OneFault fun a ↦ if condition a then test a else .ok false := by
  obtain ⟨e, he⟩ := h
  refine ⟨e, fun a ↦ ?_⟩
  by_cases hcondition : condition a = true
  · simp only [hcondition, ↓reduceIte]
    exact he a
  · exact Or.inl ⟨false, if_neg hcondition⟩

/-! ### Selections -/

/-- The members found so far are passed along reversed. -/
theorem filterAuxM_eq (test : α → Except Fault Bool) (xs : List α) : ∀ found : List α,
    xs.filterAuxM test found = (xs.filterAuxM test []).map (· ++ found) := by
  induction xs with
  | nil =>
    intro found
    rfl
  | cons x xs ih =>
    intro found
    rw [List.filterAuxM, List.filterAuxM]
    cases test x with
    | error e => rfl
    | ok b =>
      cases b with
      | false => exact ih found
      | true =>
        show xs.filterAuxM test (x :: found) = (xs.filterAuxM test [x]).map _
        rw [ih (x :: found), ih [x]]
        cases xs.filterAuxM test [] with
        | error e => rfl
        | ok rest => simp [Except.map]

theorem filterM_cons (test : α → Except Fault Bool) (x : α) (xs : List α) :
    (x :: xs).filterM test = test x >>= fun b ↦
      (xs.filterM test).map fun rest ↦ if b then x :: rest else rest := by
  simp only [List.filterM, List.filterAuxM]
  cases test x with
  | error e => rfl
  | ok b =>
    cases b with
    | false =>
      cases hrest : xs.filterAuxM test [] with
      | error e => simp [hrest, bind, Except.bind, Except.map, cond]
      | ok rest => simp [hrest, bind, Except.bind, Except.map, cond, pure, Except.pure]
    | true =>
      have haux := filterAuxM_eq test xs [x]
      cases hrest : xs.filterAuxM test [] with
      | error e => simp [haux, hrest, bind, Except.bind, Except.map, cond]
      | ok rest => simp [haux, hrest, bind, Except.bind, Except.map, cond, pure, Except.pure]

/-- Where no test breaks off, a selection is a filter. -/
theorem filterM_eq_ok {test : α → Except Fault Bool} {keep : α → Bool} {xs : List α}
    (h : ∀ x ∈ xs, test x = .ok (keep x)) : xs.filterM test = .ok (xs.filter keep) := by
  induction xs with
  | nil => rfl
  | cons x xs ih =>
    rw [List.forall_mem_cons] at h
    rw [filterM_cons, h.1, ih h.2, List.filter_cons]
    rfl

/-- Where a test breaks off, so does the selection, with the one fault there is. -/
theorem filterM_eq_error {test : α → Except Fault Bool} {e : Fault} {xs : List α}
    (hone : ∀ x ∈ xs, (∃ b, test x = .ok b) ∨ test x = .error e)
    (h : ∃ x ∈ xs, test x = .error e) : xs.filterM test = .error e := by
  induction xs with
  | nil => simp at h
  | cons x xs ih =>
    rw [List.forall_mem_cons] at hone
    rw [filterM_cons]
    rcases hone.1 with ⟨b, hb⟩ | he
    · have hrest : ∃ y ∈ xs, test y = .error e := by
        obtain ⟨y, hy, hey⟩ := h
        rcases List.mem_cons.mp hy with rfl | hy
        · rw [hb] at hey
          cases hey
        · exact ⟨y, hy, hey⟩
      rw [hb, ih hone.2 hrest]
      rfl
    · rw [he]
      rfl

/-- Selections from lists that are permutations of each other, as far as the test looks at their
members, are permutations in the same sense; or both break off, with the same fault. -/
theorem filterM_sameEnding {view : α → β} {test : β → Except Fault Bool} (hone : OneFault test)
    {f : α → Except Fault Bool} {xs ys : List α} (hxs : ∀ x ∈ xs, f x = test (view x))
    (hys : ∀ y ∈ ys, f y = test (view y)) (hperm : (xs.map view).Perm (ys.map view)) :
    SameEnding (fun as bs ↦ (as.map view).Perm (bs.map view)) (xs.filterM f) (ys.filterM f) := by
  obtain ⟨e, he⟩ := hone
  let keep : β → Bool := fun b ↦ ((test b).toOption).getD false
  have hend : ∀ b, test b = .ok (keep b) ∨ test b = .error e := by
    intro b
    rcases he b with ⟨c, hc⟩ | hb
    · exact Or.inl (by simp only [keep, hc]; rfl)
    · exact Or.inr hb
  have hdone : ∀ zs : List α, (∀ z ∈ zs, f z = test (view z)) →
      (∀ b ∈ zs.map view, test b = .ok (keep b)) →
        zs.filterM f = .ok (zs.filter fun z ↦ keep (view z)) := fun zs hzs hall ↦
    filterM_eq_ok fun z hz ↦ (hzs z hz).trans (hall _ (List.mem_map_of_mem hz))
  have hbroken : ∀ zs : List α, (∀ z ∈ zs, f z = test (view z)) →
      (∃ b ∈ zs.map view, test b = .error e) → zs.filterM f = .error e := by
    rintro zs hzs ⟨b, hb, hbe⟩
    obtain ⟨z, hz, rfl⟩ := List.mem_map.mp hb
    exact filterM_eq_error (fun x hx ↦ hzs x hx ▸ he (view x)) ⟨z, hz, (hzs z hz).trans hbe⟩
  by_cases hall : ∀ b ∈ xs.map view, test b = .ok (keep b)
  · have hall' : ∀ b ∈ ys.map view, test b = .ok (keep b) := fun b hb ↦
      hall b (hperm.mem_iff.mpr hb)
    rw [hdone xs hxs hall, hdone ys hys hall']
    have hfiltered := hperm.filter keep
    rw [List.filter_map, List.filter_map] at hfiltered
    exact .answer hfiltered
  · push Not at hall
    obtain ⟨b, hb, hne⟩ := hall
    have hbe : test b = .error e := (hend b).resolve_left hne
    rw [hbroken xs hxs ⟨b, hb, hbe⟩, hbroken ys hys ⟨b, hperm.mem_iff.mp hb, hbe⟩]
    exact .fault e

/-- Selections from permutations of a list are permutations of each other, or break off with the
same fault. -/
theorem filterM_perm {test : α → Except Fault Bool} (hone : OneFault test) {xs ys : List α}
    (hperm : xs.Perm ys) : SameEnding List.Perm (xs.filterM test) (ys.filterM test) := by
  have h : SameEnding (fun as bs ↦ (as.map id).Perm (bs.map id)) (xs.filterM test)
      (ys.filterM test) :=
    filterM_sameEnding hone (fun _ _ ↦ rfl) (fun _ _ ↦ rfl) (hperm.map id)
  simpa only [List.map_id] using h

end CodeSmells
