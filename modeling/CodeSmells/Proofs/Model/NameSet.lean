import CodeSmells.Detector.ShotgunSurgery
import Mathlib.Data.List.Sort
import Mathlib.Data.Prod.Lex
import Mathlib.Data.String.Basic

/-!
# Increasing lists as sets

`sortedSet` puts the entries of a list into increasing order and drops repetitions. Where the order
is total this is a normal form: the result is increasing (`sortedSet_pairwise`), so two lists with
the same members have the same set (`sortedSet_eq_of_mem_iff`), a set is its own normal form
(`sortedSet_sortedSet`), and without repetitions it is the list in another order
(`sortedSet_perm`).

Names, calls, field accesses and references to methods are ordered totally, the latter three by
their two names one after the other (`isStrictTotalOrder_of_names`).
-/

set_option autoImplicit false
set_option relaxedAutoImplicit false

namespace CodeSmells

/-! ### The normal form -/

section

variable {α : Type} [LT α] [DecidableLT α] [DecidableEq α]

@[simp]
theorem any_sortedSet (p : α → Bool) (xs : List α) : (sortedSet xs).any p = xs.any p := by
  rw [Bool.eq_iff_iff, List.any_eq_true, List.any_eq_true]
  simp only [mem_sortedSet]

@[simp]
theorem contains_sortedSet (x : α) (xs : List α) : (sortedSet xs).contains x = xs.contains x := by
  rw [Bool.eq_iff_iff, List.contains_iff_mem, List.contains_iff_mem, mem_sortedSet]

@[simp]
theorem isEmpty_sortedSet (xs : List α) : (sortedSet xs).isEmpty = xs.isEmpty := by
  rw [Bool.eq_iff_iff, List.isEmpty_iff, List.isEmpty_iff, List.eq_nil_iff_forall_not_mem,
    List.eq_nil_iff_forall_not_mem]
  simp only [mem_sortedSet]

variable [IsStrictTotalOrder α (· < ·)]

theorem insertSorted_pairwise (x : α) {xs : List α} (hxs : xs.Pairwise (· < ·)) :
    (insertSorted x xs).Pairwise (· < ·) := by
  induction xs with
  | nil => exact List.pairwise_singleton _ x
  | cons y ys ih =>
    rw [List.pairwise_cons] at hxs
    rw [insertSorted]
    split
    · exact List.pairwise_cons.mpr hxs
    · next hne =>
      split
      · next hlt =>
        refine List.pairwise_cons.mpr ⟨fun z hz ↦ ?_, List.pairwise_cons.mpr hxs⟩
        rcases List.mem_cons.mp hz with rfl | hz
        · exact hlt
        · exact trans_of (· < ·) hlt (hxs.1 z hz)
      · next hnot =>
        refine List.pairwise_cons.mpr ⟨fun z hz ↦ ?_, ih hxs.2⟩
        rcases mem_insertSorted.mp hz with rfl | hz
        · rcases trichotomous_of (· < ·) z y with hlt | heq | hgt
          · exact (hnot hlt).elim
          · exact (hne heq).elim
          · exact hgt
        · exact hxs.1 z hz

/-- A set is increasing. -/
theorem sortedSet_pairwise (xs : List α) : (sortedSet xs).Pairwise (· < ·) := by
  induction xs with
  | nil => exact List.Pairwise.nil
  | cons x xs ih => exact insertSorted_pairwise x ih

theorem sortedSet_nodup (xs : List α) : (sortedSet xs).Nodup := by
  refine (sortedSet_pairwise xs).imp ?_
  rintro x _ hlt rfl
  exact irrefl_of (· < ·) x hlt

/-- An increasing list is known by its members. -/
theorem sortedSet_eq_of_mem_iff {xs ys : List α} (h : ∀ x, x ∈ xs ↔ x ∈ ys) :
    sortedSet xs = sortedSet ys :=
  (sortedSet_pairwise xs).eq_of_mem_iff (sortedSet_pairwise ys) fun x ↦ by
    rw [mem_sortedSet, mem_sortedSet, h x]

theorem sortedSet_eq_of_perm {xs ys : List α} (h : xs.Perm ys) : sortedSet xs = sortedSet ys :=
  sortedSet_eq_of_mem_iff fun _ ↦ h.mem_iff

/-- What is in normal form stays as it is. -/
@[simp]
theorem sortedSet_sortedSet (xs : List α) : sortedSet (sortedSet xs) = sortedSet xs :=
  sortedSet_eq_of_mem_iff fun _ ↦ mem_sortedSet

/-- The set of a list without repetitions is the list in another order. -/
theorem sortedSet_perm {xs : List α} (hxs : xs.Nodup) : (sortedSet xs).Perm xs :=
  (List.perm_ext_iff_of_nodup (sortedSet_nodup xs) hxs).mpr fun _ ↦ mem_sortedSet

theorem length_sortedSet {xs : List α} (hxs : xs.Nodup) : (sortedSet xs).length = xs.length :=
  (sortedSet_perm hxs).length_eq

end

/-! ### Pairs of names are ordered totally -/

/-- What is told apart by two names, and ordered by the first and then by the second, is ordered
totally. -/
theorem isStrictTotalOrder_of_names {α : Type} [LT α] (names : α → String × String)
    (hinjective : Function.Injective names)
    (hlt : ∀ a b, a < b ↔ (names a).1 < (names b).1 ∨
      ((names a).1 = (names b).1 ∧ (names a).2 < (names b).2)) :
    IsStrictTotalOrder α (· < ·) := by
  let embedding : (fun a b : α ↦ a < b) ↪r (fun x y : String ×ₗ String ↦ x < y) :=
    ⟨⟨fun a ↦ toLex (names a), fun a b h ↦ hinjective (toLex.injective h)⟩, by
      intro a b
      exact Prod.Lex.toLex_lt_toLex.trans (hlt a b).symm⟩
  exact embedding.isStrictTotalOrder

instance : IsStrictTotalOrder CallEdge (· < ·) :=
  isStrictTotalOrder_of_names (fun e ↦ (e.caller, e.callee))
    (fun ⟨_, _⟩ ⟨_, _⟩ h ↦ by cases h; rfl) fun _ _ ↦ Iff.rfl

instance : IsStrictTotalOrder FieldAccess (· < ·) :=
  isStrictTotalOrder_of_names (fun a ↦ (a.owner, a.field))
    (fun ⟨_, _⟩ ⟨_, _⟩ h ↦ by cases h; rfl) fun _ _ ↦ Iff.rfl

instance : IsStrictTotalOrder ShotgunSurgery.MethodRef (· < ·) :=
  isStrictTotalOrder_of_names (fun r ↦ (r.owner, r.method))
    (fun ⟨_, _⟩ ⟨_, _⟩ h ↦ by cases h; rfl) fun _ _ ↦ Iff.rfl

end CodeSmells
