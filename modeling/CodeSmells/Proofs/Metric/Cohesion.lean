import CodeSmells.Metric.Cohesion
import CodeSmells.Proofs.Model.Growth
import Mathlib.Data.Nat.Choose.Basic

/-!
# Lack of cohesion in closed form

The lack of cohesion of a class is the number of pairs of its methods that access no common declared
field, less the number of those that do. Methods may agree in everything, so a pair is told by the
positions of its methods, and `sharingPairs` holds the pairs that access a common field. Every pair
is of one kind or the other (`countP_shareField_add`), and there are as many as ways to choose two
positions, so that one count gives the other (`lackOfCohesion_eq`).

`lackOfCohesion_counts_pairs` says which changes of a class move the measure. The order of the
methods does not (`lackOfCohesion_perm`). Further accesses never undo that two methods share a field
(`GainsAccesses.sharesField`), and make them share one only when they are to a declared field of the
class itself (`GainsAccesses.sharesField_of_foreign`).
-/

set_option autoImplicit false
set_option relaxedAutoImplicit false

namespace CodeSmells

open List (Forall₂)

/-! ### Pairs of related lists -/

section Pairs

variable {α β : Type} {R : α → β → Prop} {xs : List α} {ys : List β}

/-- Related lists have as many related pairs, or more where the relation carries over. -/
theorem countP_pairs_le {f : α → α → Bool} {g : β → β → Bool} (h : Forall₂ R xs ys)
    (hfg : ∀ a b a' b', R a a' → R b b' → f a b = true → g a' b' = true) :
    (pairs xs).countP (fun e ↦ f e.1 e.2) ≤ (pairs ys).countP fun e ↦ g e.1 e.2 := by
  rw [List.countP_eq_length_filter, List.countP_eq_length_filter]
  exact length_le_of_sublistForall₂ (sublistForall₂_filter (fun e e' _ he ↦ hfg _ _ _ _ he.1 he.2)
    (sublistForall₂_pairs (sublistForall₂_of_forall₂ h)))

end Pairs

/-! ### Methods that share a field -/

namespace Class

variable (k : Class)

/-- Two methods access a common declared field of the class. -/
def SharesField (m n : Method) : Prop :=
  ∃ f ∈ k.fields, ⟨k.name, f⟩ ∈ m.accesses ∧ ⟨k.name, f⟩ ∈ n.accesses

instance (m n : Method) : Decidable (k.SharesField m n) :=
  inferInstanceAs (Decidable (∃ f ∈ k.fields, _))

variable {k}

theorem shareField_iff {m n : Method} : k.shareField m n = true ↔ k.SharesField m n := by
  simp only [shareField, accessedFields, SharesField, Method.accessesField, List.any_eq_true,
    List.contains_iff_mem, List.mem_filter]
  exact exists_congr fun f ↦ by tauto

theorem shareField_comm (m n : Method) : k.shareField m n = k.shareField n m := by
  rw [Bool.eq_iff_iff, shareField_iff, shareField_iff]
  exact exists_congr fun f ↦ and_congr_right' and_comm

/-- The pairs of positions of methods that access a common declared field. -/
def sharingPairs (k : Class) : Finset (Fin k.methods.length × Fin k.methods.length) :=
  {e | e.1 < e.2 ∧ k.SharesField k.methods[e.1] k.methods[e.2]}

theorem card_sharingPairs (k : Class) :
    k.sharingPairs.card = (pairs k.methods).countP fun e ↦ k.shareField e.1 e.2 := by
  rw [countP_pairs_eq_card]
  simp only [sharingPairs, shareField_iff]

/-- Each pair of methods shares a field or does not. -/
theorem countP_shareField_add (k : Class) :
    (pairs k.methods).countP (fun e ↦ k.shareField e.1 e.2) +
      (pairs k.methods).countP (fun e ↦ !k.shareField e.1 e.2) =
        k.methods.length * (k.methods.length - 1) / 2 := by
  rw [← Nat.choose_two_right, ← length_pairs,
    List.length_eq_countP_add_countP fun e : Method × Method ↦ k.shareField e.1 e.2]
  simp only [Bool.not_eq_true, Bool.decide_eq_false]

/-- The pairs that share a field count against the others. -/
theorem lackOfCohesion_eq (k : Class) : k.lackOfCohesion =
    k.methods.length * (k.methods.length - 1) / 2 -
      2 * (pairs k.methods).countP fun e ↦ k.shareField e.1 e.2 := by
  have hall := k.countP_shareField_add
  change (pairs k.methods).countP (fun e ↦ !k.shareField e.1 e.2) -
    (pairs k.methods).countP (fun e ↦ k.shareField e.1 e.2) = _
  omega

/-- Of classes with as many methods, the one where more pairs share a field lacks no more. -/
theorem lackOfCohesion_anti {k' : Class} (hlength : k'.methods.length = k.methods.length)
    (hle : (pairs k.methods).countP (fun e ↦ k.shareField e.1 e.2) ≤
      (pairs k'.methods).countP fun e ↦ k'.shareField e.1 e.2) :
    k'.lackOfCohesion ≤ k.lackOfCohesion := by
  rw [lackOfCohesion_eq, lackOfCohesion_eq, hlength]
  omega

theorem lackOfCohesion_eq_max (k : Class) : (k.lackOfCohesion : ℤ) =
    max 0 ((k.methods.length * (k.methods.length - 1) / 2 : ℕ) - 2 * k.sharingPairs.card) := by
  rw [lackOfCohesion_eq, card_sharingPairs]
  omega

/-- The lack does not depend on the order of the methods. -/
theorem lackOfCohesion_perm {methods : List Method} (h : methods.Perm k.methods) :
    { k with methods := methods }.lackOfCohesion = k.lackOfCohesion := by
  have hcount := (pairs_perm (shareField_comm (k := k)) h).countP_eq id
  rw [List.countP_map, List.countP_map] at hcount
  rw [lackOfCohesion_eq, lackOfCohesion_eq, h.length_eq]
  exact congrArg (_ - 2 * ·) hcount

end Class

/-! ### Further accesses -/

/-- The second method is the first with further field accesses, all of one kind. -/
structure Method.GainsAccesses (kind : FieldAccess → Prop) (m m' : Method) : Prop where
  kept : m.accesses ⊆ m'.accesses
  gained : ∀ a ∈ m'.accesses, a ∈ m.accesses ∨ kind a
  rest : m' = { m with accesses := m'.accesses }

theorem Method.GainsAccesses.refl (kind : FieldAccess → Prop) (m : Method) :
    m.GainsAccesses kind m :=
  ⟨List.Subset.refl _, fun _ h ↦ Or.inl h, rfl⟩

/-- The second class is the first with further field accesses of one kind in its methods. -/
structure Class.GainsAccesses (kind : FieldAccess → Prop) (k k' : Class) : Prop where
  methods : Forall₂ (Method.GainsAccesses kind) k.methods k'.methods
  rest : k' = { k with methods := k'.methods }

namespace Class.GainsAccesses

variable {kind : FieldAccess → Prop} {k k' : Class} {m n m' n' : Method}

theorem sharesField_eq (h : k.GainsAccesses kind k') : k'.SharesField = k.SharesField := by
  rw [h.rest]
  rfl

/-- Methods go on sharing a field when they gain accesses. -/
theorem sharesField (h : k.GainsAccesses kind k') (hm : m.GainsAccesses kind m')
    (hn : n.GainsAccesses kind n') (hshares : k.SharesField m n) : k'.SharesField m' n' := by
  rw [h.sharesField_eq]
  obtain ⟨f, hf, hfirst, hsecond⟩ := hshares
  exact ⟨f, hf, hm.kept hfirst, hn.kept hsecond⟩

/-- Methods do not come to share a field by accesses to other fields or other owners. -/
theorem sharesField_of_foreign (h : k.GainsAccesses kind k')
    (hforeign : ∀ a, kind a → a.owner ≠ k.name ∨ a.field ∉ k.fields)
    (hm : m.GainsAccesses kind m') (hn : n.GainsAccesses kind n')
    (hshares : k'.SharesField m' n') : k.SharesField m n := by
  rw [h.sharesField_eq] at hshares
  obtain ⟨f, hf, hfirst, hsecond⟩ := hshares
  have hown : ¬kind ⟨k.name, f⟩ := fun hkind ↦ (hforeign _ hkind).elim (· rfl) (· hf)
  exact ⟨f, hf, (hm.gained _ hfirst).resolve_right hown, (hn.gained _ hsecond).resolve_right hown⟩

theorem lackOfCohesion_le (h : k.GainsAccesses kind k') : k'.lackOfCohesion ≤ k.lackOfCohesion :=
  lackOfCohesion_anti h.methods.length_eq.symm <|
    countP_pairs_le h.methods fun _ _ _ _ hm hn hshares ↦
      shareField_iff.mpr (h.sharesField hm hn (shareField_iff.mp hshares))

theorem lackOfCohesion_eq_of_foreign (h : k.GainsAccesses kind k')
    (hforeign : ∀ a, kind a → a.owner ≠ k.name ∨ a.field ∉ k.fields) :
    k'.lackOfCohesion = k.lackOfCohesion := by
  refine h.lackOfCohesion_le.antisymm (lackOfCohesion_anti h.methods.length_eq ?_)
  exact countP_pairs_le h.methods.flip fun _ _ _ _ hm hn hshares ↦
    shareField_iff.mpr (h.sharesField_of_foreign hforeign hm hn (shareField_iff.mp hshares))

end Class.GainsAccesses

/-- The lack of cohesion of a class with any number of methods, some of them equal perhaps. It is
the number of pairs of methods less twice the number of pairs, told by position, that access a
common declared field of the class, and nought where that would be negative. It stays when the
methods are put in another order, and when methods gain accesses to fields that the class does not
declare or to fields of other owners. It never rises when methods gain accesses, those to declared
fields of the class among them. -/
theorem Class.lackOfCohesion_counts_pairs (k : Class) :
    (k.lackOfCohesion : ℤ) =
      max 0 ((k.methods.length * (k.methods.length - 1) / 2 : ℕ) - 2 * k.sharingPairs.card) ∧
    (∀ methods : List Method, methods.Perm k.methods →
      { k with methods := methods }.lackOfCohesion = k.lackOfCohesion) ∧
    (∀ k' : Class, k.GainsAccesses (fun a ↦ a.owner ≠ k.name ∨ a.field ∉ k.fields) k' →
      k'.lackOfCohesion = k.lackOfCohesion) ∧
    ∀ (kind : FieldAccess → Prop) (k' : Class), k.GainsAccesses kind k' →
      k'.lackOfCohesion ≤ k.lackOfCohesion :=
  ⟨k.lackOfCohesion_eq_max, fun _ h ↦ lackOfCohesion_perm h,
    fun _ h ↦ h.lackOfCohesion_eq_of_foreign fun _ hkind ↦ hkind, fun _ _ h ↦ h.lackOfCohesion_le⟩

/-- A method with the given field accesses. -/
def accessing (accesses : List FieldAccess) : Method :=
  { (default : Method) with name := "step", accesses }

/-- A class with two fields and the given methods. -/
def twoFields (methods : List Method) : Class :=
  { (default : Class) with name := "Hero", fields := ["hp", "mana"], methods }

/-- Of four methods two are equal and share a field. The lack stays when the last one looks at
another class and at a field that is not declared, and does not rise when it uses a declared one. -/
theorem Class.lackOfCohesion_counts_pairs_hero :
    let hit := accessing [⟨"Hero", "hp"⟩]
    let cast := accessing [⟨"Hero", "mana"⟩]
    let wait := accessing []
    let look := accessing [⟨"Enemy", "hp"⟩, ⟨"Hero", "speed"⟩]
    let k := twoFields [hit, hit, cast, wait]
    k.sharingPairs.card = 1 ∧ k.lackOfCohesion = 4 ∧
      (twoFields [wait, hit, cast, hit]).lackOfCohesion = 4 ∧
      (twoFields [hit, hit, cast, look]).lackOfCohesion = 4 ∧
      (twoFields [hit, hit, cast, cast]).lackOfCohesion ≤ 4 := by
  intro hit cast wait look k
  obtain ⟨hclosed, hperm, hforeign, hmore⟩ := Class.lackOfCohesion_counts_pairs k
  have hpairs : k.sharingPairs.card = 1 := by decide +kernel
  have hlack : k.lackOfCohesion = 4 := by
    rw [hpairs, show k.methods.length = 4 from rfl] at hclosed
    omega
  have hlast : ∀ {kind : FieldAccess → Prop} {m : Method}, wait.GainsAccesses kind m →
      k.GainsAccesses kind (twoFields [hit, hit, cast, m]) := fun hm ↦
    ⟨.cons (.refl _ _) (.cons (.refl _ _) (.cons (.refl _ _) (.cons hm .nil))), rfl⟩
  have hlook : wait.GainsAccesses (fun a ↦ a.owner ≠ k.name ∨ a.field ∉ k.fields) look :=
    ⟨List.nil_subset _, fun a ha ↦ Or.inr (by revert a; decide), rfl⟩
  have hcast : wait.GainsAccesses (fun _ ↦ True) cast :=
    ⟨List.nil_subset _, fun _ _ ↦ Or.inr trivial, rfl⟩
  refine ⟨hpairs, hlack, ?_, (hforeign _ (hlast hlook)).trans hlack, ?_⟩
  · exact (hperm [wait, hit, cast, hit] (by decide)).trans hlack
  · exact hlack ▸ hmore _ _ (hlast hcast)

end CodeSmells
