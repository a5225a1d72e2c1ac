import CodeSmells.Metric.Coupling
import CodeSmells.Metric.Lines
import CodeSmells.Proofs.Grouping
import CodeSmells.Proofs.Model.Arrangement
import Mathlib.Data.List.Flatten
import Mathlib.Data.List.Forall2

/-!
# Models that grow

Code grows by lines in methods, by methods and fields in classes, by classes in projects, and by the
calls and field accesses that are found in methods. A list that grows keeps its members in order,
each of them grown in turn: `List.SublistForall₂ R xs ys` says that some members of `ys` are related
to the members of `xs` one after another. A set that grows keeps its members in whatever order,
which is `List.Subperm`. Lines that are inserted move the lines after them, so that lines are
compared by their texts and not by their numbers (`SourceLine.SameText`). Where only entries of one
kind are added, `GainsOnly` says so.

What is counted in a list does not fall when the list grows: its length, the total and the greatest
of its counts, and its pairs. So the measures of methods and classes do not fall either
(`cyclomaticComplexity_le`, `Class.totalLoc_le`, `Class.length_dependencies_le`), and what a call
refers to does not change when calls and accesses are added (`Project.GainsEdges.resolveCallee_eq`).
-/

set_option autoImplicit false
set_option relaxedAutoImplicit false

namespace CodeSmells

open List (SublistForall₂ Forall₂)

/-! ### Lists -/

section Lists

variable {α β γ δ : Type} {R : α → β → Prop} {xs : List α} {ys : List β}

theorem sublistForall₂_imp {S : α → β → Prop} (hRS : ∀ a b, R a b → S a b)
    (h : SublistForall₂ R xs ys) : SublistForall₂ S xs ys := by
  induction h with
  | nil => exact .nil
  | cons hab _ ih => exact .cons (hRS _ _ hab) ih
  | cons_right _ ih => exact .cons_right ih

theorem sublistForall₂_of_forall₂ (h : Forall₂ R xs ys) : SublistForall₂ R xs ys :=
  List.sublistForall₂_iff.mpr ⟨ys, h, List.Sublist.refl ys⟩

theorem sublist_of_sublistForall₂_eq {ys : List α} (h : SublistForall₂ Eq xs ys) :
    xs.Sublist ys := by
  obtain ⟨zs, hzs, hsub⟩ := List.sublistForall₂_iff.mp h
  rw [List.forall₂_eq_eq_eq] at hzs
  exact hzs ▸ hsub

theorem length_le_of_sublistForall₂ (h : SublistForall₂ R xs ys) : xs.length ≤ ys.length := by
  obtain ⟨zs, hzs, hsub⟩ := List.sublistForall₂_iff.mp h
  rw [hzs.length_eq]
  exact hsub.length_le

theorem exists_mem_of_sublistForall₂ (h : SublistForall₂ R xs ys) {a : α} (ha : a ∈ xs) :
    ∃ b ∈ ys, R a b := by
  induction h with
  | nil => cases ha
  | @cons a' b' _ _ hab _ ih =>
    rcases List.mem_cons.mp ha with rfl | ha
    · exact ⟨b', List.mem_cons_self, hab⟩
    · obtain ⟨b, hb, hr⟩ := ih ha
      exact ⟨b, List.mem_cons_of_mem _ hb, hr⟩
  | cons_right _ ih =>
    obtain ⟨b, hb, hr⟩ := ih ha
    exact ⟨b, List.mem_cons_of_mem _ hb, hr⟩

theorem sublistForall₂_append {xs' : List α} {ys' : List β} (h : SublistForall₂ R xs ys)
    (h' : SublistForall₂ R xs' ys') : SublistForall₂ R (xs ++ xs') (ys ++ ys') := by
  induction h with
  | @nil l =>
    induction l with
    | nil => exact h'
    | cons _ _ ih => exact .cons_right ih
  | cons hab _ ih => exact .cons hab ih
  | cons_right _ ih => exact .cons_right ih

theorem sublistForall₂_flatMap {S : γ → δ → Prop} {f : α → List γ} {g : β → List δ}
    (hfg : ∀ a b, R a b → SublistForall₂ S (f a) (g b)) (h : SublistForall₂ R xs ys) :
    SublistForall₂ S (xs.flatMap f) (ys.flatMap g) := by
  induction h with
  | nil => exact .nil
  | cons hab _ ih =>
    rw [List.flatMap_cons, List.flatMap_cons]
    exact sublistForall₂_append (hfg _ _ hab) ih
  | cons_right _ ih =>
    rw [List.flatMap_cons]
    exact sublistForall₂_append .nil ih

theorem flatMap_sublist {f : α → List γ} {g : β → List γ} (hfg : ∀ a b, R a b → (f a).Sublist (g b))
    (h : SublistForall₂ R xs ys) : (xs.flatMap f).Sublist (ys.flatMap g) := by
  induction h with
  | nil => exact List.nil_sublist _
  | cons hab _ ih =>
    rw [List.flatMap_cons, List.flatMap_cons]
    exact (hfg _ _ hab).append ih
  | cons_right _ ih =>
    rw [List.flatMap_cons]
    exact ih.trans (List.sublist_append_right _ _)

theorem length_flatMap_le {f : α → List γ} {g : β → List δ}
    (hfg : ∀ a b, R a b → (f a).length ≤ (g b).length) (h : Forall₂ R xs ys) :
    (xs.flatMap f).length ≤ (ys.flatMap g).length := by
  induction h with
  | nil => exact le_rfl
  | cons hab _ ih =>
    rw [List.flatMap_cons, List.flatMap_cons, List.length_append, List.length_append]
    exact Nat.add_le_add (hfg _ _ hab) ih

theorem sublistForall₂_pairs (h : SublistForall₂ R xs ys) :
    SublistForall₂ (fun p q ↦ R p.1 q.1 ∧ R p.2 q.2) (pairs xs) (pairs ys) := by
  induction h with
  | nil => exact .nil
  | cons hab h ih =>
    refine sublistForall₂_append ?_ ih
    rw [List.sublistForall₂_map_left_iff, List.sublistForall₂_map_right_iff]
    exact sublistForall₂_imp (fun _ _ hr ↦ ⟨hab, hr⟩) h
  | cons_right _ ih => exact sublistForall₂_append .nil ih

theorem sublistForall₂_filter {p : α → Bool} {q : β → Bool}
    (hpq : ∀ a, ∀ b ∈ ys, R a b → p a = true → q b = true) (h : SublistForall₂ R xs ys) :
    SublistForall₂ R (xs.filter p) (ys.filter q) := by
  induction h with
  | nil => exact .nil
  | @cons a b _ _ hab _ ih =>
    have hrest := ih fun a' b' hb' ↦ hpq a' b' (List.mem_cons_of_mem b hb')
    by_cases hp : p a = true
    · have hq : q b = true := hpq a b List.mem_cons_self hab hp
      rw [List.filter_cons_of_pos hp, List.filter_cons_of_pos hq]
      exact .cons hab hrest
    · rw [List.filter_cons_of_neg hp, List.filter_cons]
      split
      · exact .cons_right hrest
      · exact hrest
  | @cons_right b _ _ _ ih =>
    have hrest := ih fun a' b' hb' ↦ hpq a' b' (List.mem_cons_of_mem b hb')
    rw [List.filter_cons]
    split
    · exact .cons_right hrest
    · exact hrest

theorem total_le {ns ms : List ℕ} (h : SublistForall₂ (· ≤ ·) ns ms) : total ns ≤ total ms := by
  induction h with
  | nil => exact Nat.zero_le _
  | cons hle _ ih =>
    rw [total_cons, total_cons]
    omega
  | cons_right _ ih =>
    rw [total_cons]
    omega

/-- The greatest count does not fall when every member finds one with at least its count. -/
theorem greatest_map_le {f : α → ℕ} {g : β → ℕ} (h : ∀ a ∈ xs, ∃ b ∈ ys, f a ≤ g b) :
    greatest (xs.map f) ≤ greatest (ys.map g) := by
  refine greatest_le_iff.mpr fun n hn ↦ ?_
  obtain ⟨a, ha, rfl⟩ := List.mem_map.mp hn
  obtain ⟨b, hb, hle⟩ := h a ha
  exact hle.trans (le_greatest (List.mem_map_of_mem hb))

end Lists

/-- The second list is the first with further entries, wherever they stand, all of one kind. Read
backwards, entries of that kind are deleted. -/
inductive GainsOnly {α : Type} (kind : α → Prop) : List α → List α → Prop
  | nil : GainsOnly kind [] []
  | keep {xs ys : List α} (x : α) (h : GainsOnly kind xs ys) : GainsOnly kind (x :: xs) (x :: ys)
  | gain {xs ys : List α} {y : α} (hy : kind y) (h : GainsOnly kind xs ys) :
    GainsOnly kind xs (y :: ys)

/-- What is read of the list entry by entry stays if nothing is read of entries of that kind. -/
theorem GainsOnly.flatMap_eq {α β : Type} {kind : α → Prop} {xs ys : List α}
    (h : GainsOnly kind xs ys) {f : α → List β} (hf : ∀ y, kind y → f y = []) :
    ys.flatMap f = xs.flatMap f := by
  induction h with
  | nil => rfl
  | keep x _ ih => rw [List.flatMap_cons, List.flatMap_cons, ih]
  | gain hy _ ih => rw [List.flatMap_cons, hf _ hy, List.nil_append, ih]

theorem length_sortedSet_le {α : Type} [LT α] [DecidableLT α] [DecidableEq α]
    [IsStrictTotalOrder α (· < ·)] {xs ys : List α} (h : xs ⊆ ys) :
    (sortedSet xs).length ≤ (sortedSet ys).length := by
  have hsubset : sortedSet xs ⊆ sortedSet ys := fun x hx ↦
    mem_sortedSet.mpr (h (mem_sortedSet.mp hx))
  exact (List.subperm_of_subset (sortedSet_nodup xs) hsubset).length_le

/-! ### Lines -/

/-- Two lines with the same text, whatever their numbers. -/
def SourceLine.SameText (l l' : SourceLine) : Prop :=
  l.text = l'.text

theorem SourceLine.SameText.apply_eq {α : Type} {l l' : SourceLine} (h : l.SameText l')
    {f : SourceLine → α} (hf : ∀ text n n', f ⟨text, n⟩ = f ⟨text, n'⟩) : f l = f l' := by
  obtain ⟨text, n⟩ := l
  obtain ⟨text', n'⟩ := l'
  obtain rfl : text = text' := h
  exact hf text n n'

/-- A method with further lines, wherever they were inserted; the lines after them may be numbered
anew. -/
structure Method.GainsLines (m m' : Method) : Prop where
  name : m'.name = m.name
  lines : SublistForall₂ SourceLine.SameText m.lines m'.lines

instance : Std.Refl Method.GainsLines :=
  ⟨fun _ ↦ ⟨rfl, sublistForall₂_of_forall₂ (List.forall₂_same.mpr fun _ _ ↦ rfl)⟩⟩

/-- The same method, possibly at another place of its file, so that its lines are numbered anew. -/
structure Method.Moves (m m' : Method) : Prop where
  name : m'.name = m.name
  lines : Forall₂ SourceLine.SameText m.lines m'.lines

instance : Std.Refl Method.Moves :=
  ⟨fun _ ↦ ⟨rfl, List.forall₂_same.mpr fun _ _ ↦ rfl⟩⟩

section Lines

variable {xs ys : List SourceLine} (h : SublistForall₂ SourceLine.SameText xs ys)

include h

theorem countP_lines_le {p : SourceLine → Bool} (hp : ∀ text n n', p ⟨text, n⟩ = p ⟨text, n'⟩) :
    xs.countP p ≤ ys.countP p := by
  rw [List.countP_eq_length_filter, List.countP_eq_length_filter]
  refine length_le_of_sublistForall₂ (sublistForall₂_filter (fun l l' _ hl hkept ↦ ?_) h)
  rwa [← hl.apply_eq hp]

theorem cyclomaticComplexity_le : cyclomaticComplexity xs ≤ cyclomaticComplexity ys :=
  Nat.add_le_add_left (countP_lines_le h fun _ _ _ ↦ rfl) 1

theorem suspensionCount_le : suspensionCount xs ≤ suspensionCount ys :=
  countP_lines_le h fun _ _ _ ↦ rfl

end Lines

theorem Method.GainsLines.codeLines {m m' : Method} (h : m.GainsLines m') :
    SublistForall₂ SourceLine.SameText m.codeLines m'.codeLines := by
  refine sublistForall₂_filter (fun l l' _ hl hcode ↦ ?_) h.lines
  rwa [← hl.apply_eq (f := SourceLine.isCode) fun _ _ _ ↦ rfl]

theorem Class.totalLoc_le {k k' : Class}
    (h : SublistForall₂ Method.GainsLines k.methods k'.methods) : k.totalLoc ≤ k'.totalLoc := by
  refine total_le ?_
  rw [List.sublistForall₂_map_left_iff, List.sublistForall₂_map_right_iff]
  exact sublistForall₂_imp (fun _ _ hm ↦ length_le_of_sublistForall₂ hm.lines) h

/-! ### Calls and field accesses -/

/-- A method with further calls and field accesses. -/
structure Method.GainsEdges (m m' : Method) : Prop where
  name : m'.name = m.name
  calls : m.calls ⊆ m'.calls
  accesses : m.accesses.Subperm m'.accesses

/-- A class with further calls and field accesses in its methods. -/
structure Class.GainsEdges (k k' : Class) : Prop where
  name : k'.name = k.name
  parent : k'.parent = k.parent
  methods : Forall₂ Method.GainsEdges k.methods k'.methods

/-- A project with further calls and field accesses in the methods of its classes. -/
def Project.GainsEdges (p p' : Project) : Prop :=
  Forall₂ Class.GainsEdges p.classes p'.classes

theorem Method.GainsEdges.refl (m : Method) : m.GainsEdges m :=
  ⟨rfl, List.Subset.refl _, List.Subperm.refl _⟩

theorem Class.GainsEdges.refl (k : Class) : k.GainsEdges k :=
  ⟨rfl, rfl, List.forall₂_same.mpr fun m _ ↦ Method.GainsEdges.refl m⟩

theorem Project.GainsEdges.refl (p : Project) : p.GainsEdges p :=
  List.forall₂_same.mpr fun k _ ↦ Class.GainsEdges.refl k

theorem Class.hasMethod_iff {k : Class} {name : String} :
    k.hasMethod name = true ↔ name ∈ k.methodNames := by
  rw [hasMethod, method?, List.find?_isSome, methodNames, List.mem_map]
  simp only [beq_iff_eq]

namespace Class.GainsEdges

variable {k k' : Class}

theorem exists_method (h : k.GainsEdges k') {m : Method} (hm : m ∈ k.methods) :
    ∃ m' ∈ k'.methods, m.GainsEdges m' :=
  exists_mem_of_sublistForall₂ (sublistForall₂_of_forall₂ h.methods) hm

theorem methodNames_eq (h : k.GainsEdges k') : k'.methodNames = k.methodNames :=
  (map_eq_of_forall₂ h.methods fun _ _ hm ↦ hm.name.symm).symm

theorem hasMethod_eq (h : k.GainsEdges k') (name : String) :
    k'.hasMethod name = k.hasMethod name := by
  rw [Bool.eq_iff_iff, hasMethod_iff, hasMethod_iff, h.methodNames_eq]

theorem references_le (h : k.GainsEdges k') {target : String} (href : k.references target = true) :
    k'.references target = true := by
  simp only [references, List.any_eq_true, Bool.or_eq_true] at href ⊢
  obtain ⟨m, hm, hedge⟩ := href
  obtain ⟨m', hm', hgains⟩ := h.exists_method hm
  refine ⟨m', hm', hedge.imp ?_ ?_⟩
  · rintro ⟨e, he, howner⟩
    exact ⟨e, hgains.calls he, howner⟩
  · rintro ⟨a, ha, howner⟩
    exact ⟨a, hgains.accesses.subset ha, howner⟩

theorem referenceNames_subset (h : k.GainsEdges k') : k.referenceNames ⊆ k'.referenceNames := by
  intro name hname
  obtain ⟨m, hm, hedge⟩ := List.mem_flatMap.mp hname
  obtain ⟨m', hm', hgains⟩ := h.exists_method hm
  refine List.mem_flatMap.mpr ⟨m', hm', ?_⟩
  rw [List.mem_append] at hedge ⊢
  exact hedge.imp (List.map_subset _ hgains.calls ·) (List.map_subset _ hgains.accesses.subset ·)

end Class.GainsEdges

namespace Project.GainsEdges

variable {p p' : Project}

theorem exists_class (h : p.GainsEdges p') {k : Class} (hk : k ∈ p.classes) :
    ∃ k' ∈ p'.classes, k.GainsEdges k' :=
  exists_mem_of_sublistForall₂ (sublistForall₂_of_forall₂ h) hk

theorem classNames_eq (h : p.GainsEdges p') : p'.classNames = p.classNames :=
  (map_eq_of_forall₂ h fun _ _ hk ↦ hk.name.symm).symm

theorem findClass_rel (h : p.GainsEdges p') (name : String) :
    Option.Rel Class.GainsEdges (p.findClass name) (p'.findClass name) := by
  unfold findClass
  unfold GainsEdges at h
  generalize p.classes = ks at h
  generalize p'.classes = ks' at h
  induction h with
  | nil => exact .none
  | @cons k k' _ _ hk _ ih =>
    rw [List.find?_cons, List.find?_cons, hk.name]
    split
    · exact .some hk
    · exact ih

/-- A search up the parents asks for names and parents only. -/
theorem lookupFrom_eq (h : p.GainsEdges p') (method : String) (fuel : ℕ) (seen : List String)
    {k k' : Option Class} (hk : Option.Rel Class.GainsEdges k k') :
    p'.lookupFrom method fuel seen k' = p.lookupFrom method fuel seen k := by
  induction fuel generalizing seen k k' with
  | zero => rfl
  | succ fuel ih =>
    cases hk with
    | none => rfl
    | @some k k' hgains =>
      simp only [lookupFrom, hgains.name, hgains.parent, hgains.hasMethod_eq]
      cases k.parent with
      | none => rfl
      | some parent => simp only [ih _ (h.findClass_rel parent)]

theorem lookupInherited_eq (h : p.GainsEdges p') (className method : String) :
    p'.lookupInherited className method = p.lookupInherited className method := by
  unfold lookupInherited
  rw [← h.length_eq]
  exact h.lookupFrom_eq method _ [] (h.findClass_rel className)

theorem uniqueOwner_eq (h : p.GainsEdges p') (method : String) :
    p'.uniqueOwner method = p.uniqueOwner method := by
  have howners : Forall₂ Class.GainsEdges (p.classes.filter (·.hasMethod method))
      (p'.classes.filter (·.hasMethod method)) := by
    unfold GainsEdges at h
    generalize p.classes = ks at h
    generalize p'.classes = ks' at h
    induction h with
    | nil => exact .nil
    | @cons k k' _ _ hk _ ih =>
      rw [List.filter_cons, List.filter_cons, hk.hasMethod_eq]
      split
      · exact .cons hk ih
      · exact ih
  unfold uniqueOwner
  generalize p.classes.filter (·.hasMethod method) = ks at howners
  generalize p'.classes.filter (·.hasMethod method) = ks' at howners
  cases howners with
  | nil => rfl
  | cons hk hrest =>
    cases hrest with
    | nil => simp only [hk.name]
    | cons _ _ => rfl

theorem resolveCallee_eq (h : p.GainsEdges p') (e : CallEdge) :
    p'.resolveCallee e = p.resolveCallee e := by
  have hparent : (p'.findClass e.caller).bind (·.parent) =
      (p.findClass e.caller).bind (·.parent) := by
    have hcaller := h.findClass_rel e.caller
    generalize p.findClass e.caller = k at hcaller
    generalize p'.findClass e.caller = k' at hcaller
    cases hcaller with
    | none => rfl
    | some hk => exact hk.parent
  simp only [resolveCallee, h.lookupInherited_eq, h.uniqueOwner_eq, hparent]

end Project.GainsEdges

theorem Class.length_dependencies_le {k k' : Class} {p p' : Project} (hk : k.GainsEdges k')
    (hp : p.GainsEdges p') : (k.dependencies p).length ≤ (k'.dependencies p').length := by
  unfold dependencies
  rw [hk.name, hp.classNames_eq]
  exact length_sortedSet_le (List.filter_subset _ hk.referenceNames_subset)

end CodeSmells
