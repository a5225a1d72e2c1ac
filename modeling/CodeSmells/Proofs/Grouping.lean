import CodeSmells.Grouping
import Mathlib.Data.Fintype.Prod
import Mathlib.Data.List.Induction
import Mathlib.Data.List.NodupEquivFin
import Mathlib.Data.List.Perm.Basic
import Mathlib.Data.Nat.Choose.Basic
import Mathlib.Order.MinMax

/-!
# What grouping by a key amounts to

`groupBy` walks a list once and files every member under its key. `groupBy_eq` says what comes out:
one group for each key, in the order in which the keys first occur, and in each group the members of
that key in their old order. So no key has two groups (`groupBy_keys_nodup`), a group holds all
members of its key and no others (`members_of_mem_groupBy`), and the groups together hold every
member once (`flatMap_groupBy_perm`).

Where keys are distinct, looking for a key finds the one member that has it (`find?_key`), in
whatever order the members stand (`find?_perm`). Pairs of a list, taken as unordered, depend on the
order of the list no more than the list itself (`pairs_perm`), and neither does the greatest of some
counts (`greatest_perm`), which is one of them (`greatest_mem`) and not below any (`le_greatest`).
To count for each member those it is related to is to count the related pairs twice
(`total_map_countP`).
-/

set_option autoImplicit false
set_option relaxedAutoImplicit false

namespace CodeSmells

variable {α κ : Type} [BEq κ] [LawfulBEq κ]

/-- Among members with distinct keys, the search for the key of a member ends at that member. -/
theorem find?_key {key : α → κ} {xs : List α} (hkeys : (xs.map key).Nodup) {x : α}
    (hx : x ∈ xs) : xs.find? (fun y ↦ key y == key x) = some x := by
  have hsome : (xs.find? fun y ↦ key y == key x).isSome := by
    rw [List.find?_isSome]
    exact ⟨x, hx, BEq.rfl⟩
  obtain ⟨y, hy⟩ := Option.isSome_iff_exists.mp hsome
  have hkey : key y = key x := by simpa using List.find?_some hy
  rw [hy, List.inj_on_of_nodup_map hkeys (List.mem_of_find?_eq_some hy) hx hkey]

/-- Among members with distinct keys, the search for a key ends alike in whatever order. -/
theorem find?_perm {key : α → κ} {xs ys : List α} (hperm : xs.Perm ys)
    (hkeys : (ys.map key).Nodup) (k : κ) :
    xs.find? (fun y ↦ key y == k) = ys.find? (fun y ↦ key y == k) := by
  have hkeys' : (xs.map key).Nodup := (hperm.map key).nodup_iff.mpr hkeys
  by_cases hk : ∃ x ∈ xs, key x = k
  · obtain ⟨x, hx, rfl⟩ := hk
    rw [find?_key hkeys' hx, find?_key hkeys (hperm.mem_iff.mp hx)]
  · have hnone : ∀ zs : List α, (∀ z ∈ zs, z ∈ xs) → zs.find? (fun y ↦ key y == k) = none := by
      intro zs hzs
      rw [List.find?_eq_none]
      exact fun z hz hzk ↦ hk ⟨z, hzs z hz, by simpa using hzk⟩
    rw [hnone xs fun _ hz ↦ hz, hnone ys fun _ hz ↦ hperm.mem_iff.mpr hz]

theorem eraseDups_concat_of_mem {k : κ} {ks : List κ} (hk : k ∈ ks) :
    (ks ++ [k]).eraseDups = ks.eraseDups := by
  have hnone : [k].removeAll ks = [] := by simp [List.removeAll, hk]
  rw [List.eraseDups_append, hnone, List.eraseDups_nil, List.append_nil]

theorem eraseDups_concat_of_not_mem {k : κ} {ks : List κ} (hk : k ∉ ks) :
    (ks ++ [k]).eraseDups = ks.eraseDups ++ [k] := by
  have hlast : [k].removeAll ks = [k] := by simp [List.removeAll, hk]
  rw [List.eraseDups_append, hlast, List.eraseDups_cons, List.filter_nil, List.eraseDups_nil]

/-- First occurrences are distinct. -/
theorem eraseDups_nodup (ks : List κ) : ks.eraseDups.Nodup := by
  induction ks using List.reverseRecOn with
  | nil => exact List.nodup_nil
  | append_singleton ks k ih =>
    by_cases hk : k ∈ ks
    · rwa [eraseDups_concat_of_mem hk]
    · rw [eraseDups_concat_of_not_mem hk]
      refine ih.append (List.nodup_singleton k) fun x hx hxk ↦ hk ?_
      rw [← List.mem_singleton.mp hxk]
      exact List.mem_eraseDups.mp hx

/-- First occurrences in another order. -/
theorem eraseDups_perm {ks ls : List κ} (h : ks.Perm ls) : ks.eraseDups.Perm ls.eraseDups :=
  (List.perm_ext_iff_of_nodup (eraseDups_nodup ks) (eraseDups_nodup ls)).mpr fun k ↦ by
    rw [List.mem_eraseDups, List.mem_eraseDups, h.mem_iff]

/-- First occurrences stay first under a change of names that keeps them apart. -/
theorem eraseDups_map_of_injOn {ι : Type} [BEq ι] [LawfulBEq ι] {rename : κ → ι} {ks : List κ}
    (h : ∀ k ∈ ks, ∀ l ∈ ks, rename k = rename l → k = l) :
    (ks.map rename).eraseDups = ks.eraseDups.map rename := by
  induction ks using List.reverseRecOn with
  | nil => rfl
  | append_singleton ks k ih =>
    have hrest := ih fun a ha b hb ↦
      h a (List.mem_append_left _ ha) b (List.mem_append_left _ hb)
    rw [List.map_append, List.map_singleton]
    by_cases hk : k ∈ ks
    · rw [eraseDups_concat_of_mem (List.mem_map_of_mem hk), eraseDups_concat_of_mem hk, hrest]
    · have hnew : rename k ∉ ks.map rename := by
        intro hin
        obtain ⟨l, hl, heq⟩ := List.mem_map.mp hin
        exact hk (h l (List.mem_append_left _ hl) k (by simp) heq ▸ hl)
      rw [eraseDups_concat_of_not_mem hnew, eraseDups_concat_of_not_mem hk, hrest, List.map_append,
        List.map_singleton]

/-- A member whose key has a group joins that group at its end. -/
theorem addToGroup_of_mem {k : κ} {keys : List κ} (hk : k ∈ keys) (hkeys : keys.Nodup)
    (a : α) (members : κ → List α) :
    addToGroup k a (keys.map fun k' ↦ (k', members k')) =
      keys.map fun k' ↦ (k', if k' == k then members k' ++ [a] else members k') := by
  induction keys with
  | nil => cases hk
  | cons first rest ih =>
    rw [List.nodup_cons] at hkeys
    rw [List.map_cons, List.map_cons, addToGroup]
    by_cases hfirst : first = k
    · subst hfirst
      have hrest : (rest.map fun k' ↦ (k', members k')) =
          rest.map fun k' ↦ (k', if k' == first then members k' ++ [a] else members k') := by
        refine List.map_congr_left fun k' hk' ↦ ?_
        have hne : k' ≠ first := fun h ↦ hkeys.1 (h ▸ hk')
        simp [hne]
      simp only [BEq.rfl, ↓reduceIte, hrest]
    · have hin : k ∈ rest := (List.mem_cons.mp hk).resolve_left fun h ↦ hfirst h.symm
      simp only [beq_eq_false_iff_ne.mpr hfirst, Bool.false_eq_true, ↓reduceIte,
        ih hin hkeys.2]

/-- A member whose key has no group yet opens one at the end. -/
theorem addToGroup_of_not_mem {k : κ} {keys : List κ} (hk : k ∉ keys) (a : α)
    (members : κ → List α) :
    addToGroup k a (keys.map fun k' ↦ (k', members k')) =
      (keys.map fun k' ↦ (k', members k')) ++ [(k, [a])] := by
  induction keys with
  | nil => rfl
  | cons first rest ih =>
    rw [List.mem_cons, not_or] at hk
    have hne : first ≠ k := fun h ↦ hk.1 h.symm
    rw [List.map_cons, addToGroup]
    simp only [beq_eq_false_iff_ne.mpr hne, Bool.false_eq_true, ↓reduceIte, ih hk.2,
      List.cons_append]

/-- The groups of a list: one for each key in the order of first occurrence, with the members of
that key in their old order. -/
theorem groupBy_eq (key : α → κ) (xs : List α) :
    groupBy key xs =
      (xs.map key).eraseDups.map fun k ↦ (k, xs.filter fun a ↦ key a == k) := by
  induction xs using List.reverseRecOn with
  | nil => rfl
  | append_singleton xs a ih =>
    have hstep : groupBy key (xs ++ [a]) = addToGroup (key a) a (groupBy key xs) := by
      simp [groupBy]
    rw [hstep, ih, List.map_append, List.map_singleton]
    by_cases hkey : key a ∈ xs.map key
    · rw [eraseDups_concat_of_mem hkey, addToGroup_of_mem (List.mem_eraseDups.mpr hkey)
        (eraseDups_nodup _)]
      refine List.map_congr_left fun k _ ↦ ?_
      by_cases hk : k = key a
      · subst hk
        simp [List.filter_append]
      · have hk' : (key a == k) = false := beq_eq_false_iff_ne.mpr fun h ↦ hk h.symm
        simp [List.filter_append, hk, hk']
    · have hnone : (xs.filter fun b ↦ key b == key a) = [] := by
        rw [List.filter_eq_nil_iff]
        intro b hb
        simpa using fun h ↦ hkey (List.mem_map.mpr ⟨b, hb, h⟩)
      rw [eraseDups_concat_of_not_mem hkey,
        addToGroup_of_not_mem fun h ↦ hkey (List.mem_eraseDups.mp h), List.map_append,
        List.map_singleton, List.filter_append, hnone]
      congr 1
      · refine List.map_congr_left fun k hk ↦ ?_
        have hne : key a ≠ k := fun h ↦ hkey (List.mem_eraseDups.mp (h ▸ hk))
        simp [List.filter_append, hne]
      · simp

/-- No key has two groups. -/
theorem groupBy_keys_nodup (key : α → κ) (xs : List α) :
    ((groupBy key xs).map (·.1)).Nodup := by
  rw [groupBy_eq, List.map_map]
  exact (List.map_id _).symm ▸ eraseDups_nodup (xs.map key)

/-- A group holds the members of its key. -/
theorem members_of_mem_groupBy {key : α → κ} {xs members : List α} {k : κ}
    (h : (k, members) ∈ groupBy key xs) : members = xs.filter fun a ↦ key a == k := by
  rw [groupBy_eq] at h
  obtain ⟨_, _, heq⟩ := List.mem_map.mp h
  cases heq
  rfl

omit [LawfulBEq κ] in
/-- A member joins one group and leaves the others alone. -/
theorem flatMap_addToGroup_perm (k : κ) (a : α) (groups : List (κ × List α)) :
    ((addToGroup k a groups).flatMap (·.2)).Perm (a :: groups.flatMap (·.2)) := by
  induction groups with
  | nil => exact .refl _
  | cons g groups ih =>
    rw [addToGroup]
    split
    · rw [List.flatMap_cons, List.flatMap_cons, List.append_assoc, List.singleton_append]
      exact List.perm_middle
    · rw [List.flatMap_cons, List.flatMap_cons]
      exact (ih.append_left g.2).trans List.perm_middle

omit [LawfulBEq κ] in
/-- The groups together hold every member once. -/
theorem flatMap_groupBy_perm (key : α → κ) (xs : List α) :
    ((groupBy key xs).flatMap (·.2)).Perm xs := by
  induction xs using List.reverseRecOn with
  | nil => exact .refl _
  | append_singleton xs a ih =>
    have hstep : groupBy key (xs ++ [a]) = addToGroup (key a) a (groupBy key xs) := by
      simp [groupBy]
    rw [hstep]
    exact (flatMap_addToGroup_perm (key a) a _).trans
      ((ih.cons a).trans (List.perm_append_singleton a xs).symm)

theorem total_map_length {β : Type} (f : β → List α) (ys : List β) :
    total (ys.map fun y ↦ (f y).length) = (ys.flatMap f).length := by
  induction ys with
  | nil => rfl
  | cons y ys ih => rw [List.map_cons, total_cons, ih, List.flatMap_cons, List.length_append]

omit [LawfulBEq κ] in
/-- Every member is in one group. -/
theorem total_length_groupBy (key : α → κ) (xs : List α) :
    total ((groupBy key xs).map fun g ↦ g.2.length) = xs.length := by
  rw [total_map_length]
  exact (flatMap_groupBy_perm key xs).length_eq

/-! ### Pairs, triples and greatest counts -/

section Pairs

variable {β : Type}

/-- The pairs of a list of images are the images of the pairs. -/
theorem pairs_map (f : α → β) (xs : List α) :
    pairs (xs.map f) = (pairs xs).map (Prod.map f f) := by
  induction xs with
  | nil => rfl
  | cons x xs ih =>
    simp only [List.map_cons, pairs, List.map_append, List.map_map, ih]
    rfl

theorem mem_of_mem_pairs {xs : List α} {a b : α} (h : (a, b) ∈ pairs xs) :
    a ∈ xs ∧ b ∈ xs := by
  induction xs with
  | nil => cases h
  | cons x xs ih =>
    rcases List.mem_append.mp h with h | h
    · obtain ⟨y, hy, heq⟩ := List.mem_map.mp h
      cases heq
      exact ⟨List.mem_cons_self, List.mem_cons_of_mem _ hy⟩
    · exact ⟨List.mem_cons_of_mem _ (ih h).1, List.mem_cons_of_mem _ (ih h).2⟩

/-- Of two members that differ, one stands before the other. -/
theorem mem_pairs_or {xs : List α} {a b : α} (ha : a ∈ xs) (hb : b ∈ xs) (hne : a ≠ b) :
    (a, b) ∈ pairs xs ∨ (b, a) ∈ pairs xs := by
  induction xs with
  | nil => cases ha
  | cons x xs ih =>
    rw [pairs, List.mem_append, List.mem_append, List.mem_map, List.mem_map]
    rcases List.mem_cons.mp ha with hax | hax
    · rcases List.mem_cons.mp hb with hbx | hbx
      · exact (hne (hax.trans hbx.symm)).elim
      · exact Or.inl (Or.inl ⟨b, hbx, by rw [hax]⟩)
    · rcases List.mem_cons.mp hb with hbx | hbx
      · exact Or.inr (Or.inl ⟨a, hax, by rw [hbx]⟩)
      · exact (ih hax hbx).imp Or.inr Or.inr

theorem pairs_nodup {xs : List α} (h : xs.Nodup) : (pairs xs).Nodup := by
  induction xs with
  | nil => exact List.nodup_nil
  | cons x xs ih =>
    rw [List.nodup_cons] at h
    refine (h.2.map fun _ _ heq ↦ (Prod.ext_iff.mp heq).2).append (ih h.2) ?_
    rintro ⟨a, b⟩ hfirst hrest
    obtain ⟨y, -, heq⟩ := List.mem_map.mp hfirst
    cases heq
    exact h.1 (mem_of_mem_pairs hrest).1

theorem mem_of_mem_triples {xs : List α} {a b c : α} (h : (a, b, c) ∈ triples xs) : a ∈ xs := by
  induction xs with
  | nil => cases h
  | cons x xs ih =>
    rcases List.mem_append.mp h with h | h
    · obtain ⟨y, -, heq⟩ := List.mem_map.mp h
      cases heq
      exact List.mem_cons_self
    · exact List.mem_cons_of_mem _ (ih h)

theorem triples_nodup {xs : List α} (h : xs.Nodup) : (triples xs).Nodup := by
  induction xs with
  | nil => exact List.nodup_nil
  | cons x xs ih =>
    rw [List.nodup_cons] at h
    refine ((pairs_nodup h.2).map fun _ _ heq ↦ (Prod.ext_iff.mp heq).2).append (ih h.2) ?_
    rintro ⟨a, b, c⟩ hfirst hrest
    obtain ⟨y, -, heq⟩ := List.mem_map.mp hfirst
    cases heq
    exact h.1 (mem_of_mem_triples hrest)

/-- The pairs of an increasing list are those of its members that increase. -/
theorem mem_pairs_iff [Preorder α] {xs : List α} (h : xs.Pairwise (· < ·)) {a b : α} :
    (a, b) ∈ pairs xs ↔ a < b ∧ a ∈ xs ∧ b ∈ xs := by
  induction xs with
  | nil => simp [pairs]
  | cons x xs ih =>
    rw [List.pairwise_cons] at h
    simp only [pairs, List.mem_append, List.mem_map, Prod.mk.injEq, ih h.2, List.mem_cons]
    constructor
    · rintro (⟨c, hc, rfl, rfl⟩ | ⟨hlt, ha, hb⟩)
      · exact ⟨h.1 c hc, Or.inl rfl, Or.inr hc⟩
      · exact ⟨hlt, Or.inr ha, Or.inr hb⟩
    · rintro ⟨hlt, rfl | ha, rfl | hb⟩
      · exact (lt_irrefl _ hlt).elim
      · exact Or.inl ⟨b, hb, rfl, rfl⟩
      · exact (lt_asymm hlt (h.1 a ha)).elim
      · exact Or.inr ⟨hlt, ha, hb⟩

/-- There are as many pairs as there are ways to choose two positions. -/
theorem length_pairs (xs : List α) : (pairs xs).length = xs.length.choose 2 := by
  induction xs with
  | nil => rfl
  | cons x xs ih =>
    rw [pairs, List.length_append, List.length_map, ih, List.length_cons, Nat.choose_succ_succ,
      Nat.choose_one_right]

/-- The first member makes a pair with each later one that it is related to. -/
theorem countP_pairs_cons (related : α → α → Bool) (x : α) (xs : List α) :
    (pairs (x :: xs)).countP (fun e ↦ related e.1 e.2) =
      xs.countP (related x) + (pairs xs).countP fun e ↦ related e.1 e.2 := by
  rw [pairs, List.countP_append, List.countP_map]
  rfl

/-- The last member makes a pair with each earlier one that is related to it. -/
theorem countP_pairs_concat (related : α → α → Bool) (xs : List α) (x : α) :
    (pairs (xs ++ [x])).countP (fun e ↦ related e.1 e.2) =
      (pairs xs).countP (fun e ↦ related e.1 e.2) + xs.countP fun a ↦ related a x := by
  induction xs with
  | nil => rfl
  | cons a xs ih =>
    rw [List.cons_append, countP_pairs_cons, countP_pairs_cons, ih, List.countP_append,
      List.countP_singleton, List.countP_cons]
    omega

/-- Pairs of members are counted by their positions. -/
theorem countP_pairs_eq_card (related : α → α → Bool) (xs : List α) :
    (pairs xs).countP (fun e ↦ related e.1 e.2) =
      ({e : Fin xs.length × Fin xs.length | e.1 < e.2 ∧ related xs[e.1] xs[e.2] = true} :
        Finset (Fin xs.length × Fin xs.length)).card := by
  have hplaces : xs = (List.finRange xs.length).map xs.get := (List.map_get_finRange xs).symm
  have hnodup : (pairs (List.finRange xs.length)).Nodup := pairs_nodup (List.nodup_finRange _)
  have hset : ({e : Fin xs.length × Fin xs.length | e.1 < e.2 ∧ related xs[e.1] xs[e.2] = true} :
      Finset (Fin xs.length × Fin xs.length)) =
        ((pairs (List.finRange xs.length)).filter fun e ↦ related xs[e.1] xs[e.2]).toFinset := by
    ext ⟨i, j⟩
    simp [mem_pairs_iff (List.pairwise_lt_finRange _)]
  rw [hset, List.toFinset_card_of_nodup (hnodup.filter _), ← List.countP_eq_length_filter]
  conv_lhs => rw [hplaces, pairs_map, List.countP_map]
  rfl

/-- The triples of an increasing list are those of its members that increase. -/
theorem mem_triples_iff [Preorder α] {xs : List α} (h : xs.Pairwise (· < ·)) {a b c : α} :
    (a, b, c) ∈ triples xs ↔ a < b ∧ b < c ∧ a ∈ xs ∧ b ∈ xs ∧ c ∈ xs := by
  induction xs with
  | nil => simp [triples]
  | cons x xs ih =>
    rw [List.pairwise_cons] at h
    simp only [triples, List.mem_append, List.mem_map, Prod.mk.injEq, ih h.2, List.mem_cons]
    constructor
    · rintro (⟨_, hpair, rfl, rfl⟩ | ⟨hab, hbc, ha, hb, hc⟩)
      · obtain ⟨hlt, hb, hc⟩ := (mem_pairs_iff h.2).mp hpair
        exact ⟨h.1 b hb, hlt, Or.inl rfl, Or.inr hb, Or.inr hc⟩
      · exact ⟨hab, hbc, Or.inr ha, Or.inr hb, Or.inr hc⟩
    · rintro ⟨hab, hbc, ha, hb, hc⟩
      -- Whatever is greater than some member is not the first, which is the least.
      have hlater : ∀ {y z}, y < z → (y = x ∨ y ∈ xs) → (z = x ∨ z ∈ xs) → z ∈ xs := by
        rintro y z hlt (rfl | hy) (rfl | hz)
        · exact (lt_irrefl _ hlt).elim
        · exact hz
        · exact (lt_asymm hlt (h.1 y hy)).elim
        · exact hz
      have hb' : b ∈ xs := hlater hab ha hb
      have hc' : c ∈ xs := hlater hbc hb hc
      rcases ha with rfl | ha
      · exact Or.inl ⟨(b, c), (mem_pairs_iff h.2).mpr ⟨hbc, hb', hc'⟩, rfl, rfl⟩
      · exact Or.inr ⟨hab, hbc, ha, hb', hc'⟩

/-- The pairs of a list, taken as unordered, do not depend on its order. -/
theorem pairs_perm {f : α → α → β} (hf : ∀ a b, f a b = f b a) {xs ys : List α}
    (h : xs.Perm ys) :
    ((pairs xs).map fun (a, b) ↦ f a b).Perm ((pairs ys).map fun (a, b) ↦ f a b) := by
  induction h with
  | nil => exact .refl _
  | cons x h ih =>
    simp only [pairs, List.map_append, List.map_map]
    exact (h.map _).append ih
  | swap x y l =>
    simp only [pairs, List.map_append, List.map_map, List.map_cons, List.cons_append]
    rw [hf y x]
    refine List.Perm.cons _ ?_
    simp only [← List.append_assoc]
    exact List.perm_append_comm.append_right _
  | trans _ _ ih ih' => exact ih.trans ih'

theorem total_map_add_ite (count : α → ℕ) (test : α → Bool) (xs : List α) :
    total (xs.map fun x ↦ count x + if test x then 1 else 0) =
      total (xs.map count) + xs.countP test := by
  induction xs with
  | nil => rfl
  | cons x xs ih =>
    rw [List.map_cons, List.map_cons, total_cons, total_cons, ih, List.countP_cons]
    omega

/-- Where a relation goes both ways, and nothing is related to itself, the numbers of members that
each member is related to count every related pair twice. -/
theorem total_map_countP {related : α → α → Bool} {xs : List α}
    (hsymm : ∀ x ∈ xs, ∀ y ∈ xs, related x y = related y x)
    (hself : ∀ x ∈ xs, related x x = false) :
    total (xs.map fun x ↦ xs.countP (related x)) =
      2 * (pairs xs).countP fun e ↦ related e.1 e.2 := by
  induction xs with
  | nil => rfl
  | cons x xs ih =>
    rw [List.forall_mem_cons] at hself
    have hrest := ih (fun a ha b hb ↦
      hsymm a (List.mem_cons_of_mem x ha) b (List.mem_cons_of_mem x hb)) hself.2
    have hback : xs.countP (fun y ↦ related y x) = xs.countP (related x) :=
      List.countP_congr fun y hy ↦ by
        rw [hsymm y (List.mem_cons_of_mem x hy) x List.mem_cons_self]
    simp only [List.map_cons, total_cons, List.countP_cons, hself.1, Bool.false_eq_true,
      ↓reduceIte, Nat.add_zero, total_map_add_ite, hrest, hback, countP_pairs_cons related]
    omega

theorem greatest_perm {ns ms : List Nat} (h : ns.Perm ms) : greatest ns = greatest ms :=
  h.foldl_eq 0

/-- A greatest count is within a bound exactly when all counts are. -/
theorem greatest_le_iff {ns : List ℕ} {bound : ℕ} : greatest ns ≤ bound ↔ ∀ n ∈ ns, n ≤ bound := by
  have hfold : ∀ (ns : List ℕ) (start : ℕ),
      ns.foldl max start ≤ bound ↔ start ≤ bound ∧ ∀ n ∈ ns, n ≤ bound := by
    intro ns
    induction ns with
    | nil => simp
    | cons n ns ih =>
      intro start
      rw [List.foldl_cons, ih, List.forall_mem_cons, max_le_iff, and_assoc]
  rw [greatest, hfold]
  simp

theorem le_greatest {ns : List ℕ} {n : ℕ} (hn : n ∈ ns) : n ≤ greatest ns :=
  greatest_le_iff.mp le_rfl n hn

theorem greatest_flatMap (f : α → List ℕ) (xs : List α) :
    greatest (xs.flatMap f) = greatest (xs.map fun x ↦ greatest (f x)) := by
  apply le_antisymm
  · refine greatest_le_iff.mpr fun n hn ↦ ?_
    obtain ⟨x, hx, hn⟩ := List.mem_flatMap.mp hn
    exact (le_greatest hn).trans (le_greatest (List.mem_map.mpr ⟨x, hx, rfl⟩))
  · refine greatest_le_iff.mpr fun n hn ↦ ?_
    obtain ⟨x, hx, rfl⟩ := List.mem_map.mp hn
    exact greatest_le_iff.mpr fun n hn ↦ le_greatest (List.mem_flatMap.mpr ⟨x, hx, hn⟩)

theorem greatest_mem {ns : List ℕ} (h : ns ≠ []) : greatest ns ∈ ns := by
  have hfold : ∀ (ns : List ℕ) (start : ℕ), ns.foldl max start ∈ start :: ns := by
    intro ns
    induction ns with
    | nil => simp
    | cons n ns ih =>
      intro start
      rw [List.foldl_cons]
      rcases List.mem_cons.mp (ih (max start n)) with heq | hmem
      · rw [heq]
        rcases max_choice start n with hmax | hmax
        · rw [hmax]
          exact List.mem_cons_self
        · rw [hmax]
          exact List.mem_cons_of_mem _ List.mem_cons_self
      · exact List.mem_cons_of_mem _ (List.mem_cons_of_mem _ hmem)
  obtain ⟨n, ns, rfl⟩ := List.exists_cons_of_ne_nil h
  have hmem := hfold ns (max 0 n)
  rwa [Nat.zero_max] at hmem

end Pairs

end CodeSmells
