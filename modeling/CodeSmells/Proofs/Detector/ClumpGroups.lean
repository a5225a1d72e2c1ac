import CodeSmells.Proofs.Detector.Clumps
import CodeSmells.Proofs.Detector.Scopes
import Mathlib.Data.Finset.Sort

/-!
# Clumps and the methods that hold them

The methods that hold all names of a group are given by the group, and fewer methods hold a larger
group (`holding_anti`). Clumps are made from triples: a triple is recorded against the methods
that hold it (`labelsOf_eq`), and the triples held by the same methods are merged
(`mem_members_iff`). Where labels are distinct, a label stands for one method, so that whatever is
merged from the triples of some methods is held by all of them (`subset_names_of_mem`). So the
methods of a clump are those that hold all of its names (`methods_eq_holding`), and a clump is fixed
by its methods. `clumps_merged_exactly` puts this together with what is reported under given
limits.

Nothing is merged but what some triple fixes. A group of more than three names is found as a whole
only if each of its names lies in a triple that no further method holds: `clumps_detected_iff` says
that a clump is detected exactly when there is such a group. For three names this is no restriction.
For four it is: when each three of them also turn up by themselves, no triple stands for the methods
that hold all four, and these are missed (`overlapping_group_missed`).
-/

set_option autoImplicit false
set_option relaxedAutoImplicit false

namespace CodeSmells

/-- The value in force for a key is a number. -/
def Thresholds.HasLimit (t : Thresholds) (key : String) (limit : Quantity) : Prop :=
  ∃ v, t.get key = .ok v ∧ v.quantity? = some limit

theorem Thresholds.HasLimit.atLeast_eq {t : Thresholds} {key : String} {limit : Quantity}
    (h : t.HasLimit key limit) :
    ∃ v, t.get key = .ok v ∧ ∀ m : Measured, m.atLeast v = .ok (limit.le m.quantity) := by
  obtain ⟨v, hv, hlimit⟩ := h
  refine ⟨v, hv, fun m ↦ ?_⟩
  rw [Measured.atLeast, compareWith, hlimit]

theorem Thresholds.HasLimit.above_eq {t : Thresholds} {key : String} {limit : Quantity}
    (h : t.HasLimit key limit) :
    ∃ v, t.get key = .ok v ∧ ∀ m : Measured, m.above v = .ok (limit.lt m.quantity) := by
  obtain ⟨v, hv, hlimit⟩ := h
  refine ⟨v, hv, fun m ↦ ?_⟩
  rw [Measured.above, compareWith, hlimit]

namespace DataClumps

/-! ### Triples of names -/

namespace Triple

/-- The names of a triple as a set. -/
def names (t : Triple) : Finset String :=
  t.toNames.toFinset

/-- The names of a triple increase. -/
def Increasing (t : Triple) : Prop :=
  t.1 < t.2.1 ∧ t.2.1 < t.2.2

theorem mem_names {t : Triple} {name : String} : name ∈ t.names ↔ name ∈ t.toNames :=
  List.mem_toFinset

theorem names_subset_iff {t : Triple} {names : List String} :
    t.names ⊆ names.toFinset ↔ t.1 ∈ names ∧ t.2.1 ∈ names ∧ t.2.2 ∈ names := by
  obtain ⟨a, b, c⟩ := t
  simp [Finset.subset_iff, Triple.names, toNames]

theorem Increasing.card_names {t : Triple} (h : t.Increasing) : t.names.card = 3 := by
  obtain ⟨a, b, c⟩ := t
  obtain ⟨hab, hbc⟩ : a < b ∧ b < c := h
  rw [Triple.names, toNames, List.toFinset_card_of_nodup]
  · rfl
  · simp [hab.ne, hbc.ne, (hab.trans hbc).ne]

/-- Three names are the names of a triple. -/
theorem exists_names_eq {group : Finset String} (h : group.card = 3) :
    ∃ t : Triple, t.Increasing ∧ t.names = group := by
  have hlength : (group.sort (· ≤ ·)).length = 3 := by rw [Finset.length_sort, h]
  have hsorted : (group.sort (· ≤ ·)).Pairwise (· < ·) := (Finset.sortedLT_sort group).pairwise
  obtain ⟨a, b, c, heq⟩ := List.length_eq_three.mp hlength
  rw [heq] at hsorted
  refine ⟨(a, b, c), ⟨?_, ?_⟩, ?_⟩
  · exact List.rel_of_pairwise_cons hsorted List.mem_cons_self
  · exact List.rel_of_pairwise_cons hsorted.of_cons List.mem_cons_self
  · rw [Triple.names, toNames, ← heq, Finset.sort_toFinset]

end Triple

theorem mem_triplesOf_iff {t : Triple} {names : List String} :
    t ∈ triplesOf names ↔ t.Increasing ∧ t.names ⊆ names.toFinset := by
  obtain ⟨a, b, c⟩ := t
  rw [triplesOf, mem_triples_iff (sortedSet_pairwise names), Triple.names_subset_iff]
  simp only [mem_sortedSet, Triple.Increasing, and_assoc]

/-! ### The methods that hold a group -/

/-- The names of a method from which clumps of a kind are made. -/
def Kind.namesOf : Kind → Class → Method → List String
  | parameters => fun _ m ↦ m.parameterNames
  | fields => ownFields

section Holding

variable (p : Project) (names : Class → Method → List String)

/-- The labels of the methods that hold all names of a group, in the order of the project. -/
def holding (group : Finset String) : List String :=
  p.classes.flatMap fun k ↦
    (k.methods.filter fun m ↦ group ⊆ (names k m).toFinset).map (label k)

/-- Some method holds all names of a group. -/
def Together (group : Finset String) : Prop :=
  ∃ k ∈ p.classes, ∃ m ∈ k.methods, group ⊆ (names k m).toFinset

variable {p names} {group other : Finset String}

theorem mem_holding_iff {l : String} :
    l ∈ holding p names group ↔
      ∃ k ∈ p.classes, ∃ m ∈ k.methods, group ⊆ (names k m).toFinset ∧ label k m = l := by
  simp only [holding, List.mem_flatMap, List.mem_map, List.mem_filter, decide_eq_true_iff,
    and_assoc]

theorem holding_ne_nil_iff : holding p names group ≠ [] ↔ Together p names group := by
  constructor
  · intro h
    obtain ⟨l, hl⟩ := List.exists_mem_of_ne_nil _ h
    obtain ⟨k, hk, m, hm, hsubset, -⟩ := mem_holding_iff.mp hl
    exact ⟨k, hk, m, hm, hsubset⟩
  · rintro ⟨k, hk, m, hm, hsubset⟩
    exact List.ne_nil_of_mem (mem_holding_iff.mpr ⟨k, hk, m, hm, hsubset, rfl⟩)

theorem holding_sublist_labels : (holding p names group).Sublist p.methodLabels :=
  List.Sublist.flatMap_right _ fun _ _ ↦ List.filter_sublist.map _

/-- If what holds one group holds another, the methods of the one are among those of the other. -/
theorem holding_sublist (h : ∀ k ∈ p.classes, ∀ m ∈ k.methods,
      group ⊆ (names k m).toFinset → other ⊆ (names k m).toFinset) :
    (holding p names group).Sublist (holding p names other) := by
  refine List.Sublist.flatMap_right _ fun k hk ↦ List.Sublist.map _ ?_
  have hboth : (k.methods.filter fun m ↦ group ⊆ (names k m).toFinset) =
      (k.methods.filter fun m ↦ other ⊆ (names k m).toFinset).filter
        fun m ↦ group ⊆ (names k m).toFinset := by
    rw [List.filter_filter]
    refine List.filter_congr fun m hm ↦ ?_
    rw [Bool.eq_iff_iff, Bool.and_eq_true, decide_eq_true_iff, decide_eq_true_iff]
    exact ⟨fun hgroup ↦ ⟨hgroup, h k hk m hm hgroup⟩, And.left⟩
  rw [hboth]
  exact List.filter_sublist

theorem holding_anti (h : other ⊆ group) :
    (holding p names group).Sublist (holding p names other) :=
  holding_sublist fun _ _ _ _ ↦ h.trans

/-- A label stands for one method. -/
theorem eq_of_label_eq (hlabels : p.methodLabels.Nodup) {k k' : Class} {m m' : Method}
    (hk : k ∈ p.classes) (hm : m ∈ k.methods) (hk' : k' ∈ p.classes) (hm' : m' ∈ k'.methods)
    (h : label k m = label k' m') : k = k' ∧ m = m' := by
  have hentries : p.methodLabels =
      (p.classes.flatMap fun k ↦ k.methods.map (k, ·)).map fun e ↦ label e.1 e.2 := by
    simp only [Project.methodLabels, List.map_flatMap, List.map_map, Function.comp_def]
  have hmem : ∀ {k : Class} {m : Method}, k ∈ p.classes → m ∈ k.methods →
      (k, m) ∈ p.classes.flatMap fun k ↦ k.methods.map (k, ·) := fun hk hm ↦
    List.mem_flatMap.mpr ⟨_, hk, List.mem_map_of_mem hm⟩
  rw [hentries] at hlabels
  exact Prod.mk.inj (List.inj_on_of_nodup_map hlabels (hmem hk hm) (hmem hk' hm') h)

/-- Where labels are distinct, the labels of a group tell which methods hold it. -/
theorem label_mem_holding_iff (hlabels : p.methodLabels.Nodup) {k : Class} {m : Method}
    (hk : k ∈ p.classes) (hm : m ∈ k.methods) :
    label k m ∈ holding p names group ↔ group ⊆ (names k m).toFinset := by
  rw [mem_holding_iff]
  constructor
  · rintro ⟨k', hk', m', hm', hgroup, hlabel⟩
    obtain ⟨rfl, rfl⟩ := eq_of_label_eq hlabels hk' hm' hk hm hlabel
    exact hgroup
  · intro hgroup
    exact ⟨k, hk, m, hm, hgroup, rfl⟩

/-! ### Records -/

/-- A triple is recorded against the methods that hold it. -/
theorem labelsOf_eq {t : Triple} (ht : t.Increasing) :
    labelsOf (records p names) t = holding p names t.names := by
  -- A method lists a triple of its names once, and any other triple not at all.
  have hpiece : ∀ (k : Class) (m : Method),
      (((triplesOf (names k m)).map (·, label k m)).filter fun e ↦ e.1 == t).map (·.2) =
        if t.names ⊆ (names k m).toFinset then [label k m] else [] := by
    intro k m
    simp only [List.filter_map, Function.comp_def, List.filter_beq, List.map_replicate]
    have honce : (triplesOf (names k m)).Nodup := triples_nodup (sortedSet_nodup _)
    split_ifs with hsubset
    · rw [List.count_eq_one_of_mem honce (mem_triplesOf_iff.mpr ⟨ht, hsubset⟩)]
      rfl
    · rw [List.count_eq_zero_of_not_mem fun h ↦ hsubset (mem_triplesOf_iff.mp h).2]
      rfl
  simp only [labelsOf, records, holding, List.filter_flatMap, List.map_flatMap, hpiece]
  refine List.flatMap_congr fun k _ ↦ ?_
  induction k.methods with
  | nil => rfl
  | cons m ms ih =>
    rw [List.flatMap_cons, ih, List.filter_cons]
    by_cases hsubset : t.names ⊆ (names k m).toFinset
    · simp only [hsubset, if_true, decide_true, List.map_cons, List.singleton_append]
    · simp only [hsubset, if_false, decide_false, Bool.false_eq_true, List.nil_append]

theorem mem_triplesIn_iff {t : Triple} :
    t ∈ triplesIn (records p names) ↔ t.Increasing ∧ Together p names t.names := by
  rw [triplesIn, List.mem_eraseDups, List.mem_map]
  constructor
  · rintro ⟨e, he, rfl⟩
    obtain ⟨k, hk, he⟩ := List.mem_flatMap.mp he
    obtain ⟨m, hm, he⟩ := List.mem_flatMap.mp he
    obtain ⟨t, ht, rfl⟩ := List.mem_map.mp he
    obtain ⟨hincreasing, hsubset⟩ := mem_triplesOf_iff.mp ht
    exact ⟨hincreasing, k, hk, m, hm, hsubset⟩
  · rintro ⟨hincreasing, k, hk, m, hm, hsubset⟩
    have ht : t ∈ triplesOf (names k m) := mem_triplesOf_iff.mpr ⟨hincreasing, hsubset⟩
    exact ⟨(t, label k m), List.mem_flatMap.mpr ⟨k, hk, List.mem_flatMap.mpr ⟨m, hm,
      List.mem_map_of_mem ht⟩⟩, rfl⟩

end Holding

/-! ### What a clump is -/

section Clumps

variable {p : Project} {names : Class → Method → List String} {kind : Kind} {c : Clump}

/-- No two clumps have the same methods. -/
theorem merge_methods_nodup (kind : Kind) (recorded : List (Triple × String)) :
    ((merge kind recorded).map (·.methods)).Nodup := by
  rw [merge_eq, List.map_map]
  exact (List.map_id _).symm ▸ eraseDups_nodup _

theorem kind_of_mem_merge {recorded : List (Triple × String)} (hc : c ∈ merge kind recorded) :
    c.kind = kind := by
  rw [merge_eq] at hc
  obtain ⟨_, -, rfl⟩ := List.mem_map.mp hc
  rfl

/-- The names of a clump increase. -/
theorem members_pairwise {recorded : List (Triple × String)} (hc : c ∈ merge kind recorded) :
    c.members.Pairwise (· < ·) := by
  rw [merge_eq] at hc
  obtain ⟨_, -, rfl⟩ := List.mem_map.mp hc
  exact sortedSet_pairwise _

/-- Three names that stand together are in the clump of the methods that hold them. -/
theorem exists_clump (kind : Kind) {group : Finset String} (hcard : group.card = 3)
    (htogether : Together p names group) :
    ∃ c ∈ merge kind (records p names), c.methods = holding p names group := by
  obtain ⟨t, ht, rfl⟩ := Triple.exists_names_eq hcard
  have hin : t ∈ triplesIn (records p names) := mem_triplesIn_iff.mpr ⟨ht, htogether⟩
  rw [merge_eq]
  refine ⟨_, List.mem_map_of_mem (List.mem_eraseDups.mpr (List.mem_map_of_mem hin)), ?_⟩
  exact labelsOf_eq ht

/-- The methods of a clump are those that hold some three names. -/
theorem exists_triple_of_mem (hc : c ∈ merge kind (records p names)) :
    ∃ group : Finset String, group.card = 3 ∧ Together p names group ∧
      holding p names group = c.methods := by
  rw [merge_eq] at hc
  obtain ⟨ls, hls, rfl⟩ := List.mem_map.mp hc
  obtain ⟨t, hin, rfl⟩ := List.mem_map.mp (List.mem_eraseDups.mp hls)
  obtain ⟨ht, htogether⟩ := mem_triplesIn_iff.mp hin
  exact ⟨t.names, ht.card_names, htogether, (labelsOf_eq ht).symm⟩

theorem methods_ne_nil (hc : c ∈ merge kind (records p names)) : c.methods ≠ [] := by
  obtain ⟨group, -, htogether, hmethods⟩ := exists_triple_of_mem hc
  rw [← hmethods]
  exact holding_ne_nil_iff.mpr htogether

/-- The names of a clump are those of the triples that its methods hold and no others do. -/
theorem mem_members_iff (hc : c ∈ merge kind (records p names)) {name : String} :
    name ∈ c.members ↔ ∃ group : Finset String, group.card = 3 ∧ name ∈ group ∧
      holding p names group = c.methods := by
  have hne := methods_ne_nil hc
  rw [merge_eq] at hc
  obtain ⟨ls, -, rfl⟩ := List.mem_map.mp hc
  simp only [mem_sortedSet, List.mem_flatMap, List.mem_filter, mem_triplesIn_iff, beq_iff_eq]
  constructor
  · rintro ⟨t, ⟨⟨ht, -⟩, hls⟩, hname⟩
    exact ⟨t.names, ht.card_names, Triple.mem_names.mpr hname, (labelsOf_eq ht).symm.trans hls⟩
  · rintro ⟨group, hcard, hname, hls⟩
    obtain ⟨t, ht, rfl⟩ := Triple.exists_names_eq hcard
    have htogether : Together p names t.names := holding_ne_nil_iff.mp (hls ▸ hne)
    exact ⟨t, ⟨⟨ht, htogether⟩, (labelsOf_eq ht).trans hls⟩, Triple.mem_names.mp hname⟩

theorem subset_members {group : Finset String} (hc : c ∈ merge kind (records p names))
    (hcard : group.card = 3) (hmethods : holding p names group = c.methods) :
    group ⊆ c.members.toFinset := fun _ hname ↦
  List.mem_toFinset.mpr ((mem_members_iff hc).mpr ⟨group, hcard, hname, hmethods⟩)

/-- Whatever is merged from the triples of some methods is held by each of these methods. -/
theorem subset_names_of_mem (hlabels : p.methodLabels.Nodup)
    (hc : c ∈ merge kind (records p names)) {k : Class} {m : Method} (hk : k ∈ p.classes)
    (hm : m ∈ k.methods) (hlabel : label k m ∈ c.methods) :
    c.members.toFinset ⊆ (names k m).toFinset := by
  intro name hname
  obtain ⟨group, -, hin, hmethods⟩ := (mem_members_iff hc).mp (List.mem_toFinset.mp hname)
  rw [← hmethods, label_mem_holding_iff hlabels hk hm] at hlabel
  exact hlabel hin

/-- The methods of a clump are those that hold all of its names. -/
theorem methods_eq_holding (hlabels : p.methodLabels.Nodup)
    (hc : c ∈ merge kind (records p names)) :
    c.methods = holding p names c.members.toFinset := by
  -- Three of its names already fix the methods; the others are held wherever these are.
  obtain ⟨group, hcard, -, hmethods⟩ := exists_triple_of_mem hc
  refine List.Sublist.antisymm ?_ ?_
  · rw [← hmethods]
    refine holding_sublist fun k hk m hm hgroup ↦ subset_names_of_mem hlabels hc hk hm ?_
    rw [← hmethods]
    exact (label_mem_holding_iff hlabels hk hm).mpr hgroup
  · rw [← hmethods]
    exact holding_anti (subset_members hc hcard hmethods)

theorem card_members (hc : c ∈ merge kind (records p names)) :
    c.members.toFinset.card = c.members.length :=
  List.toFinset_card_of_nodup ((members_pairwise hc).imp fun h ↦ h.ne)

theorem three_le_length_members (hc : c ∈ merge kind (records p names)) :
    3 ≤ c.members.length := by
  obtain ⟨group, hcard, -, hmethods⟩ := exists_triple_of_mem hc
  rw [← card_members hc, ← hcard]
  exact Finset.card_le_card (subset_members hc hcard hmethods)

end Clumps

/-- Clumps are merged exactly: they have different methods; three names that some method holds are
in the one clump whose methods are all that hold them, and in others only beside names that fewer
methods hold; the names of a clump come from such triples, its methods are those that hold all of
its names, in the order of the project, and its names increase and are three at least. -/
structure MergesExactly (p : Project) (names : Class → Method → List String)
    (clumps : List Clump) : Prop where
  apart : (clumps.map (·.methods)).Nodup
  merged : ∀ group : Finset String, group.card = 3 → Together p names group →
    ∃ c ∈ clumps, group ⊆ c.members.toFinset ∧
      ∀ d ∈ clumps, d.methods = holding p names group ↔ d = c
  beside : ∀ group : Finset String, ∀ c ∈ clumps, group ⊆ c.members.toFinset →
    c.methods.Sublist (holding p names group)
  composed : ∀ c ∈ clumps, ∀ name, name ∈ c.members ↔
    ∃ group : Finset String, group.card = 3 ∧ name ∈ group ∧ holding p names group = c.methods
  held : ∀ c ∈ clumps, ∀ k ∈ p.classes, ∀ m ∈ k.methods,
    label k m ∈ c.methods ↔ ∀ name ∈ c.members, name ∈ names k m
  listed : ∀ c ∈ clumps, c.methods.Sublist p.methodLabels
  sorted : ∀ c ∈ clumps, c.members.Pairwise (· < ·) ∧ 3 ≤ c.members.length

theorem mergesExactly_merge {p : Project} (hlabels : p.methodLabels.Nodup) (kind : Kind)
    (names : Class → Method → List String) :
    MergesExactly p names (merge kind (records p names)) where
  apart := merge_methods_nodup kind _
  merged group hcard htogether := by
    obtain ⟨c, hc, hmethods⟩ := exists_clump kind hcard htogether
    refine ⟨c, hc, subset_members hc hcard hmethods.symm, fun d hd ↦ ⟨fun h ↦ ?_, ?_⟩⟩
    · exact List.inj_on_of_nodup_map (merge_methods_nodup kind _) hd hc (h.trans hmethods.symm)
    · rintro rfl
      exact hmethods
  beside group c hc hsubset := by
    rw [methods_eq_holding hlabels hc]
    exact holding_anti hsubset
  composed c hc name := mem_members_iff hc
  held c hc k hk m hm := by
    rw [methods_eq_holding hlabels hc, label_mem_holding_iff hlabels hk hm]
    simp only [Finset.subset_iff, List.mem_toFinset]
  listed c hc := by
    rw [methods_eq_holding hlabels hc]
    exact holding_sublist_labels
  sorted c hc := ⟨members_pairwise hc, three_le_length_members hc⟩

/-- The clumps of a kind are those merged from its names. -/
theorem filter_kind_allClumps (p : Project) (kind : Kind) :
    (allClumps p).filter (·.kind = kind) = merge kind (records p kind.namesOf) := by
  have hself : ∀ (kind : Kind) (recorded : List (Triple × String)),
      (merge kind recorded).filter (·.kind = kind) = merge kind recorded := by
    intro kind recorded
    exact List.filter_eq_self.mpr fun c hc ↦ decide_eq_true (kind_of_mem_merge hc)
  have hother : ∀ {kind kind' : Kind} (recorded : List (Triple × String)), kind' ≠ kind →
      (merge kind' recorded).filter (·.kind = kind) = [] := by
    intro kind kind' recorded hne
    refine List.filter_eq_nil_iff.mpr fun c hc ↦ ?_
    rw [kind_of_mem_merge hc, decide_eq_true_iff]
    exact hne
  rw [allClumps, List.filter_append]
  cases kind with
  | parameters =>
    rw [hself, hother _ (by decide), List.append_nil]
    rfl
  | fields =>
    rw [hself, hother _ (by decide), List.nil_append]
    rfl

/-! ### What is reported -/

/-- A clump in a report. Its occurrences are its methods. -/
def Clump.toValue (c : Clump) : Value :=
  .table [
    ("variables", .texts c.members),
    ("kind", .text c.kind.name),
    ("occurrences", .count c.methods.length),
    ("methods", .texts c.methods)]

/-- The clumps with at least so many methods and names. -/
def frequent (p : Project) (occurrences size : Quantity) : List Clump :=
  (allClumps p).filter fun c ↦
    occurrences.le (.ofNat c.methods.length) && size.le (.ofNat c.members.length)

theorem isLarge_of_hasLimit {t : Thresholds} {occurrences size : Quantity}
    (hoccurrences : t.HasLimit "min_occurrences" occurrences)
    (hsize : t.HasLimit "min_clump_size" size) (c : Clump) :
    isLarge t c = .ok (occurrences.le (.ofNat c.methods.length) &&
      size.le (.ofNat c.members.length)) := by
  obtain ⟨v, hv, hatLeast⟩ := hoccurrences.atLeast_eq
  obtain ⟨w, hw, hatLeast'⟩ := hsize.atLeast_eq
  simp only [isLarge, hv, hw, bind, Except.bind, hatLeast, hatLeast']
  cases occurrences.le (.ofNat c.methods.length) <;> rfl

/-- Under limits that are numbers there is a result, which lists the clumps that reach them. -/
theorem exists_result {p : Project} {given : Entries} {occurrences size : Quantity}
    (hoccurrences : Thresholds.HasLimit ⟨given, detector.defaults⟩ "min_occurrences" occurrences)
    (hsize : Thresholds.HasLimit ⟨given, detector.defaults⟩ "min_clump_size" size) :
    ∃ r, detector.detect (.ofProject p) given = .ok (some r) ∧
      r.detail? "clumps" = some (.row ((frequent p occurrences size).map Clump.toValue)) ∧
      (r.detected = true ↔ frequent p occurrences size ≠ []) := by
  have hfindings : findings p ⟨given, detector.defaults⟩ =
      .ok ⟨frequent p occurrences size, p.classes.length⟩ := by
    rw [findings, filterM_eq_ok fun c _ ↦ isLarge_of_hasLimit hoccurrences hsize c]
    rfl
  have hverdict : detector.evaluate (.ofProject p) ⟨given, detector.defaults⟩ = .ok (some
      (let f : Findings := ⟨frequent p occurrences size, p.classes.length⟩
      ⟨!f.clumps.isEmpty, f.severity, Scope.location (.ofProject p),
        f.toValue ⟨given, detector.defaults⟩⟩)) := by
    simp only [detector] at hfindings ⊢
    rw [hfindings]
    rfl
  refine ⟨_, Detector.detect_eq_some_iff.mpr ⟨rfl, _, hverdict, rfl⟩, rfl, ?_⟩
  simp only [Verdict.result, Bool.not_eq_true', List.isEmpty_eq_false_iff]

/-- Data clumps are merged exactly, whatever the project, as long as the labels of its methods are
distinct; this holds of parameters and of own fields, each by themselves. Whatever the limits, if
they are numbers, the clumps that are reported are those that occur often enough and are large
enough. -/
theorem clumps_merged_exactly {p : Project} (hlabels : p.methodLabels.Nodup) :
    (∀ kind : Kind, MergesExactly p kind.namesOf ((allClumps p).filter (·.kind = kind))) ∧
    ∀ (given : Entries) (occurrences size : Quantity),
      Thresholds.HasLimit ⟨given, detector.defaults⟩ "min_occurrences" occurrences →
      Thresholds.HasLimit ⟨given, detector.defaults⟩ "min_clump_size" size →
      ∃ r, detector.detect (.ofProject p) given = .ok (some r) ∧
        r.detail? "clumps" = some (.row (((allClumps p).filter fun c ↦
          occurrences.le (.ofNat c.methods.length) &&
            size.le (.ofNat c.members.length)).map Clump.toValue)) := by
  refine ⟨fun kind ↦ ?_, fun given occurrences size hoccurrences hsize ↦ ?_⟩
  · rw [filter_kind_allClumps]
    exact mergesExactly_merge hlabels kind _
  · obtain ⟨r, hr, hclumps, -⟩ := exists_result hoccurrences hsize
    exact ⟨r, hr, hclumps⟩

/-- A method of so many parameters. -/
def drawing (name : String) (parameters : List String) : Method :=
  { (default : Method) with name := name, parameters := parameters.map (⟨·, none, none⟩) }

/-- A canvas on which three methods take the four bounds of an area, with some other methods. -/
def canvas (others : List Method) : Project :=
  { (default : Project) with
    classes := [{ (default : Class) with
      name := "Canvas"
      methods := [drawing "clear" ["x", "y", "w", "h"], drawing "fill" ["x", "y", "w", "h"],
        drawing "frame" ["x", "y", "w", "h"]] ++ others }]
    name := "game" }

/-- Limits of four names and three methods. -/
def atLeastFour : Entries :=
  [("min_clump_size", .whole 4), ("min_occurrences", .whole 3)]

theorem atLeastFour_size :
    Thresholds.HasLimit ⟨atLeastFour, detector.defaults⟩ "min_clump_size" (.ofNat 4) :=
  ⟨.whole 4, rfl, rfl⟩

theorem atLeastFour_occurrences :
    Thresholds.HasLimit ⟨atLeastFour, detector.defaults⟩ "min_occurrences" (.ofNat 3) :=
  ⟨.whole 3, rfl, rfl⟩

/-- Three names that are held by one method more than the fourth are a clump of their own, and are
left out when four are wanted. -/
theorem clumps_merged_exactly_canvas :
    let p := canvas [drawing "move" ["x", "y", "w"]]
    p.methodLabels.Nodup ∧
    MergesExactly p Kind.parameters.namesOf ((allClumps p).filter (·.kind = .parameters)) ∧
    (allClumps p).map (fun c ↦ (c.members, c.methods)) = [
      (["h", "w", "x", "y"], ["Canvas.clear", "Canvas.fill", "Canvas.frame"]),
      (["w", "x", "y"], ["Canvas.clear", "Canvas.fill", "Canvas.frame", "Canvas.move"])] ∧
    ∃ r, detector.detect (.ofProject p) atLeastFour = .ok (some r) ∧
      r.detail? "clumps" = some (.row [Clump.toValue ⟨["h", "w", "x", "y"], .parameters,
        ["Canvas.clear", "Canvas.fill", "Canvas.frame"]⟩]) := by
  intro p
  have hlabels : p.methodLabels.Nodup := by decide +kernel
  have hfrequent : frequent p (.ofNat 3) (.ofNat 4) = [⟨["h", "w", "x", "y"], .parameters,
      ["Canvas.clear", "Canvas.fill", "Canvas.frame"]⟩] := by
    decide +kernel
  obtain ⟨hmerged, hreported⟩ := clumps_merged_exactly hlabels
  obtain ⟨r, hr, hclumps⟩ := hreported _ _ _ atLeastFour_occurrences atLeastFour_size
  refine ⟨hlabels, hmerged .parameters, by decide +kernel, r, hr, ?_⟩
  rw [hclumps]
  exact congrArg (fun cs ↦ some (Value.row (cs.map Clump.toValue))) hfrequent

/-! ### Groups that recur -/

/-- At least so many names stand together in at least so many methods, as their parameters or as
fields of their own class. -/
def Recurs (p : Project) (size occurrences : ℕ) : Prop :=
  ∃ (kind : Kind) (group : Finset String),
    size ≤ group.card ∧ occurrences ≤ (holding p kind.namesOf group).length

/-- At least so many names stand together in at least so many methods, and each of them is one of
three of these names that no further method holds. -/
def RecursPinned (p : Project) (size occurrences : ℕ) : Prop :=
  ∃ (kind : Kind) (group : Finset String),
    size ≤ group.card ∧ occurrences ≤ (holding p kind.namesOf group).length ∧
    ∀ name ∈ group, ∃ three ⊆ group, three.card = 3 ∧ name ∈ three ∧
      holding p kind.namesOf three = holding p kind.namesOf group

section Recurs

variable {p : Project} {size occurrences : ℕ}

theorem RecursPinned.recurs (h : RecursPinned p size occurrences) : Recurs p size occurrences := by
  obtain ⟨kind, group, hsize, hoccurrences, -⟩ := h
  exact ⟨kind, group, hsize, hoccurrences⟩

/-- Three names are held by the methods that hold them. -/
theorem Recurs.pinned_three (h : Recurs p 3 occurrences) : RecursPinned p 3 occurrences := by
  obtain ⟨kind, group, hsize, hoccurrences⟩ := h
  obtain ⟨three, hsubset, hcard⟩ := Finset.exists_subset_card_eq hsize
  refine ⟨kind, three, hcard.ge, hoccurrences.trans (holding_anti hsubset).length_le,
    fun name hname ↦ ⟨three, Finset.Subset.rfl, hcard, hname, rfl⟩⟩

theorem mem_allClumps_iff {c : Clump} :
    c ∈ allClumps p ↔ ∃ kind : Kind, c ∈ merge kind (records p kind.namesOf) := by
  rw [allClumps, List.mem_append]
  constructor
  · rintro (hc | hc)
    · exact ⟨.parameters, hc⟩
    · exact ⟨.fields, hc⟩
  · rintro ⟨kind, hc⟩
    cases kind with
    | parameters => exact Or.inl hc
    | fields => exact Or.inr hc

theorem frequent_ne_nil_iff :
    frequent p (.ofNat occurrences) (.ofNat size) ≠ [] ↔ ∃ kind : Kind,
      ∃ c ∈ merge kind (records p kind.namesOf),
        occurrences ≤ c.methods.length ∧ size ≤ c.members.length := by
  simp only [frequent, ne_eq, List.filter_eq_nil_iff, not_forall, Bool.and_eq_true,
    Quantity.ofNat_le_ofNat, not_not, mem_allClumps_iff, exists_prop]
  exact ⟨fun ⟨c, ⟨kind, hc⟩, h⟩ ↦ ⟨kind, c, hc, h⟩, fun ⟨kind, c, hc, h⟩ ↦ ⟨c, ⟨kind, hc⟩, h⟩⟩

/-- A large clump is a pinned group that recurs. -/
theorem recursPinned_of_clump (hlabels : p.methodLabels.Nodup) {kind : Kind} {c : Clump}
    (hc : c ∈ merge kind (records p kind.namesOf)) (hoccurrences : occurrences ≤ c.methods.length)
    (hsize : size ≤ c.members.length) : RecursPinned p size occurrences := by
  have hholding := methods_eq_holding hlabels hc
  refine ⟨kind, c.members.toFinset, (card_members hc).symm ▸ hsize, hholding ▸ hoccurrences,
    fun name hname ↦ ?_⟩
  obtain ⟨three, hcard, hin, hmethods⟩ := (mem_members_iff hc).mp (List.mem_toFinset.mp hname)
  exact ⟨three, subset_members hc hcard hmethods, hcard, hin, hmethods.trans hholding⟩

/-- The triples that pin a group all go into the clump of the methods that hold the group. -/
theorem RecursPinned.exists_clump (h : RecursPinned p size occurrences) (hsize : 3 ≤ size)
    (hoccurrences : 1 ≤ occurrences) :
    ∃ kind : Kind, ∃ c ∈ merge kind (records p kind.namesOf),
      occurrences ≤ c.methods.length ∧ size ≤ c.members.length := by
  obtain ⟨kind, group, hcard, hoften, hpinned⟩ := h
  obtain ⟨name, hname⟩ : group.Nonempty := Finset.card_pos.mp (by omega)
  obtain ⟨three, -, hthree, -, hheld⟩ := hpinned name hname
  have htogether : Together p kind.namesOf three := by
    rw [← holding_ne_nil_iff, hheld, ← List.length_pos_iff]
    omega
  obtain ⟨c, hc, hmethods⟩ := DataClumps.exists_clump kind hthree htogether
  rw [hheld] at hmethods
  have hsubset : group ⊆ c.members.toFinset := by
    intro other hother
    obtain ⟨three', -, hthree', hin, hheld'⟩ := hpinned other hother
    exact subset_members hc hthree' (hheld'.trans hmethods.symm) hin
  refine ⟨kind, c, hc, hmethods ▸ hoften, hcard.trans ?_⟩
  rw [← card_members hc]
  exact Finset.card_le_card hsubset

end Recurs

/-- Which groups are detected, whatever the project, as long as the labels of its methods are
distinct, and whatever the limits, from three names and one method on. A clump is detected exactly if
a group recurs each of whose names is one of three of its names that no further method holds. So
nothing is detected where no group recurs; every group is detected when three names are enough; and
for more names, groups that recur are detected exactly as long as one of them is pinned like this. -/
theorem clumps_detected_iff {p : Project} (hlabels : p.methodLabels.Nodup) {given : Entries}
    {size occurrences : ℕ} (hsize : 3 ≤ size) (hoccurrences : 1 ≤ occurrences)
    (hsizeLimit :
      Thresholds.HasLimit ⟨given, detector.defaults⟩ "min_clump_size" (.ofNat size))
    (hoccurrencesLimit :
      Thresholds.HasLimit ⟨given, detector.defaults⟩ "min_occurrences" (.ofNat occurrences)) :
    ∃ r, detector.detect (.ofProject p) given = .ok (some r) ∧
      (r.detected = true ↔ RecursPinned p size occurrences) ∧
      (r.detected = true → Recurs p size occurrences) ∧
      (size = 3 → (r.detected = true ↔ Recurs p size occurrences)) ∧
      ((r.detected = true ↔ Recurs p size occurrences) ↔
        (Recurs p size occurrences → RecursPinned p size occurrences)) := by
  obtain ⟨r, hr, -, hfrequent⟩ := exists_result (p := p) hoccurrencesLimit hsizeLimit
  have hdetected : r.detected = true ↔ RecursPinned p size occurrences := by
    rw [hfrequent, frequent_ne_nil_iff]
    constructor
    · rintro ⟨kind, c, hc, hoften, hlarge⟩
      exact recursPinned_of_clump hlabels hc hoften hlarge
    · intro h
      exact h.exists_clump hsize hoccurrences
  refine ⟨r, hr, hdetected, fun h ↦ (hdetected.mp h).recurs, ?_, ?_⟩
  · rintro rfl
    exact hdetected.trans ⟨RecursPinned.recurs, Recurs.pinned_three⟩
  · rw [hdetected]
    exact ⟨fun h ↦ h.mpr, fun h ↦ ⟨RecursPinned.recurs, h⟩⟩

/-- Four bounds in three methods are detected as four, though three of them are also in a fourth
method: each of the four is one of three that are not. -/
theorem clumps_detected_iff_canvas :
    let p := canvas [drawing "move" ["x", "y", "w"]]
    p.methodLabels.Nodup ∧ RecursPinned p 4 3 ∧
      ∃ r, detector.detect (.ofProject p) atLeastFour = .ok (some r) ∧ r.detected = true := by
  intro p
  have hlabels : p.methodLabels.Nodup := by decide +kernel
  have hpinned : RecursPinned p 4 3 := by
    refine ⟨.parameters, {"x", "y", "w", "h"}, by decide, by decide +kernel, fun name hname ↦ ?_⟩
    have hcover : ∀ name ∈ ({"x", "y", "w", "h"} : Finset String),
        name ∈ ({"h", "w", "x"} : Finset String) ∨ name ∈ ({"h", "w", "y"} : Finset String) := by
      decide
    rcases hcover name hname with hin | hin
    · exact ⟨_, by decide, by decide, hin, by decide +kernel⟩
    · exact ⟨_, by decide, by decide, hin, by decide +kernel⟩
  obtain ⟨r, hr, hdetected, -⟩ := clumps_detected_iff hlabels (by decide) (by decide)
    atLeastFour_size atLeastFour_occurrences
  exact ⟨hlabels, hpinned, r, hr, hdetected.mpr hpinned⟩

/-- Four bounds in three methods are not detected when each three of them are also in a method of
their own. -/
theorem overlapping_group_missed :
    let p := canvas [drawing "move" ["x", "y", "w"], drawing "pan" ["x", "y", "h"],
      drawing "scale" ["x", "w", "h"], drawing "stack" ["y", "w", "h"]]
    p.methodLabels.Nodup ∧ Recurs p 4 3 ∧
      ∃ r, detector.detect (.ofProject p) atLeastFour = .ok (some r) ∧ r.detected = false := by
  intro p
  have hnone : frequent p (.ofNat 3) (.ofNat 4) = [] := by decide +kernel
  obtain ⟨r, hr, -, hdetected⟩ := exists_result (p := p) atLeastFour_occurrences atLeastFour_size
  refine ⟨by decide +kernel, ⟨.parameters, {"x", "y", "w", "h"}, by decide, by decide +kernel⟩, r,
    hr, ?_⟩
  rw [← Bool.not_eq_true, hdetected, not_not]
  exact hnone

end DataClumps

end CodeSmells
