import CodeSmells.Detector.DivergentChange
import CodeSmells.Proofs.Detector.Comparison
import Mathlib.Data.Finset.Card
import Mathlib.Data.List.Forall2
import Mathlib.Data.List.Sort

/-!
# The reasons for which a class changes

The name of a method puts it into at most one group, and a group of two or more methods is a reason.
Names may be repeated in a class, so the methods of a reason are told apart by their positions:
`positions k g` are those of a group in order, `groupMethods_eq` reads the methods of the group off
them, and `disjoint_positions` keeps two groups apart. A position belongs to a reason when another
position has the same group (`two_le_length_positions_iff`).

`reasons_partition_methods` puts this together. The reasons that groups give stand at disjoint
increasing positions, each at two or more, and those are the positions whose group is shared. The
unorganized reason is there when no group gives one and the class has more than five methods, and
then it is alone. As there are six groups there are never more than six reasons, and the grade that
takes more than seven is never given.
-/

set_option autoImplicit false
set_option relaxedAutoImplicit false

namespace CodeSmells.DivergentChange

/-! ### Positions of methods -/

section Positions

variable (k : Class)

/-- The group of the method at a position. -/
def groupAt (i : Fin k.methods.length) : Option Group :=
  changeGroup k.methods[i].name

/-- The positions of the methods of a group, in order. -/
def positions (g : Group) : List (Fin k.methods.length) :=
  (List.finRange k.methods.length).filter fun i ↦ groupAt k i == some g

variable {k}

theorem mem_positions {g : Group} {i : Fin k.methods.length} :
    i ∈ positions k g ↔ groupAt k i = some g := by
  rw [positions, List.mem_filter, beq_iff_eq]
  exact and_iff_right (List.mem_finRange i)

theorem positions_pairwise (g : Group) : (positions k g).Pairwise (· < ·) :=
  (List.sortedLT_finRange _).pairwise.filter _

/-- The methods of a group stand at its positions. -/
theorem groupMethods_eq (g : Group) :
    groupMethods k g = (positions k g).map fun i ↦ k.methods[i] := by
  have hall : k.methods = (List.finRange k.methods.length).map fun i ↦ k.methods[i] :=
    (List.map_getElem_finRange k.methods).symm
  have hfilter := congrArg (List.filter fun m : Method ↦ changeGroup m.name == some g) hall
  rwa [List.filter_map] at hfilter

/-- No position belongs to two groups. -/
theorem disjoint_positions {g g' : Group} (h : g ≠ g') :
    (positions k g).Disjoint (positions k g') := by
  intro i hi hi'
  rw [mem_positions] at hi hi'
  exact h (Option.some.inj (hi.symm.trans hi'))

/-- The group of a position has two or more members when another position has it too. -/
theorem two_le_length_positions_iff {g : Group} {i : Fin k.methods.length}
    (hi : i ∈ positions k g) :
    2 ≤ (positions k g).length ↔ ∃ j, j ≠ i ∧ j ∈ positions k g := by
  have hnodup : (positions k g).Nodup := (List.nodup_finRange _).filter _
  rw [← List.toFinset_card_of_nodup hnodup]
  constructor
  · intro htwo
    obtain ⟨j, hj, hne⟩ := Finset.exists_mem_ne htwo i
    exact ⟨j, hne, List.mem_toFinset.mp hj⟩
  · rintro ⟨j, hne, hj⟩
    exact Finset.one_lt_card.mpr
      ⟨j, List.mem_toFinset.mpr hj, i, List.mem_toFinset.mpr hi, hne⟩

end Positions

/-! ### Reasons from groups -/

/-- A reason that a group gives stands at the positions of its methods: two or more in order, all of
the group that the reason is named for. -/
structure StandsAt (k : Class) (r : Reason) (is : List (Fin k.methods.length)) : Prop where
  increasing : is.Pairwise (· < ·)
  several : 2 ≤ is.length
  methods : r.methods = is.map fun i ↦ k.methods[i].name
  counted : r.methodCount = r.methods.length
  group : ∃ g : Group, r.description = g.name ++ " functionality" ∧ ∀ i ∈ is, groupAt k i = some g

/-- The groups that give a reason. -/
def reasonGroups (k : Class) : List Group :=
  Group.all.filter fun g ↦ (groupMethods k g).length ≥ 2

theorem Group.mem_all (g : Group) : g ∈ Group.all := by
  cases g <;> decide

theorem mem_reasonGroups {k : Class} {g : Group} :
    g ∈ reasonGroups k ↔ 2 ≤ (positions k g).length := by
  rw [reasonGroups, List.mem_filter, decide_eq_true_eq, groupMethods_eq, List.length_map]
  exact and_iff_right g.mem_all

/-- Every reason that a group gives stands at the positions of the group. -/
theorem groupedReasons_standAt (k : Class) :
    List.Forall₂ (StandsAt k) (groupedReasons k) ((reasonGroups k).map (positions k)) := by
  rw [groupedReasons, List.forall₂_map_left_iff, List.forall₂_map_right_iff, ← reasonGroups,
    List.forall₂_same]
  intro g hg
  refine ⟨positions_pairwise g, mem_reasonGroups.mp hg, ?_, ?_, g, rfl, fun i ↦ mem_positions.mp⟩
  · show (groupMethods k g).map (·.name) = _
    rw [groupMethods_eq, List.map_map]
    rfl
  · exact (List.length_map _).symm

/-- The positions of different reasons are disjoint. -/
theorem reasonGroups_disjoint (k : Class) :
    ((reasonGroups k).map (positions k)).Pairwise List.Disjoint := by
  have hnodup : (reasonGroups k).Nodup :=
    List.Nodup.filter _ (show Group.all.Nodup by decide)
  exact List.pairwise_map.mpr (hnodup.imp disjoint_positions)

/-- A position belongs to a reason exactly when it has a group and another position has the same. -/
theorem exists_mem_reasonGroups_iff {k : Class} (i : Fin k.methods.length) :
    (∃ is ∈ (reasonGroups k).map (positions k), i ∈ is) ↔
      (groupAt k i).isSome ∧ ∃ j, j ≠ i ∧ groupAt k j = groupAt k i := by
  constructor
  · intro h
    obtain ⟨is, his, hi⟩ := h
    obtain ⟨g, hg, rfl⟩ := List.mem_map.mp his
    obtain ⟨j, hne, hj⟩ := (two_le_length_positions_iff hi).mp (mem_reasonGroups.mp hg)
    rw [mem_positions] at hi hj
    exact ⟨hi ▸ rfl, j, hne, hj.trans hi.symm⟩
  · rintro ⟨hsome, j, hne, hj⟩
    obtain ⟨g, hg⟩ := Option.isSome_iff_exists.mp hsome
    have hi : i ∈ positions k g := mem_positions.mpr hg
    have hmany := (two_le_length_positions_iff hi).mpr ⟨j, hne, mem_positions.mpr (hj.trans hg)⟩
    exact ⟨_, List.mem_map_of_mem (mem_reasonGroups.mpr hmany), hi⟩

/-! ### The unorganized reason -/

/-- A class whose methods form no group, and that has more than five of them. -/
def Unorganized (k : Class) : Prop :=
  groupedReasons k = [] ∧ 5 < k.methods.length

theorem changeReasons_of_unorganized {k : Class} (h : Unorganized k) :
    changeReasons k =
      [⟨"unorganized functionality", k.methodNames, k.fieldNames, k.methodCount⟩] := by
  have hmany : k.methodCount > 5 := h.2
  simp only [changeReasons, h.1, List.isEmpty_nil, hmany, decide_true, Bool.and_self, ↓reduceIte]

theorem changeReasons_of_not_unorganized {k : Class} (h : ¬ Unorganized k) :
    changeReasons k = groupedReasons k := by
  refine if_neg fun hboth ↦ h ?_
  rw [Bool.and_eq_true, List.isEmpty_iff, decide_eq_true_eq] at hboth
  exact hboth

/-- No reason that a group gives is named like the unorganized one. -/
theorem description_ne_unorganized {k : Class} {r : Reason} (hr : r ∈ groupedReasons k) :
    r.description ≠ "unorganized functionality" := by
  have hnames : ∀ g : Group, g.name ++ " functionality" ≠ "unorganized functionality" := by
    intro g
    cases g <;> decide
  obtain ⟨g, -, rfl⟩ := List.mem_map.mp hr
  exact hnames g

/-- The unorganized reason is given exactly for an unorganized class. -/
theorem exists_unorganized_iff (k : Class) :
    (∃ r ∈ changeReasons k, r.description = "unorganized functionality") ↔ Unorganized k := by
  constructor
  · rintro ⟨r, hr, hname⟩
    by_contra hnot
    rw [changeReasons_of_not_unorganized hnot] at hr
    exact description_ne_unorganized hr hname
  · intro h
    rw [changeReasons_of_unorganized h]
    exact ⟨_, List.mem_singleton_self _, rfl⟩

/-! ### How many reasons there are -/

theorem length_changeReasons_le (k : Class) : (changeReasons k).length ≤ 6 := by
  by_cases h : Unorganized k
  · rw [changeReasons_of_unorganized h]
    exact Nat.succ_le_succ (Nat.zero_le 5)
  · rw [changeReasons_of_not_unorganized h, groupedReasons, List.length_map]
    exact List.length_filter_le _ Group.all

/-- Six reasons are too few for the gravest grade. -/
theorem severity_ne_critical {f : Findings} (h : f.reasons.length ≤ 6) :
    f.severity ≠ .critical := by
  have hfew : ¬ f.reasons.length > 7 := by omega
  unfold Findings.severity
  rw [decide_eq_false hfew]
  cases decide (f.reasons.length > 5) <;> cases decide (f.reasons.length > 3) <;> decide

/-- A result on a class is never critical. -/
theorem result_ne_critical {k : Class} {p : Project} {path : Option String} {given : Entries}
    {r : Result} (h : detector.detect (.ofClass k p path) given = .ok (some r)) :
    r.severity ≠ some .critical := by
  obtain ⟨-, v, hv, rfl⟩ := Detector.detect_eq_some_iff.mp h
  obtain ⟨found, -, hv⟩ := bind_eq_ok_iff.mp hv
  cases hv
  have hgrade : (findings k).severity ≠ .critical :=
    severity_ne_critical (length_changeReasons_le k)
  cases found with
  | false => exact nofun
  | true => exact fun hcritical ↦ hgrade (Option.some.inj hcritical)

/-- The reasons of a class. Those that groups give stand at increasing positions of its methods, two
or more for each reason, and no position in two of them; a position is in one exactly when its
method has a group that another method has too. The unorganized reason is given exactly when there
is no such reason and there are more than five methods; then it is the only one and lists every
method, and otherwise only groups give reasons. There are at most six reasons, so that no result is
critical under any thresholds. -/
theorem reasons_partition_methods (k : Class) :
    (∃ places : List (List (Fin k.methods.length)),
      List.Forall₂ (StandsAt k) (groupedReasons k) places ∧
      places.Pairwise List.Disjoint ∧
      ∀ i, (∃ is ∈ places, i ∈ is) ↔
        (groupAt k i).isSome ∧ ∃ j, j ≠ i ∧ groupAt k j = groupAt k i) ∧
    ((∃ r ∈ changeReasons k, r.description = "unorganized functionality") ↔
      groupedReasons k = [] ∧ 5 < k.methods.length) ∧
    (∀ r ∈ changeReasons k, r.description = "unorganized functionality" →
      changeReasons k = [r] ∧ r.methods = k.methods.map (·.name) ∧
        r.methodCount = r.methods.length) ∧
    (¬ (groupedReasons k = [] ∧ 5 < k.methods.length) → changeReasons k = groupedReasons k) ∧
    (changeReasons k).length ≤ 6 ∧
    ∀ (p : Project) (path : Option String) (given : Entries) (r : Result),
      detector.detect (.ofClass k p path) given = .ok (some r) → r.severity ≠ some .critical := by
  refine ⟨⟨(reasonGroups k).map (positions k), groupedReasons_standAt k, reasonGroups_disjoint k,
    exists_mem_reasonGroups_iff⟩, exists_unorganized_iff k, ?_, changeReasons_of_not_unorganized,
    length_changeReasons_le k, fun p path given r ↦ result_ne_critical⟩
  intro r hr hname
  have hunorganized : Unorganized k := (exists_unorganized_iff k).mp ⟨r, hr, hname⟩
  rw [changeReasons_of_unorganized hunorganized] at hr ⊢
  obtain rfl := List.mem_singleton.mp hr
  exact ⟨rfl, rfl, (List.length_map _).symm⟩

end CodeSmells.DivergentChange
