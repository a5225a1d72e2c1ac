import CodeSmells.Metric.Coupling
import CodeSmells.Proofs.Grouping
import CodeSmells.Proofs.Model.Arrangement
import Mathlib.Data.Set.Card

/-!
# Coupling and dependencies

The dependencies of a class are gathered from the names that its calls and accesses lead to, and its
coupling is counted class by class from references in either direction. Both come to the same. A
bare call leads to no class, which the gathering writes as the empty name and the references as no
name at all; since a class has a name that is not empty (`named_of_build`), the dependencies are the
other classes that are referred to (`mem_dependencies_iff`), and coupling is dependence one way or
the other (`coupling_eq_ncard`).

Where names are distinct a name stands for one class, so coupling has no direction
(`couples_comm`), and adding up the couplings of all classes counts every coupled pair twice
(`total_coupling_eq`).
-/

set_option autoImplicit false
set_option relaxedAutoImplicit false

namespace CodeSmells

/-! ### Classes have names -/

/-- No class of a project has the empty name. -/
def Project.Named (p : Project) : Prop :=
  ∀ k ∈ p.classes, k.name ≠ ""

instance (p : Project) : Decidable p.Named :=
  inferInstanceAs (Decidable (∀ k ∈ p.classes, k.name ≠ ""))

theorem ClassParts.name_ne_of_build {d : ClassParts} {k : Class} (h : d.build = .ok k) :
    k.name ≠ "" := by
  simp only [ClassParts.build, bind_eq_ok_iff, pure_eq_ok_iff] at h
  obtain ⟨_, -, name, hname, _, -, _, -, _, -, _, -, _, -, rfl⟩ := h
  exact (identifier_eq_ok_iff.mp hname).2

/-- The classes of a project whose description was accepted have names. -/
theorem ProjectDraft.named_of_build {d : ProjectDraft} {p : Project} (h : d.build = .ok p) :
    p.Named := by
  intro k hk
  obtain ⟨parts, hbuilt⟩ := (ProjectDraft.exists_parts_of_build h).1 k hk
  exact ClassParts.name_ne_of_build hbuilt

namespace Class

variable {p : Project} {k : Class}

/-! ### Dependencies -/

theorem references_iff {name : String} :
    k.references name = true ↔ ∃ m ∈ k.methods,
      (∃ e ∈ m.calls, e.ownerName? = some name) ∨ ∃ a ∈ m.accesses, a.owner = name := by
  simp only [references, List.any_eq_true, Bool.or_eq_true, beq_iff_eq]

/-- Apart from the empty name, the names that a class leads to are those it refers to. -/
theorem mem_referenceNames_iff {name : String} (hname : name ≠ "") :
    name ∈ k.referenceNames ↔ k.references name = true := by
  have howner : ∀ e : CallEdge, e.ownerName?.getD "" = name ↔ e.ownerName? = some name := by
    intro e
    cases e.ownerName? with
    | none => simp [hname.symm]
    | some owner => simp
  simp only [referenceNames, references_iff, List.mem_flatMap, List.mem_append, List.mem_map,
    howner]

/-- A class depends on the other classes of the project that it refers to. -/
theorem mem_dependencies_iff (hp : p.Named) {name : String} :
    name ∈ k.dependencies p ↔
      name ∈ p.classNames ∧ name ≠ k.name ∧ k.references name = true := by
  simp only [dependencies, mem_sortedSet, List.mem_filter, Bool.and_eq_true, bne_iff_ne,
    List.contains_iff_mem]
  constructor
  · rintro ⟨href, hne, hclass⟩
    obtain ⟨j, hj, rfl⟩ := List.mem_map.mp hclass
    exact ⟨hclass, hne, (mem_referenceNames_iff (hp j hj)).mp href⟩
  · rintro ⟨hclass, hne, href⟩
    obtain ⟨j, hj, rfl⟩ := List.mem_map.mp hclass
    exact ⟨(mem_referenceNames_iff (hp j hj)).mpr href, hne, hclass⟩

theorem dependencies_pairwise (p : Project) (k : Class) :
    (k.dependencies p).Pairwise (· < ·) :=
  sortedSet_pairwise _

end Class

/-! ### Coupling -/

namespace Project

variable {p : Project} {j k : Class}

/-- Another name counts toward the coupling of a class: the class depends on it, or a class of that
name depends on the class. -/
def Couples (p : Project) (k : Class) (name : String) : Prop :=
  name ≠ k.name ∧
    (name ∈ k.dependencies p ∨ ∃ j ∈ p.classes, j.name = name ∧ k.name ∈ j.dependencies p)

instance (k : Class) (name : String) : Decidable (p.Couples k name) :=
  inferInstanceAs (Decidable (_ ∧ (_ ∨ ∃ j ∈ p.classes, _ ∧ _)))

/-- The classes that coupling is counted over are those whose names count. -/
theorem couples_iff (hp : p.Named) (hk : k ∈ p.classes) {name : String} :
    p.Couples k name ↔ ∃ j ∈ p.classes, j.name = name ∧
      (j.name != k.name && (k.references j.name || j.references k.name)) = true := by
  have hown : k.name ∈ p.classNames := List.mem_map_of_mem hk
  simp only [Couples, Class.mem_dependencies_iff hp, Bool.and_eq_true, Bool.or_eq_true,
    bne_iff_ne]
  constructor
  · rintro ⟨hne, ⟨hclass, -, href⟩ | ⟨j, hj, rfl, -, -, href⟩⟩
    · obtain ⟨j, hj, rfl⟩ := List.mem_map.mp hclass
      exact ⟨j, hj, rfl, hne, Or.inl href⟩
    · exact ⟨j, hj, rfl, hne, Or.inr href⟩
  · rintro ⟨j, hj, rfl, hne, href | href⟩
    · exact ⟨hne, Or.inl ⟨List.mem_map_of_mem hj, hne, href⟩⟩
    · exact ⟨hne, Or.inr ⟨j, hj, rfl, hown, hne.symm, href⟩⟩

/-- Coupling is the number of names that count toward it. -/
theorem coupling_eq_ncard (hp : p.Named) (hk : k ∈ p.classes) :
    k.coupling p.classes = {name | p.Couples k name}.ncard := by
  have hset : {name | p.Couples k name} = ((p.classes.filter fun other ↦
      other.name != k.name && (k.references other.name || other.references k.name)).map
        (·.name)).eraseDups.toFinset := by
    ext name
    simp only [Set.mem_ofPred_eq, couples_iff hp hk, List.coe_toFinset, List.mem_eraseDups,
      List.mem_map, List.mem_filter, and_assoc]
    exact exists_congr fun j ↦ and_congr_right fun _ ↦ and_comm
  rw [hset, Set.ncard_coe_finset, List.toFinset_card_of_nodup (eraseDups_nodup _)]
  rfl

/-- Where names are distinct, a name counts toward coupling by the one class that has it. -/
theorem couples_name_iff (hnames : p.classNames.Nodup) (hj : j ∈ p.classes) :
    p.Couples k j.name ↔
      j.name ≠ k.name ∧ (j.name ∈ k.dependencies p ∨ k.name ∈ j.dependencies p) := by
  refine and_congr_right fun _ ↦ or_congr_right ⟨?_, fun h ↦ ⟨j, hj, rfl, h⟩⟩
  rintro ⟨i, hi, hname, h⟩
  rwa [List.inj_on_of_nodup_map hnames hi hj hname] at h

/-- Where names are distinct, coupling has no direction. -/
theorem couples_comm (hnames : p.classNames.Nodup) (hj : j ∈ p.classes) (hk : k ∈ p.classes) :
    p.Couples k j.name ↔ p.Couples j k.name := by
  rw [couples_name_iff hnames hj, couples_name_iff hnames hk, ne_comm, or_comm]

/-- Where names are distinct, the names that count toward coupling are counted class by class. -/
theorem coupling_eq_countP (hp : p.Named) (hnames : p.classNames.Nodup) (hk : k ∈ p.classes) :
    k.coupling p.classes = p.classes.countP fun j ↦ p.Couples k j.name := by
  have hset : {name | p.Couples k name} =
      ((p.classes.filter fun j ↦ p.Couples k j.name).map (·.name)).toFinset := by
    ext name
    simp only [Set.mem_ofPred_eq, List.coe_toFinset, List.mem_map, List.mem_filter,
      decide_eq_true_iff]
    constructor
    · intro h
      obtain ⟨j, hj, rfl, -⟩ := (couples_iff hp hk).mp h
      exact ⟨j, ⟨hj, h⟩, rfl⟩
    · rintro ⟨j, ⟨-, h⟩, rfl⟩
      exact h
  have hdistinct : ((p.classes.filter fun j ↦ p.Couples k j.name).map (·.name)).Nodup :=
    hnames.sublist (List.filter_sublist.map _)
  rw [coupling_eq_ncard hp hk, hset, Set.ncard_coe_finset, List.toFinset_card_of_nodup hdistinct,
    List.length_map, List.countP_eq_length_filter]

/-- Where names are distinct, the couplings of all classes count every coupled pair twice. -/
theorem total_coupling_eq (hp : p.Named) (hnames : p.classNames.Nodup) :
    total (p.classes.map fun k ↦ k.coupling p.classes) =
      2 * (pairs p.classes).countP fun e ↦ p.Couples e.1 e.2.name := by
  have hcounts : (p.classes.map fun k ↦ k.coupling p.classes) =
      p.classes.map fun k ↦ p.classes.countP fun j ↦ p.Couples k j.name :=
    List.map_congr_left fun k hk ↦ coupling_eq_countP hp hnames hk
  have hsymm : ∀ k ∈ p.classes, ∀ j ∈ p.classes,
      decide (p.Couples k j.name) = decide (p.Couples j k.name) := fun k hk j hj ↦
    decide_eq_decide.mpr (couples_comm hnames hj hk)
  have hself : ∀ k ∈ p.classes, decide (p.Couples k k.name) = false := fun k _ ↦
    decide_eq_false fun h ↦ h.1 rfl
  rw [hcounts]
  exact total_map_countP hsymm hself

/-- Coupling and dependencies agree, whatever the project. The dependencies of a class are in
increasing order, each once, the names of other classes of the project that it refers to, and its
coupling is the number of other names on which it depends or of which some class depends on it. Where
the names of classes are distinct, one class counts toward the coupling of another exactly when that
one counts toward its own, and all couplings together are twice the number of coupled pairs. -/
theorem coupling_agrees_with_dependencies {p : Project} (hp : p.Named) :
    (∀ k ∈ p.classes,
      (k.dependencies p).Pairwise (· < ·) ∧
      (∀ name, name ∈ k.dependencies p ↔
        name ∈ p.classNames ∧ name ≠ k.name ∧ k.references name = true) ∧
      k.coupling p.classes = {name | p.Couples k name}.ncard) ∧
    (p.classNames.Nodup →
      (∀ j ∈ p.classes, ∀ k ∈ p.classes, p.Couples k j.name ↔ p.Couples j k.name) ∧
      total (p.classes.map fun k ↦ k.coupling p.classes) =
        2 * (pairs p.classes).countP fun e ↦ p.Couples e.1 e.2.name) := by
  refine ⟨fun k hk ↦ ⟨k.dependencies_pairwise p, fun name ↦ ?_, coupling_eq_ncard hp hk⟩,
    fun hnames ↦ ⟨fun j hj k hk ↦ couples_comm hnames hj hk, total_coupling_eq hp hnames⟩⟩
  exact Class.mem_dependencies_iff hp

/-- A class as described by the calls and accesses of its only method. -/
def stallDraft (name : String) (calls accesses : List PairDraft) : ClassDraft :=
  .made {
    name := .text name
    fields := none
    methods := [.made {
      name := .text "work"
      parameters := []
      lines := []
      calls := calls
      accesses := accesses
      startLine := none }]
    parent := .null
    exportedFields := none
    autoload := false
    filePath := none
    typedFields := none }

/-- A shop that reaches for the drawer of its till, calls itself and looks at its own goods, a clerk
who looks at the goods, and a street. -/
def marketDraft : ProjectDraft where
  name := "market"
  classes := [
    stallDraft "Shop" [.pair "Shop" "Till.drawer.count", .pair "Shop" "restock"]
      [.pair "Shop" "goods"],
    stallDraft "Till" [] [],
    stallDraft "Clerk" [] [.pair "Shop" "goods"],
    stallDraft "Street" [] []]
  scenes := []
  autoloads := none
  signals := []

/-- The shop is coupled to its till and to the clerk, the street to nothing, and there are two
coupled pairs. -/
theorem coupling_agrees_with_dependencies_market :
    ∃ p, marketDraft.build = .ok p ∧ p.Named ∧ p.classNames.Nodup ∧
      p.classes.map (·.dependencies p) = [["Till"], [], ["Shop"], []] ∧
      p.classes.map (·.coupling p.classes) = [2, 1, 1, 0] ∧
      (∀ k ∈ p.classes, k.coupling p.classes = {name | p.Couples k name}.ncard) ∧
      (pairs p.classes).countP (fun e ↦ p.Couples e.1 e.2.name) = 2 := by
  refine ⟨_, rfl, ?_⟩
  generalize hp : (Project.mk _ _ _ _ _) = p
  have hbuilt : marketDraft.build = .ok p := hp ▸ rfl
  have hnamed : p.Named := ProjectDraft.named_of_build hbuilt
  have hnames : p.classNames.Nodup := by
    subst hp
    decide
  have hcouplings : p.classes.map (·.coupling p.classes) = [2, 1, 1, 0] := by
    subst hp
    decide +kernel
  obtain ⟨hclasses, hdistinct⟩ := coupling_agrees_with_dependencies hnamed
  have htotal := (hdistinct hnames).2
  rw [hcouplings] at htotal
  refine ⟨hnamed, hnames, ?_, hcouplings, fun k hk ↦ (hclasses k hk).2.2, ?_⟩
  · subst hp
    decide +kernel
  · have htwice : total [2, 1, 1, 0] = 4 := rfl
    omega

end Project

end CodeSmells
