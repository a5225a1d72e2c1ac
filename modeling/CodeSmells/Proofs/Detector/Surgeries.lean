import CodeSmells.Proofs.Detector.ClumpGroups

/-!
# Whose change affects many classes

A surgery is reported for a class that depends on too many others and for a method that too many
other classes call. The calls of a project are gathered class by class and call by call, as pairs of
a called method and a calling class, so a class that calls a method often stands there often.
`callers` says without any order whom a method is called by: the names of the classes, other than
its owner's, that have a method with a call that means it. The gathered pairs come to just that
(`callersOf_eq_sort`), and the methods they name are those that are called at all
(`mem_calledMethods_iff`).

`surgeries_reported_exactly` says which surgeries are reported, whatever the project and whatever
limits that are numbers. A method that nothing else calls is in no pair. It is not reported,
although no callers are more than a limit below nought allows (`uncalled_method_unreported`); under
any other limit a method with too many callers has callers.
-/

set_option autoImplicit false
set_option relaxedAutoImplicit false

namespace CodeSmells.ShotgunSurgery

variable {p : Project} {ref : MethodRef}

/-! ### Callers -/

/-- A class calls a method if one of its own methods has a call that means it. -/
def Calls (p : Project) (k : Class) (ref : MethodRef) : Prop :=
  ∃ m ∈ k.methods, ∃ e ∈ m.calls, p.resolveCallee e = some (ref.owner, ref.method)

instance (p : Project) (k : Class) (ref : MethodRef) : Decidable (Calls p k ref) :=
  inferInstanceAs (Decidable (∃ m ∈ k.methods, ∃ e ∈ m.calls, _))

/-- The names of the classes that call a method, without the name of its owner. -/
def callers (p : Project) (ref : MethodRef) : Finset String :=
  ((p.classes.filter fun k ↦ Calls p k ref).map (·.name)).toFinset.erase ref.owner

theorem mem_callers_iff {name : String} :
    name ∈ callers p ref ↔ name ≠ ref.owner ∧ ∃ k ∈ p.classes, k.name = name ∧ Calls p k ref := by
  simp only [callers, Finset.mem_erase, List.mem_toFinset, List.mem_map, List.mem_filter,
    decide_eq_true_iff]
  exact and_congr_right fun _ ↦ exists_congr fun k ↦ by tauto

theorem mem_foreignCallees_iff {k : Class} :
    ref ∈ foreignCallees p k ↔ k.name ≠ ref.owner ∧ Calls p k ref := by
  simp only [foreignCallees, Calls, List.mem_filterMap, List.mem_flatMap]
  constructor
  · rintro ⟨e, ⟨m, hm, he⟩, hmeans⟩
    split at hmeans
    · next owner method hcallee =>
      split at hmeans
      · cases hmeans
      · next hforeign =>
        cases hmeans
        exact ⟨fun hown ↦ hforeign (beq_iff_eq.mpr hown.symm), m, hm, e, he, hcallee⟩
    · cases hmeans
  · rintro ⟨hforeign, m, hm, e, he, hcallee⟩
    refine ⟨e, ⟨m, hm, he⟩, ?_⟩
    simp only [hcallee, beq_iff_eq, hforeign.symm, ↓reduceIte]

theorem mem_callPairs_iff {name : String} :
    (ref, name) ∈ callPairs p ↔ name ∈ callers p ref := by
  simp only [callPairs, List.mem_flatMap, List.mem_map, Prod.mk.injEq, mem_callers_iff]
  constructor
  · rintro ⟨k, hk, _, hcallee, rfl, rfl⟩
    obtain ⟨hforeign, hcalls⟩ := mem_foreignCallees_iff.mp hcallee
    exact ⟨hforeign, k, hk, rfl, hcalls⟩
  · rintro ⟨hforeign, k, hk, rfl, hcalls⟩
    exact ⟨k, hk, ref, mem_foreignCallees_iff.mpr ⟨hforeign, hcalls⟩, rfl, rfl⟩

/-- However often a class calls a method, it is listed once among the callers, in order. -/
theorem callersOf_eq_sort : callersOf (callPairs p) ref = (callers p ref).sort := by
  have hmem : (callersOf (callPairs p) ref).toFinset = callers p ref := by
    ext name
    simp only [callersOf, List.mem_toFinset, mem_sortedSet, List.mem_map, List.mem_filter,
      beq_iff_eq, ← mem_callPairs_iff]
    constructor
    · rintro ⟨⟨_, _⟩, ⟨hpair, rfl⟩, rfl⟩
      exact hpair
    · intro hpair
      exact ⟨(ref, name), ⟨hpair, rfl⟩, rfl⟩
  have hsorted : (callersOf (callPairs p) ref).Pairwise (· < ·) := sortedSet_pairwise _
  rw [← hmem]
  exact ((List.toFinset_sort (r := (· ≤ ·)) hsorted.nodup).mpr (hsorted.imp le_of_lt)).symm

variable (p) in
/-- The methods that other classes call, in order. -/
def calledMethods : List MethodRef :=
  sortedSet ((callPairs p).map (·.1))

theorem mem_calledMethods_iff : ref ∈ calledMethods p ↔ (callers p ref).Nonempty := by
  simp only [calledMethods, mem_sortedSet, List.mem_map, Finset.Nonempty, ← mem_callPairs_iff]
  constructor
  · rintro ⟨⟨_, name⟩, hpair, rfl⟩
    exact ⟨name, hpair⟩
  · rintro ⟨name, hpair⟩
    exact ⟨_, hpair, rfl⟩

/-! ### What is reported -/

/-- A surgery in a report. -/
def Surgery.toValue (s : Surgery) : Value :=
  .table [
    ("kind", .text s.kind.name),
    ("subject", .text s.subject),
    ("affected_classes", .texts s.affected)]

/-- The surgery of a class: it affects the classes that the class depends on. -/
def ofClass (p : Project) (k : Class) : Surgery :=
  ⟨.classReferences, k.name, k.dependencies p⟩

/-- The surgery of a method: it affects the classes that call it. -/
def ofMethod (p : Project) (ref : MethodRef) : Surgery :=
  ⟨.methodCallers, ref.owner ++ "." ++ ref.method, (callers p ref).sort⟩

variable (p) in
/-- The classes that depend on more classes than a limit allows. -/
def wideClasses (limit : Quantity) : List Class :=
  p.classes.filter fun k ↦ limit.lt (.ofNat (k.dependencies p).length)

variable (p) in
/-- The called methods with more callers than a limit allows. -/
def wideMethods (limit : Quantity) : List MethodRef :=
  (calledMethods p).filter fun ref ↦ limit.lt (.ofNat (callers p ref).card)

theorem wideMethods_pairwise (limit : Quantity) : (wideMethods p limit).Pairwise (· < ·) :=
  (sortedSet_pairwise _).filter _

theorem mem_wideMethods_iff {limit : Quantity} : ref ∈ wideMethods p limit ↔
    (callers p ref).Nonempty ∧ limit.lt (.ofNat (callers p ref).card) = true := by
  rw [wideMethods, List.mem_filter, mem_calledMethods_iff]

/-- A method that more classes call than a limit allows is called, unless the limit is below
nought. -/
theorem nonempty_callers {limit : Quantity} (hlimit : limit.lt (.ofNat 0) = false)
    (h : limit.lt (.ofNat (callers p ref).card) = true) : (callers p ref).Nonempty := by
  rw [Finset.nonempty_iff_ne_empty]
  intro hnone
  rw [hnone, Finset.card_empty, hlimit] at h
  cases h

theorem methodCandidates_eq : methodCandidates p = (calledMethods p).map (ofMethod p) :=
  List.map_congr_left fun ref _ ↦ by rw [callersOf_eq_sort]; rfl

theorem findings_eq {t : Thresholds} {maxClasses maxCallers : Quantity}
    (hclasses : t.HasLimit "max_classes" maxClasses)
    (hcallers : t.HasLimit "max_caller_classes" maxCallers) :
    findings p t = .ok ⟨(wideClasses p maxClasses).map (ofClass p) ++
      (wideMethods p maxCallers).map (ofMethod p)⟩ := by
  obtain ⟨v, hv, habove⟩ := hclasses.above_eq
  obtain ⟨w, hw, habove'⟩ := hcallers.above_eq
  have hofClasses :
      ((classCandidates p).filterM fun s ↦ Measured.above (s.affected.length : ℕ) v) =
        .ok ((wideClasses p maxClasses).map (ofClass p)) := by
    rw [filterM_eq_ok fun s _ ↦ habove _, classCandidates, List.filter_map]
    rfl
  have hofMethods :
      ((methodCandidates p).filterM fun s ↦ Measured.above (s.affected.length : ℕ) w) =
        .ok ((wideMethods p maxCallers).map (ofMethod p)) := by
    rw [filterM_eq_ok fun s _ ↦ habove' _, methodCandidates_eq, List.filter_map]
    simp only [Function.comp_def, ofMethod, Finset.length_sort]
    rfl
  rw [findings, hv, hw]
  simp only [bind, Except.bind, hofClasses, hofMethods]
  rfl

/-- Under limits that are numbers there is a result. It lists the surgeries of the wide classes and
of the wide methods, and says how many classes the worst of them affects. -/
theorem exists_result {given : Entries} {maxClasses maxCallers : Quantity}
    (hclasses : Thresholds.HasLimit ⟨given, detector.defaults⟩ "max_classes" maxClasses)
    (hcallers : Thresholds.HasLimit ⟨given, detector.defaults⟩ "max_caller_classes" maxCallers) :
    let surgeries := (wideClasses p maxClasses).map (ofClass p) ++
      (wideMethods p maxCallers).map (ofMethod p)
    ∃ r, detector.detect (.ofProject p) given = .ok (some r) ∧
      r.detail? "surgeries" = some (.row (surgeries.map Surgery.toValue)) ∧
      (r.detected = true ↔ surgeries ≠ []) ∧
      r.detail? "max_affected_classes" =
        some (.count (greatest (surgeries.map (·.affected.length)))) := by
  intro surgeries
  have hverdict : detector.evaluate (.ofProject p) ⟨given, detector.defaults⟩ = .ok (some
      (let f : Findings := ⟨surgeries⟩
      ⟨!f.surgeries.isEmpty, f.severity, Scope.location (.ofProject p),
        f.toValue ⟨given, detector.defaults⟩⟩)) := by
    have hfindings := findings_eq (p := p) hclasses hcallers
    simp only [detector] at hfindings ⊢
    rw [hfindings]
    rfl
  refine ⟨_, Detector.detect_eq_some_iff.mpr ⟨rfl, _, hverdict, rfl⟩, rfl, ?_, rfl⟩
  simp only [Verdict.result, Bool.not_eq_true', List.isEmpty_eq_false_iff]

/-- Which surgeries are reported, whatever the project and whatever the limits, if they are numbers.
First come, in the order of the project, the classes that depend on more classes than their limit
allows, each with its dependencies. Then come, each once and ordered by owner and name, the methods
that are called by other classes, and by more than their limit allows, each with its callers in
order; that they are called goes without saying unless the limit is below nought. The smell is
detected exactly if something is reported, and the number of classes that are affected at worst is
the greatest of those reported, nought if nothing is. -/
theorem surgeries_reported_exactly (p : Project) {given : Entries}
    {maxClasses maxCallers : Quantity}
    (hclasses : Thresholds.HasLimit ⟨given, detector.defaults⟩ "max_classes" maxClasses)
    (hcallers : Thresholds.HasLimit ⟨given, detector.defaults⟩ "max_caller_classes" maxCallers) :
    ∃ (r : Result) (refs : List MethodRef) (surgeries : List Surgery) (worst : ℕ),
      detector.detect (.ofProject p) given = .ok (some r) ∧
      refs.Pairwise (· < ·) ∧
      (∀ ref, ref ∈ refs ↔
        (callers p ref).Nonempty ∧ maxCallers.lt (.ofNat (callers p ref).card) = true) ∧
      (maxCallers.lt (.ofNat 0) = false →
        ∀ ref, ref ∈ refs ↔ maxCallers.lt (.ofNat (callers p ref).card) = true) ∧
      surgeries =
        (p.classes.filter fun k ↦ maxClasses.lt (.ofNat (k.dependencies p).length)).map
          (ofClass p) ++ refs.map (ofMethod p) ∧
      r.detail? "surgeries" = some (.row (surgeries.map Surgery.toValue)) ∧
      (r.detected = true ↔ surgeries ≠ []) ∧
      r.detail? "max_affected_classes" = some (.count worst) ∧
      (∀ s ∈ surgeries, s.affected.length ≤ worst) ∧
      (worst = 0 ∨ ∃ s ∈ surgeries, s.affected.length = worst) := by
  obtain ⟨r, hr, hsurgeries, hdetected, hworst⟩ := exists_result (p := p) hclasses hcallers
  refine ⟨r, wideMethods p maxCallers, _, _, hr, wideMethods_pairwise _,
    fun ref ↦ mem_wideMethods_iff, fun hlimit ref ↦ ?_, rfl, hsurgeries, hdetected, hworst,
    fun s hs ↦ le_greatest (List.mem_map_of_mem hs), ?_⟩
  · rw [mem_wideMethods_iff]
    exact ⟨fun h ↦ h.2, fun h ↦ ⟨nonempty_callers hlimit h, h⟩⟩
  · by_cases hnone : (wideClasses p maxClasses).map (ofClass p) ++
        (wideMethods p maxCallers).map (ofMethod p) = []
    · rw [hnone]
      exact Or.inl rfl
    · exact Or.inr (List.mem_map.mp (greatest_mem (List.map_eq_nil_iff.not.mpr hnone)))

/-- A class with the calls of its methods. -/
def calling (name : String) (methods : List (String × List String)) : Class :=
  { (default : Class) with
    name := name
    methods := methods.map fun m ↦ { (default : Method) with
      name := m.1, calls := m.2.map fun callee ↦ ⟨name, callee⟩ } }

/-- Statistics that recalculate themselves, an enemy that calls for it in two methods, and a player
who calls both. -/
def arena : Project :=
  { (default : Project) with
    classes := [calling "Stats" [("recalculate", ["recalculate", "Stats.recalculate"])],
      calling "Enemy" [("run", ["Stats.recalculate"]), ("walk", ["Stats.recalculate", "run"])],
      calling "Player" [("fight", ["Enemy.run", "Stats.recalculate"])]]
    name := "arena" }

/-- A limit of one for both shapes. -/
def atMostOne : Entries :=
  [("max_classes", .whole 1), ("max_caller_classes", .whole 1)]

/-- Two classes call the statistics, one of them twice and the statistics themselves not counted,
and one class depends on two others; the enemy's method has one caller and is not reported. -/
theorem surgeries_reported_exactly_arena :
    Thresholds.HasLimit ⟨atMostOne, detector.defaults⟩ "max_classes" (.ofNat 1) ∧
    Thresholds.HasLimit ⟨atMostOne, detector.defaults⟩ "max_caller_classes" (.ofNat 1) ∧
    callers arena ⟨"Stats", "recalculate"⟩ = {"Enemy", "Player"} ∧
    ∃ (r : Result) (refs : List MethodRef),
      detector.detect (.ofProject arena) atMostOne = .ok (some r) ∧ r.detected = true ∧
      ⟨"Stats", "recalculate"⟩ ∈ refs ∧ ⟨"Enemy", "run"⟩ ∉ refs ∧
      r.detail? "surgeries" = some (.row
        (Surgery.toValue ⟨.classReferences, "Player", ["Enemy", "Stats"]⟩ ::
          refs.map fun ref ↦ (ofMethod arena ref).toValue)) := by
  have hclasses : Thresholds.HasLimit ⟨atMostOne, detector.defaults⟩ "max_classes" (.ofNat 1) :=
    ⟨.whole 1, rfl, rfl⟩
  have hcallers :
      Thresholds.HasLimit ⟨atMostOne, detector.defaults⟩ "max_caller_classes" (.ofNat 1) :=
    ⟨.whole 1, rfl, rfl⟩
  have hstats : callers arena ⟨"Stats", "recalculate"⟩ = {"Enemy", "Player"} := by decide +kernel
  have henemy : callers arena ⟨"Enemy", "run"⟩ = {"Player"} := by decide +kernel
  have hwide : (arena.classes.filter fun k ↦
      (Quantity.ofNat 1).lt (.ofNat (k.dependencies arena).length)).map (ofClass arena) =
      [⟨.classReferences, "Player", ["Enemy", "Stats"]⟩] := by
    decide +kernel
  obtain ⟨r, refs, surgeries, -, hr, -, hrefs, -, hsurgeries, hlisted, hdetected, -⟩ :=
    surgeries_reported_exactly arena hclasses hcallers
  rw [hwide] at hsurgeries
  subst hsurgeries
  refine ⟨hclasses, hcallers, hstats, r, refs, hr, hdetected.mpr nofun, ?_, ?_, ?_⟩
  · rw [hrefs, hstats]
    exact ⟨by simp, by decide⟩
  · rw [hrefs, henemy]
    exact fun h ↦ absurd h.2 (by decide)
  · rw [hlisted]
    simp only [List.singleton_append, List.map_cons, List.map_map, Function.comp_def]

/-- Nothing calls the only method of this project. -/
def idle : Project :=
  { (default : Project) with classes := [calling "Quiet" [("wait", [])]], name := "idle" }

/-- A limit for callers below nought. -/
def belowNought : Entries :=
  [("max_caller_classes", .whole (-1))]

/-- A method that nothing calls is not reported under a limit below nought, though its callers, none
at all, are more than that. -/
theorem uncalled_method_unreported :
    Thresholds.HasLimit ⟨belowNought, detector.defaults⟩ "max_caller_classes" (.ofInt (-1)) ∧
    callers idle ⟨"Quiet", "wait"⟩ = ∅ ∧
    (Quantity.ofInt (-1)).lt (.ofNat (callers idle ⟨"Quiet", "wait"⟩).card) = true ∧
    ∃ r, detector.detect (.ofProject idle) belowNought = .ok (some r) ∧ r.detected = false ∧
      r.detail? "surgeries" = some (.row []) := by
  have hcallers : Thresholds.HasLimit ⟨belowNought, detector.defaults⟩ "max_caller_classes"
      (.ofInt (-1)) :=
    ⟨.whole (-1), rfl, rfl⟩
  have hclasses : Thresholds.HasLimit ⟨belowNought, detector.defaults⟩ "max_classes" (.ofNat 3) :=
    ⟨.whole 3, rfl, rfl⟩
  have hnone : callers idle ⟨"Quiet", "wait"⟩ = ∅ := by decide +kernel
  have hempty : (wideClasses idle (.ofNat 3)).map (ofClass idle) ++
      (wideMethods idle (.ofInt (-1))).map (ofMethod idle) = [] := by
    decide +kernel
  obtain ⟨r, hr, hsurgeries, hdetected, -⟩ := exists_result (p := idle) hclasses hcallers
  rw [hempty] at hsurgeries hdetected
  refine ⟨hcallers, hnone, by rw [hnone]; decide, r, hr, ?_, hsurgeries⟩
  rw [← Bool.not_eq_true, hdetected]
  exact fun h ↦ h rfl

end CodeSmells.ShotgunSurgery
