import CodeSmells.Proofs.Analysis.Isolation
import CodeSmells.Proofs.Model.Arrangement
import Mathlib.Data.List.Perm.Basic

/-!
# Findings do not depend on the order of sets

The calls and field accesses of a method and the fields of a class are sets. A list that holds a set
has an order, which depends on how the set was described and on how a run lays it out in memory, so
whatever walks through a set has to sort it, to count it or to ask for members only. This module
shows that every detector does: `catalog_ignoresOrder` says that a detector gives the same verdict
on a scope and on the scope with all its sets in increasing order.

The lemmas before it go through what methods, classes and projects tell about themselves. Counts
need that nothing is repeated in a list (`Distinct`), which holds of what was built; the rest needs
the members of a list alone.

`findings_of_sameEntries` puts this together with the building of projects: descriptions with the
same entries describe one project, and any two layouts of it have the same findings.
-/

set_option autoImplicit false
set_option relaxedAutoImplicit false

namespace CodeSmells

/-! ### Methods -/

namespace Method

variable (m : Method)

@[simp]
theorem arranged_name : m.arranged.name = m.name := rfl

@[simp]
theorem callsMethod_arranged (callee : String) :
    m.arranged.callsMethod callee = m.callsMethod callee :=
  any_sortedSet _ m.calls

@[simp]
theorem accessesField_arranged (owner field : String) :
    m.arranged.accessesField owner field = m.accessesField owner field :=
  contains_sortedSet _ m.accesses

end Method

/-! ### Classes -/

namespace Class

variable (k : Class)

@[simp]
theorem arranged_name : k.arranged.name = k.name := rfl

@[simp]
theorem totalLoc_arranged : k.arranged.totalLoc = k.totalLoc :=
  congrArg total List.map_map

@[simp]
theorem methodCount_arranged : k.arranged.methodCount = k.methodCount :=
  List.length_map _

@[simp]
theorem methodNames_arranged : k.arranged.methodNames = k.methodNames :=
  List.map_map

@[simp]
theorem fieldNames_arranged : k.arranged.fieldNames = k.fieldNames :=
  sortedSet_sortedSet k.fields

theorem fieldCount_arranged (hk : k.Distinct) : k.arranged.fieldCount = k.fieldCount :=
  length_sortedSet hk.fields

@[simp]
theorem untypedFields_arranged : k.arranged.untypedFields = k.untypedFields := by
  unfold untypedFields
  rw [fieldNames_arranged]
  exact List.filter_congr fun f _ ↦ congrArg not (contains_sortedSet f k.typedFields)

@[simp]
theorem publicFields_arranged : k.arranged.publicFields = k.publicFields := by
  unfold publicFields
  rw [fieldNames_arranged]

@[simp]
theorem method?_arranged (name : String) :
    k.arranged.method? name = (k.method? name).map Method.arranged :=
  List.find?_map

@[simp]
theorem hasMethod_arranged (name : String) : k.arranged.hasMethod name = k.hasMethod name := by
  simp [hasMethod]

@[simp]
theorem references_arranged (target : String) :
    k.arranged.references target = k.references target := by
  simp only [references, Class.arranged, Method.arranged, List.any_map, Function.comp_def,
    any_sortedSet]

end Class

namespace Class

theorem shareField_arranged (k : Class) (m n : Method) :
    k.arranged.shareField m.arranged n.arranged = k.shareField m n := by
  rw [Bool.eq_iff_iff]
  simp only [shareField, accessedFields, List.any_eq_true, List.contains_iff_mem, List.mem_filter,
    Method.accessesField_arranged, Class.arranged, mem_sortedSet]

theorem lackOfCohesion_arranged (k : Class) : k.arranged.lackOfCohesion = k.lackOfCohesion := by
  simp only [lackOfCohesion]
  rw [show k.arranged.methods = k.methods.map Method.arranged from rfl, pairs_map,
    List.countP_map, List.countP_map]
  simp only [Function.comp_def, Prod.map, shareField_arranged]

theorem coupling_arranged (k : Class) (classes : List Class) :
    k.arranged.coupling (classes.map Class.arranged) = k.coupling classes := by
  simp only [coupling, List.filter_map, List.map_map, Function.comp_def, arranged_name,
    references_arranged]

end Class

/-! ### Projects -/

namespace Project

variable (p : Project)

@[simp]
theorem findClass_arranged (name : String) :
    p.arranged.findClass name = (p.findClass name).map Class.arranged :=
  List.find?_map

theorem classNames_arranged : p.arranged.classNames = p.classNames :=
  List.map_map

theorem lookupFrom_arranged (method : String) (fuel : Nat) (seen : List String)
    (k : Option Class) :
    p.arranged.lookupFrom method fuel seen (k.map Class.arranged) =
      p.lookupFrom method fuel seen k := by
  induction fuel generalizing seen k with
  | zero => rfl
  | succ fuel ih =>
    cases k with
    | none => rfl
    | some k =>
      simp only [Option.map_some, lookupFrom, Class.arranged_name, Class.hasMethod_arranged,
        findClass_arranged, ih]
      rfl

theorem lookupInherited_arranged (className method : String) :
    p.arranged.lookupInherited className method = p.lookupInherited className method := by
  unfold lookupInherited
  rw [findClass_arranged, lookupFrom_arranged, show p.arranged.classes.length = p.classes.length
    from List.length_map _]

theorem uniqueOwner_arranged (method : String) :
    p.arranged.uniqueOwner method = p.uniqueOwner method := by
  have howners : p.arranged.classes.filter (fun k ↦ k.hasMethod method) =
      (p.classes.filter fun k ↦ k.hasMethod method).map Class.arranged := by
    simp only [Project.arranged, List.filter_map, Function.comp_def, Class.hasMethod_arranged]
  unfold uniqueOwner
  rw [howners]
  generalize p.classes.filter (fun k ↦ k.hasMethod method) = owners
  rcases owners with _ | ⟨k, _ | ⟨l, rest⟩⟩ <;> rfl

theorem resolveCallee_arranged (e : CallEdge) : p.arranged.resolveCallee e = p.resolveCallee e := by
  have hparent : (p.arranged.findClass e.caller).bind (·.parent) =
      (p.findClass e.caller).bind (·.parent) := by
    rw [findClass_arranged]
    cases p.findClass e.caller <;> rfl
  simp only [resolveCallee, lookupInherited_arranged, uniqueOwner_arranged, hparent]

end Project

/-! ### Detectors -/

/-- The scope that stands for a scope in the arranged project. -/
def Scope.arranged : Scope → Scope
  | .ofMethod m k path => .ofMethod m.arranged k.arranged path
  | .ofClass k p path => .ofClass k.arranged p.arranged path
  | .ofProject p => .ofProject p.arranged

/-- The lists that hold the sets of a scope repeat nothing. -/
def Scope.Distinct : Scope → Prop
  | .ofMethod .. => True
  | .ofClass k p _ => k.Distinct ∧ p.Distinct
  | .ofProject p => p.Distinct

/-- A detector says the same about a scope and about its arranged form. -/
def Detector.IgnoresOrder (d : Detector) : Prop :=
  ∀ (scope : Scope) (t : Thresholds), scope.Distinct →
    d.evaluate scope.arranged t = d.evaluate scope t

theorem LongMethod.detector_ignoresOrder : LongMethod.detector.IgnoresOrder := by
  rintro (⟨m, k, path⟩ | ⟨k, p, path⟩ | p) t _ <;> rfl

theorem LargeClass.detector_ignoresOrder : LargeClass.detector.IgnoresOrder := by
  rintro (⟨m, k, path⟩ | ⟨k, p, path⟩ | p) t h
  · rfl
  · have hexports : k.arranged.exportedFields.length = k.exportedFields.length :=
      length_sortedSet h.1.exportedFields
    have hcoupling : k.arranged.coupling p.arranged.classes = k.coupling p.classes :=
      k.coupling_arranged p.classes
    have hfindings : findings k.arranged p.arranged = findings k p := by
      simp only [findings, k.fieldCount_arranged h.1, k.methodCount_arranged, k.totalLoc_arranged,
        hexports, hcoupling, k.lackOfCohesion_arranged]
    simp only [detector, Scope.arranged, hfindings]
    rfl
  · rfl

/-- The bodies of the methods of a project do not change when it is arranged. -/
theorem DuplicateCode.blocks_arranged (p : Project) : blocks p.arranged = blocks p := by
  simp only [blocks, Project.arranged, List.flatMap_map]
  refine congrArg List.flatten (List.map_congr_left fun k _ ↦ ?_)
  exact List.map_map

theorem DuplicateCode.detector_ignoresOrder : DuplicateCode.detector.IgnoresOrder := by
  rintro (⟨m, k, path⟩ | ⟨k, p, path⟩ | p) t _
  · rfl
  · rfl
  · simp only [detector, Scope.arranged, findings, blocks_arranged]
    rfl

theorem LongParameterList.detector_ignoresOrder : LongParameterList.detector.IgnoresOrder := by
  rintro (⟨m, k, path⟩ | ⟨k, p, path⟩ | p) t _ <;> rfl

theorem FeatureEnvy.detector_ignoresOrder : FeatureEnvy.detector.IgnoresOrder := by
  rintro (⟨m, k, path⟩ | ⟨k, p, path⟩ | p) t _
  · have hlocal : sortedSet (((sortedSet m.accesses).filter (isLocal k.name)).map (·.field)) =
        sortedSet ((m.accesses.filter (isLocal k.name)).map (·.field)) :=
      sortedSet_eq_of_mem_iff fun f ↦ by simp only [List.mem_map, List.mem_filter, mem_sortedSet]
    have hfindings : findings m.arranged k.arranged = findings m k := by
      simp only [findings, Method.arranged, Class.arranged_name, sortedSet_sortedSet, hlocal]
    simp only [detector, Scope.arranged, hfindings]
    rfl
  · rfl
  · rfl

/-- The own fields that a method accesses are the same as a set. -/
theorem DataClumps.triplesOf_ownFields_arranged (k : Class) (m : Method) :
    triplesOf (ownFields k.arranged m.arranged) = triplesOf (ownFields k m) := by
  refine congrArg triples (sortedSet_eq_of_mem_iff fun f ↦ ?_)
  simp only [ownFields, Method.arranged, Class.arranged_name, List.mem_map, List.mem_filter,
    mem_sortedSet]

theorem DataClumps.records_arranged {p : Project} {names : Class → Method → List String}
    (h : ∀ k m, triplesOf (names k.arranged m.arranged) = triplesOf (names k m)) :
    records p.arranged names = records p names := by
  simp only [records, Project.arranged, List.flatMap_map]
  refine congrArg List.flatten (List.map_congr_left fun k _ ↦ ?_)
  rw [show k.arranged.methods = k.methods.map Method.arranged from rfl, List.flatMap_map]
  simp only [h]
  rfl

theorem DataClumps.detector_ignoresOrder : DataClumps.detector.IgnoresOrder := by
  rintro (⟨m, k, path⟩ | ⟨k, p, path⟩ | p) t _
  · rfl
  · rfl
  · have hclumps : allClumps p.arranged = allClumps p := by
      unfold allClumps
      rw [records_arranged fun _ _ ↦ rfl, records_arranged triplesOf_ownFields_arranged]
    have hclasses : p.arranged.classes.length = p.classes.length := List.length_map _
    simp only [detector, Scope.arranged, findings, hclumps, hclasses]
    rfl

theorem PrimitiveObsession.detector_ignoresOrder : PrimitiveObsession.detector.IgnoresOrder := by
  rintro (⟨m, k, path⟩ | ⟨k, p, path⟩ | p) t _
  · rfl
  · have hlines : k.arranged.methods.flatMap Method.codeLines =
        k.methods.flatMap Method.codeLines :=
      List.flatMap_map ..
    simp only [detector, Scope.arranged, findings, examples, hlines, k.untypedFields_arranged]
    rfl
  · rfl

theorem SwitchStatements.detector_ignoresOrder : SwitchStatements.detector.IgnoresOrder := by
  rintro (⟨m, k, path⟩ | ⟨k, p, path⟩ | p) t _ <;> rfl

theorem LazyClass.detector_ignoresOrder : LazyClass.detector.IgnoresOrder := by
  rintro (⟨m, k, path⟩ | ⟨k, p, path⟩ | p) t _
  · rfl
  · have htrivial : k.arranged.methods.countP isTrivial = k.methods.countP isTrivial :=
      List.countP_map
    have hempty : k.arranged.fields.isEmpty = k.fields.isEmpty := isEmpty_sortedSet k.fields
    have hfindings : findings k.arranged = findings k := by
      simp only [findings, responsibilities, k.totalLoc_arranged, k.methodCount_arranged,
        k.methodNames_arranged, htrivial, hempty]
    simp only [detector, Scope.arranged, hfindings]
    rfl
  · rfl

theorem SpeculativeGenerality.mem_referencedNames_arranged (p : Project) (name : String) :
    name ∈ referencedNames p.arranged ↔ name ∈ referencedNames p := by
  simp only [referencedNames, Project.arranged, Class.arranged, Method.arranged, List.mem_flatMap,
    List.mem_map, mem_sortedSet, exists_exists_and_eq_and]

theorem SpeculativeGenerality.findings_arranged (p : Project) (classes : List Class) :
    findings p.arranged (classes.map Class.arranged) = findings p classes := by
  have hreferenced : ∀ name, (referencedNames p.arranged).contains name =
      (referencedNames p).contains name := fun name ↦ by
    rw [Bool.eq_iff_iff, List.contains_iff_mem, List.contains_iff_mem, mem_referencedNames_arranged]
  have hmethods : ∀ k : Class, unusedMethods (referencedNames p.arranged) k.arranged =
      unusedMethods (referencedNames p) k := fun k ↦ by
    simp only [unusedMethods, hreferenced, Class.arranged, List.filter_map, List.map_map]
    rfl
  have hparameters : ∀ k : Class, SpeculativeGenerality.unusedParameters k.arranged =
      SpeculativeGenerality.unusedParameters k := fun k ↦ by
    simp only [SpeculativeGenerality.unusedParameters, Class.arranged, List.flatMap_map]
    rfl
  have habstract : ∀ k : Class, isNeedlesslyAbstract p.arranged k.arranged =
      isNeedlesslyAbstract p k := fun k ↦ by
    have hsubclasses : (p.arranged.subclassesOf k.name).length =
        (p.subclassesOf k.name).length := by
      simp only [Project.subclassesOf, Project.arranged, List.filter_map, List.length_map]
      rfl
    have hlooks : looksAbstract k.arranged = looksAbstract k := List.any_map
    simp only [isNeedlesslyAbstract, hlooks, Class.arranged_name, hsubclasses]
  simp only [findings, List.flatMap_map, hmethods, hparameters, List.filter_map, List.map_map,
    Function.comp_def, habstract, Class.arranged_name]

theorem SpeculativeGenerality.detector_ignoresOrder :
    SpeculativeGenerality.detector.IgnoresOrder := by
  rintro (⟨m, k, path⟩ | ⟨k, p, path⟩ | p) t _
  · rfl
  · have hfindings : findings p.arranged [k.arranged] = findings p [k] := findings_arranged p [k]
    simp only [detector, Scope.arranged, verdict, hfindings]
    rfl
  · have hfindings : findings p.arranged p.arranged.classes = findings p p.classes :=
      findings_arranged p p.classes
    simp only [detector, Scope.arranged, verdict, hfindings]
    rfl

theorem TemporaryField.detector_ignoresOrder : TemporaryField.detector.IgnoresOrder := by
  rintro (⟨m, k, path⟩ | ⟨k, p, path⟩ | p) t _
  · rfl
  · have husage : usage k.arranged = usage k := by
      funext name
      have hall : k.arranged.methods.flatMap (uses name) = k.methods.flatMap (uses name) :=
        List.flatMap_map ..
      have hmethods : (k.arranged.methods.filter fun m ↦ !(uses name m).isEmpty).map (·.name) =
          (k.methods.filter fun m ↦ !(uses name m).isEmpty).map (·.name) := by
        simp only [Class.arranged, List.filter_map, List.map_map]
        rfl
      simp only [usage, hall, hmethods]
    simp only [detector, Scope.arranged, findings, k.fieldNames_arranged, husage]
    rfl
  · rfl

theorem MessageChains.detector_ignoresOrder : MessageChains.detector.IgnoresOrder := by
  rintro (⟨m, k, path⟩ | ⟨k, p, path⟩ | p) t _
  · rfl
  · have hchains : k.arranged.methods.flatMap messageChains = k.methods.flatMap messageChains :=
      List.flatMap_map ..
    simp only [detector, Scope.arranged, findings, methodsOf, hchains]
    rfl
  · rfl

/-- A method forwards to its only call, and there is one call only in whatever order. -/
theorem MiddleMan.delegation?_arranged (owner : String) {m : Method} (hm : m.Distinct) :
    delegation? owner m.arranged = delegation? owner m := by
  obtain ⟨name, parameters, lines, calls, accesses, startLine⟩ := m
  have hlength : (sortedSet calls).length = calls.length := length_sortedSet hm.calls
  rcases calls with _ | ⟨e, _ | ⟨e', rest⟩⟩
  · rfl
  · rfl
  · simp only [delegation?, Method.arranged]
    rcases hsorted : sortedSet (e :: e' :: rest) with _ | ⟨f, _ | ⟨f', others⟩⟩
    · rfl
    · rw [hsorted] at hlength
      simp at hlength
    · rfl

theorem MiddleMan.detector_ignoresOrder : MiddleMan.detector.IgnoresOrder := by
  rintro (⟨m, k, path⟩ | ⟨k, p, path⟩ | p) t h
  · rfl
  · have hdelegations : k.arranged.methods.filterMap (delegation? k.name) =
        k.methods.filterMap (delegation? k.name) := by
      simp only [Class.arranged, List.filterMap_map]
      exact List.filterMap_congr fun m hm ↦ delegation?_arranged k.name (h.1.methods m hm)
    simp only [detector, Scope.arranged, findings, Class.arranged_name, hdelegations,
      k.methodCount_arranged]
    rfl
  · rfl

/-- The private accesses of a class are the same, each as often. -/
theorem InappropriateIntimacy.privateAccesses_arranged {k : Class} (hk : k.Distinct)
    (target : String) : (privateAccesses k.arranged target).Perm (privateAccesses k target) := by
  unfold privateAccesses
  rw [show k.arranged.methods = k.methods.map Method.arranged from rfl, List.flatMap_map]
  exact List.Perm.flatMap_left _ fun m hm ↦
    ((sortedSet_perm (hk.methods m hm).accesses).filter _).map _

theorem InappropriateIntimacy.intimacy_arranged {a b : Class} (ha : a.Distinct) (hb : b.Distinct) :
    intimacy a.arranged b.arranged = intimacy a b := by
  have htouched : (privateAccesses a.arranged b.name ++ privateAccesses b.arranged a.name).Perm
      (privateAccesses a b.name ++ privateAccesses b a.name) :=
    (privateAccesses_arranged ha b.name).append (privateAccesses_arranged hb a.name)
  simp only [intimacy, Class.arranged_name, Class.references_arranged, htouched.length_eq,
    sortedSet_eq_of_perm htouched]

theorem InappropriateIntimacy.detector_ignoresOrder :
    InappropriateIntimacy.detector.IgnoresOrder := by
  have hcandidates : ∀ scope : Scope, scope.Distinct →
      candidates scope.arranged = candidates scope := by
    rintro (⟨m, k, path⟩ | ⟨k, p, path⟩ | p) h
    · rfl
    · simp only [candidates, Scope.arranged, Project.arranged, List.filter_map, List.map_map]
      refine List.map_congr_left fun other hother ↦ ?_
      exact intimacy_arranged h.1 (h.2.classes other (List.mem_of_mem_filter hother))
    · simp only [candidates, Scope.arranged, Project.arranged, pairs_map, List.map_map]
      refine List.map_congr_left fun pair hpair ↦ ?_
      exact intimacy_arranged (h.classes pair.1 (mem_of_mem_pairs hpair).1)
        (h.classes pair.2 (mem_of_mem_pairs hpair).2)
  intro scope t h
  simp only [detector, findings, hcandidates scope h]
  cases scope <;> rfl

theorem DataClass.detector_ignoresOrder : DataClass.detector.IgnoresOrder := by
  rintro (⟨m, k, path⟩ | ⟨k, p, path⟩ | p) t h
  · rfl
  · have hnames : ∀ keep : Method → Bool, (∀ m : Method, keep m.arranged = keep m) →
        (k.arranged.methods.filter keep).map (·.name) = (k.methods.filter keep).map (·.name) := by
      intro keep hkeep
      simp only [Class.arranged, List.filter_map, List.map_map, Function.comp_def, hkeep]
      rfl
    have hfindings : findings k.arranged = findings k := by
      simp only [findings, k.fieldCount_arranged h.1, k.publicFields_arranged]
      rw [hnames isAccessor fun _ ↦ rfl, hnames (fun m ↦ !isAccessor m) fun _ ↦ rfl]
    simp only [detector, Scope.arranged, hfindings]
    rfl
  · rfl

theorem RefusedBequest.findings_arranged (k parent : Class) :
    findings k.arranged parent.arranged = findings k parent := by
  have hused : usesParentMethod k.arranged = usesParentMethod k := by
    have hcalls : ∀ m : Method, m.arranged.callsMethod = m.callsMethod := fun m ↦
      funext m.callsMethod_arranged
    funext method
    simp only [usesParentMethod, Class.arranged, List.any_map, Function.comp_def, hcalls]
    rfl
  have hempty : emptyOverride? k.arranged = emptyOverride? k := by
    funext method
    simp only [emptyOverride?, k.method?_arranged]
    cases k.method? method <;> rfl
  simp only [findings, parent.methodNames_arranged, parent.methodCount_arranged, hused, hempty]

theorem RefusedBequest.detector_ignoresOrder : RefusedBequest.detector.IgnoresOrder := by
  rintro (⟨m, k, path⟩ | ⟨k, p, path⟩ | p) t _
  · rfl
  · have hparent : k.arranged.parent.bind p.arranged.findClass =
        (k.parent.bind p.findClass).map Class.arranged := by
      cases hname : k.parent with
      | none => simp [Class.arranged, hname]
      | some name => simp [Class.arranged, hname]
    simp only [detector, Scope.arranged, hparent]
    cases k.parent.bind p.findClass with
    | none => rfl
    | some parent =>
      simp only [Option.map_some, findings_arranged]
      rfl
  · rfl

theorem Comments.detector_ignoresOrder : Comments.detector.IgnoresOrder := by
  rintro (⟨m, k, path⟩ | ⟨k, p, path⟩ | p) t _
  · rfl
  · have hstats : k.arranged.commentStats = k.commentStats :=
      congrArg CodeSmells.commentStats (List.flatMap_map ..)
    simp only [detector, Scope.arranged, statsOf?, hstats]
    rfl
  · rfl

theorem GlobalState.detector_ignoresOrder : GlobalState.detector.IgnoresOrder := by
  rintro (⟨m, k, path⟩ | ⟨k, p, path⟩ | p) t h
  · rfl
  · rfl
  · have hsummaries : p.arranged.autoloads.mapM (summary t) = p.autoloads.mapM (summary t) := by
      simp only [Project.arranged, List.mapM_map]
      refine mapM_congr fun k hk ↦ ?_
      simp only [Function.comp_def, summary, k.totalLoc_arranged, k.methodCount_arranged,
        k.fieldCount_arranged (h.autoloads k hk), Class.arranged_name]
    simp only [detector, Scope.arranged, findings, hsummaries]
    rfl

theorem ShotgunSurgery.dependencies_arranged (k : Class) (p : Project) :
    k.arranged.dependencies p.arranged = k.dependencies p := by
  refine sortedSet_eq_of_mem_iff fun name ↦ ?_
  simp only [Class.referenceNames, Class.arranged, Method.arranged, p.classNames_arranged,
    List.mem_filter, List.mem_flatMap, List.mem_append, List.mem_map, mem_sortedSet,
    exists_exists_and_eq_and]

theorem ShotgunSurgery.mem_foreignCallees_arranged (p : Project) (k : Class) (r : MethodRef) :
    r ∈ foreignCallees p.arranged k.arranged ↔ r ∈ foreignCallees p k := by
  simp only [foreignCallees, p.resolveCallee_arranged, Class.arranged, Method.arranged,
    List.mem_filterMap, List.mem_flatMap, List.mem_map, mem_sortedSet, exists_exists_and_eq_and]
  rfl

theorem ShotgunSurgery.mem_callPairs_arranged (p : Project) (c : MethodRef × String) :
    c ∈ callPairs p.arranged ↔ c ∈ callPairs p := by
  unfold callPairs
  rw [show p.arranged.classes = p.classes.map Class.arranged from rfl]
  simp only [List.mem_flatMap, List.mem_map, exists_exists_and_eq_and, mem_foreignCallees_arranged,
    Class.arranged_name]

theorem ShotgunSurgery.detector_ignoresOrder : ShotgunSurgery.detector.IgnoresOrder := by
  rintro (⟨m, k, path⟩ | ⟨k, p, path⟩ | p) t _
  · rfl
  · rfl
  · have hclasses : classCandidates p.arranged = classCandidates p := by
      simp only [classCandidates]
      rw [show p.arranged.classes = p.classes.map Class.arranged from rfl, List.map_map]
      exact List.map_congr_left fun k _ ↦ by
        simp only [Function.comp_apply, Class.arranged_name, dependencies_arranged]
    have htargets : sortedSet ((callPairs p.arranged).map (·.1)) =
        sortedSet ((callPairs p).map (·.1)) :=
      sortedSet_eq_of_mem_iff fun r ↦ by simp only [List.mem_map, mem_callPairs_arranged]
    have hcallers : callersOf (callPairs p.arranged) = callersOf (callPairs p) := by
      funext target
      refine sortedSet_eq_of_mem_iff fun name ↦ ?_
      simp only [List.mem_map, List.mem_filter, mem_callPairs_arranged]
    have hmethods : methodCandidates p.arranged = methodCandidates p := by
      simp only [methodCandidates, htargets, hcallers]
    simp only [detector, Scope.arranged, findings, hclasses, hmethods]
    rfl

theorem DivergentChange.detector_ignoresOrder : DivergentChange.detector.IgnoresOrder := by
  rintro (⟨m, k, path⟩ | ⟨k, p, path⟩ | p) t h
  · rfl
  · have hgroup : ∀ g, groupMethods k.arranged g = (groupMethods k g).map Method.arranged := by
      intro g
      simp only [groupMethods, Class.arranged, List.filter_map]
      rfl
    have hrelated : ∀ ms : List Method, relatedFields k.arranged (ms.map Method.arranged) =
        relatedFields k ms := by
      intro ms
      simp only [relatedFields, k.fieldNames_arranged, List.any_map]
      rfl
    have hreasons : changeReasons k.arranged = changeReasons k := by
      simp only [changeReasons, groupedReasons, hgroup, hrelated, List.length_map, List.map_map,
        k.methodCount_arranged, k.methodNames_arranged, k.fieldNames_arranged]
      rfl
    simp only [detector, Scope.arranged, findings, hreasons, k.methodCount_arranged,
      k.fieldCount_arranged h.1]
    rfl
  · rfl

/-- No detector of the catalog sees the order of a set. -/
theorem catalog_ignoresOrder : ∀ d ∈ Catalog.detectors, d.IgnoresOrder := by
  unfold Catalog.detectors
  simp only [List.forall_mem_cons, List.not_mem_nil, false_implies, implies_true, and_true]
  exact ⟨LongMethod.detector_ignoresOrder, LargeClass.detector_ignoresOrder,
    DuplicateCode.detector_ignoresOrder, LongParameterList.detector_ignoresOrder,
    FeatureEnvy.detector_ignoresOrder, DataClumps.detector_ignoresOrder,
    PrimitiveObsession.detector_ignoresOrder, SwitchStatements.detector_ignoresOrder,
    LazyClass.detector_ignoresOrder, SpeculativeGenerality.detector_ignoresOrder,
    TemporaryField.detector_ignoresOrder, MessageChains.detector_ignoresOrder,
    MiddleMan.detector_ignoresOrder, InappropriateIntimacy.detector_ignoresOrder,
    DataClass.detector_ignoresOrder, RefusedBequest.detector_ignoresOrder,
    Comments.detector_ignoresOrder, GlobalState.detector_ignoresOrder,
    ShotgunSurgery.detector_ignoresOrder, DivergentChange.detector_ignoresOrder⟩

/-! ### The whole analysis -/

theorem Project.scopes_arranged (p : Project) :
    p.arranged.scopes = p.scopes.map Scope.arranged := by
  simp only [Project.scopes, Project.arranged, Class.arranged, List.flatMap_map, List.map_map,
    List.map_append, List.map_flatMap]
  rfl

theorem Project.Distinct.scopes {p : Project} (h : p.Distinct) :
    ∀ scope ∈ p.scopes, scope.Distinct := by
  intro scope hscope
  simp only [Project.scopes, List.mem_append, List.mem_flatMap, List.mem_map,
    List.mem_singleton] at hscope
  rcases hscope with (⟨k, -, m, -, rfl⟩ | ⟨k, hk, rfl⟩) | rfl
  · trivial
  · exact ⟨h.classes k hk, h⟩
  · exact h

theorem Settings.contribution_arranged {s : Settings} {scope : Scope} (hscope : scope.Distinct)
    {d : Detector} (hd : d.IgnoresOrder) :
    s.contribution scope.arranged d = s.contribution scope d := by
  have hkind : scope.arranged.kind = scope.kind := by cases scope <;> rfl
  have hdescribe : scope.arranged.describe = scope.describe := by cases scope <;> rfl
  simp only [Settings.contribution, Detector.detect, hkind, hdescribe, hd scope _ hscope]

theorem Analyzer.contributions_arranged (s : Settings) {p : Project} (hp : p.Distinct) :
    (Analyzer.ofSettings s).contributions p.arranged = (Analyzer.ofSettings s).contributions p := by
  have hdistinct := Analyzer.ofSettings_distinct s
  rw [show Analyzer.ofSettings s = ⟨s, (Analyzer.ofSettings s).detectors⟩ from rfl,
    Analyzer.contributions_eq hdistinct, Analyzer.contributions_eq hdistinct, p.scopes_arranged,
    List.flatMap_map]
  refine congrArg List.flatten (List.map_congr_left fun scope hscope ↦ ?_)
  refine List.filterMap_congr fun d hd ↦ Settings.contribution_arranged (hp.scopes scope hscope) ?_
  exact catalog_ignoresOrder d (Analyzer.mem_catalog_of_mem_ofSettings hd)

/-- The sets of a project may be laid out in any order: the findings are the same. -/
theorem Project.Rearranges.contributions_eq {p q : Project} (h : q.Rearranges p) (hp : p.Distinct)
    (s : Settings) :
    (Analyzer.ofSettings s).contributions q = (Analyzer.ofSettings s).contributions p := by
  rw [← Analyzer.contributions_arranged s (h.distinct hp), h.arranged_eq,
    Analyzer.contributions_arranged s hp]

/-- Two descriptions that list the same calls, accesses, fields, exported fields and typed fields,
in other orders and with other repetitions, describe the same project; and in whatever orders two
runs lay out its sets, they find the same: the same results in the same order, the same failures
and the same metadata. Assumes: a description that is accepted. -/
theorem findings_of_sameEntries {d d' : ProjectDraft} (hsame : d.SameEntries d') {p : Project}
    (hp : d.build = .ok p) (s : Settings) (metadata : Entries) :
    d'.build = .ok p ∧ ∀ q q' : Project, q.Rearranges p → q'.Rearranges p →
      ((Analyzer.ofSettings s).analyze q metadata).SameFindings
        ((Analyzer.ofSettings s).analyze q' metadata) := by
  refine ⟨ProjectDraft.build_of_sameEntries hsame hp, fun q q' hq hq' ↦ ?_⟩
  have hdistinct := ProjectDraft.distinct_of_build hp
  have hcontributions : (Analyzer.ofSettings s).contributions q =
      (Analyzer.ofSettings s).contributions q' :=
    (hq.contributions_eq hdistinct s).trans (hq'.contributions_eq hdistinct s).symm
  constructor
  · simp only [Analyzer.analyze, hcontributions]
  · simp only [Analyzer.analyze, hcontributions]
  · rfl

/-- A project with one class of the given fields whose only method has the given accesses. -/
def displayDraft (fields : List Value) (accesses : List PairDraft) : ProjectDraft where
  name := "game"
  classes := [.made {
    name := .text "Display"
    fields := some (.list fields)
    methods := [.made {
      name := .text "refresh"
      parameters := []
      lines := []
      calls := []
      accesses := accesses
      startLine := none }]
    parent := .null
    exportedFields := none
    autoload := false
    filePath := none
    typedFields := none }]
  scenes := []
  autoloads := none
  signals := []

/-- The project that is described by the fields and accesses in the given orders. -/
def displayProject (fields : List String) (accesses : List FieldAccess) : Project where
  classes := [⟨"Display", fields, [⟨"refresh", [], [], [], accesses, none⟩], none, [], false, none,
    []⟩]
  scenes := []
  autoloads := []
  signals := []
  name := "game"

theorem displayDraft_sameEntries {fields fields' : List Value} {accesses accesses' : List PairDraft}
    (hfields : SameMembers (fields.map Value.withoutBlanks) (fields'.map Value.withoutBlanks))
    (haccesses : SameMembers accesses accesses') :
    (displayDraft fields accesses).SameEntries (displayDraft fields' accesses') := by
  have hnone : SameNames none none := ⟨[], [], rfl, rfl, fun _ ↦ Iff.rfl⟩
  refine ⟨rfl, .cons (.made ⟨rfl, ⟨fields, fields', rfl, rfl, hfields⟩, ?_, rfl, hnone, rfl, rfl,
    hnone⟩) .nil, rfl, .none, rfl⟩
  exact .cons (.made ⟨rfl, rfl, rfl, fun _ ↦ Iff.rfl, haccesses, rfl⟩) .nil

theorem displayProject_rearranges {fields fields' : List String}
    {accesses accesses' : List FieldAccess} (hfields : fields.Perm fields')
    (haccesses : accesses.Perm accesses') :
    (displayProject fields accesses).Rearranges (displayProject fields' accesses') := by
  refine ⟨.cons ⟨rfl, hfields, ?_, rfl, .refl _, rfl, rfl, .refl _⟩ .nil, rfl, .nil, rfl, rfl⟩
  exact .cons ⟨rfl, rfl, rfl, .refl _, haccesses, rfl⟩ .nil

theorem sameMembers_turned {α : Type} (a b : α) : SameMembers [a, b] [b, a, b] := by
  intro x
  simp only [List.mem_cons]
  tauto

/-- Fields in another order, one of them twice and one with blanks, and accesses in another order,
one of them twice: one project, and the same findings for either order of its sets. -/
theorem findings_of_sameEntries_display :
    (displayDraft [.text "width", .text "scale"] [.pair "World" "y", .pair "World" "x"]).build =
      .ok (displayProject ["scale", "width"] [⟨"World", "x"⟩, ⟨"World", "y"⟩]) ∧
    (displayDraft [.text " scale ", .text "width", .text "scale"]
      [.pair "World" "x", .pair "World" "y", .pair "World" "x"]).build =
      .ok (displayProject ["scale", "width"] [⟨"World", "x"⟩, ⟨"World", "y"⟩]) ∧
    ((Analyzer.ofSettings {}).analyze
      (displayProject ["scale", "width"] [⟨"World", "y"⟩, ⟨"World", "x"⟩]) []).SameFindings
        ((Analyzer.ofSettings {}).analyze
          (displayProject ["width", "scale"] [⟨"World", "x"⟩, ⟨"World", "y"⟩]) []) := by
  have hbuilt : (displayDraft [.text "width", .text "scale"]
      [.pair "World" "y", .pair "World" "x"]).build =
        .ok (displayProject ["scale", "width"] [⟨"World", "x"⟩, ⟨"World", "y"⟩]) := by
    rfl
  have hfields : SameMembers ([.text "width", .text "scale"].map Value.withoutBlanks)
      ([.text " scale ", .text "width", .text "scale"].map Value.withoutBlanks) := by
    have hblanks : Text.trimmed " scale " = Text.trimmed "scale" := by decide +kernel
    simp only [List.map_cons, List.map_nil, Value.withoutBlanks, hblanks]
    exact sameMembers_turned _ _
  obtain ⟨hbuilt', hfindings⟩ := findings_of_sameEntries
    (displayDraft_sameEntries hfields (sameMembers_turned _ _)) hbuilt {} []
  exact ⟨hbuilt, hbuilt', hfindings _ _
    (displayProject_rearranges (.refl _) (.swap _ _ _))
    (displayProject_rearranges (.swap _ _ _) (.refl _))⟩

end CodeSmells
