import CodeSmells.Catalog
import CodeSmells.Proofs.Detector.Selection
import CodeSmells.Proofs.Grouping
import CodeSmells.Proofs.Metric.Similarity
import CodeSmells.Proofs.Model.NameSet
import Mathlib.Data.Sym.Sym2

/-!
# Detectors and the order of classes

A detector that looks at a class may ask the project for the parent, the subclasses or the callers
of its methods, and a detector that looks at a project goes through its classes. `Reorders` relates
two projects with the same classes in another order, where the names of the classes and the labels
of the methods are distinct. What a name or a call refers to is then the same (`findClass_eq`,
`resolveCallee_eq`).

`IgnoresClassOrder` says that a detector gives the same verdict for both, apart from the details,
which list what was found in the order in which it was found. Most detectors look at one class or
method at a time. For the others there is a theorem on the findings of a reordered project:
duplicates are as many and as alike, since similarity has no direction (`blockSimilarity_comm`),
intimate pairs are the same without their order (`bond_intimacy_comm`), and surgeries are the same.
Data clumps have a module of their own.
-/

set_option autoImplicit false
set_option relaxedAutoImplicit false

namespace CodeSmells

/-! ### Projects with their classes in another order -/

/-- The labels of all methods in order. -/
def Project.methodLabels (p : Project) : List String :=
  p.classes.flatMap fun k ↦ k.methods.map (DataClumps.label k)

/-- The first project has the classes of the second in another order. Names of classes and labels of
methods are distinct. -/
structure Project.Reorders (q p : Project) : Prop where
  classes : q.classes.Perm p.classes
  autoloads : q.autoloads = p.autoloads
  name : q.name = p.name
  distinctNames : p.classNames.Nodup
  distinctLabels : p.methodLabels.Nodup

namespace Project.Reorders

variable {q p : Project}

theorem classNames (h : q.Reorders p) : q.classNames.Perm p.classNames :=
  h.classes.map _

theorem methodLabels (h : q.Reorders p) : q.methodLabels.Perm p.methodLabels :=
  h.classes.flatMap_right _

theorem findClass_eq (h : q.Reorders p) (name : String) : q.findClass name = p.findClass name :=
  find?_perm h.classes h.distinctNames name

theorem lookupFrom_eq (h : q.Reorders p) (method : String) (fuel : Nat) (seen : List String)
    (k : Option Class) : q.lookupFrom method fuel seen k = p.lookupFrom method fuel seen k := by
  induction fuel generalizing seen k with
  | zero => rfl
  | succ fuel ih =>
    cases k with
    | none => rfl
    | some k => simp only [lookupFrom, h.findClass_eq, ih]

theorem lookupInherited_eq (h : q.Reorders p) (className method : String) :
    q.lookupInherited className method = p.lookupInherited className method := by
  simp only [lookupInherited, h.classes.length_eq, h.findClass_eq, h.lookupFrom_eq]

/-- One class only has a method in either order, or there is not one only in either. -/
theorem uniqueOwner_eq (h : q.Reorders p) (method : String) :
    q.uniqueOwner method = p.uniqueOwner method := by
  have howners := h.classes.filter fun k ↦ k.hasMethod method
  unfold uniqueOwner
  generalize q.classes.filter (fun k ↦ k.hasMethod method) = xs at howners ⊢
  generalize p.classes.filter (fun k ↦ k.hasMethod method) = ys at howners ⊢
  rcases ys with _ | ⟨k, _ | ⟨l, rest⟩⟩
  · rw [List.perm_nil.mp howners]
  · rw [List.perm_singleton.mp howners]
  · rcases xs with _ | ⟨k', _ | ⟨l', rest'⟩⟩
    · rfl
    · exact absurd howners.length_eq (by simp)
    · rfl

theorem resolveCallee_eq (h : q.Reorders p) (e : CallEdge) :
    q.resolveCallee e = p.resolveCallee e := by
  simp only [resolveCallee, h.lookupInherited_eq, h.findClass_eq, h.uniqueOwner_eq]

theorem dependencies_eq (h : q.Reorders p) (k : Class) : k.dependencies q = k.dependencies p := by
  simp only [Class.dependencies, h.classNames.contains_eq]

end Project.Reorders

/-! ### Verdicts that agree apart from their details -/

/-- What a verdict says, its details apart. -/
def Verdict.mark (v : Verdict) : Bool × Severity × Location :=
  (v.detected, v.severity, v.location)

/-- Two detections end with verdicts that agree apart from their details, both with none, or with
the same fault. -/
def SameVerdict (x y : Except Fault (Option Verdict)) : Prop :=
  SameEnding (fun v w ↦ v.map Verdict.mark = w.map Verdict.mark) x y

theorem SameVerdict.of_eq {x y : Except Fault (Option Verdict)} (h : x = y) : SameVerdict x y := by
  subst h
  exact SameEnding.refl (R := fun v w ↦ v.map Verdict.mark = w.map Verdict.mark) (fun _ ↦ rfl) x

/-- A detector says the same about classes and about the whole when the classes of a project stand
in another order. -/
structure Detector.IgnoresClassOrder (d : Detector) : Prop where
  perClass : ∀ (q p : Project) (k : Class) (path : Option String) (t : Thresholds), q.Reorders p →
    SameVerdict (d.evaluate (.ofClass k q path) t) (d.evaluate (.ofClass k p path) t)
  perProject : ∀ (q p : Project) (t : Thresholds), q.Reorders p →
    SameVerdict (d.evaluate (.ofProject q) t) (d.evaluate (.ofProject p) t)

/-- A detector that looks at one class or method at a time. -/
theorem Detector.ignoresClassOrder_of_local {d : Detector}
    (hclass : ∀ q p k path t, d.evaluate (.ofClass k q path) t = d.evaluate (.ofClass k p path) t)
    (hproject : ∀ q p t, d.evaluate (.ofProject q) t = d.evaluate (.ofProject p) t) :
    d.IgnoresClassOrder :=
  ⟨fun q p k path t _ ↦ .of_eq (hclass q p k path t), fun q p t _ ↦ .of_eq (hproject q p t)⟩

theorem LongMethod.detector_ignoresClassOrder : LongMethod.detector.IgnoresClassOrder :=
  Detector.ignoresClassOrder_of_local (fun _ _ _ _ _ ↦ rfl) fun _ _ _ ↦ rfl

/-- The coupling of a class is a detail, on which the verdict does not depend. -/
theorem LargeClass.detector_ignoresClassOrder : LargeClass.detector.IgnoresClassOrder where
  perClass _ p k _ t _ :=
    SameEnding.bind_left ((findings k p).detected t) fun _ ↦ .answer rfl
  perProject _ _ _ _ := .of_eq rfl

/-! ### Duplicate code -/

namespace DuplicateCode

/-- The duplicates of a project in another order are as many, and as alike. -/
theorem findings_reordered {q p : Project} (h : q.Reorders p) (t : Thresholds) :
    SameEnding (fun f g ↦ (f.duplicates.map (·.similarity)).Perm (g.duplicates.map (·.similarity)))
      (findings q t) (findings p t) := by
  have hblocks : (blocks q).Perm (blocks p) := h.classes.flatMap_right _
  refine SameEnding.bind_left _ fun minLines ↦ SameEnding.bind_left _ fun minSimilarity ↦ ?_
  refine SameEnding.bind (filterM_perm (allOrNone_atLeast _ minLines).oneFault hblocks)
    fun long long' hlong ↦ ?_
  -- The test looks at the similarity alone, and that of two blocks has no direction.
  have hone : OneFault fun x : Quantity ↦
      if Quantity.lt (.finite 0) x then Measured.atLeast x minSimilarity else .ok false :=
    OneFault.ite (allOrNone_compareWith _ _ id "float" minSimilarity).oneFault
  refine SameEnding.bind (filterM_sameEnding hone (fun _ _ ↦ rfl) (fun _ _ ↦ rfl) ?_)
    fun ds ds' hds ↦ .answer hds
  simp only [List.map_map]
  exact pairs_perm (fun a b ↦ blockSimilarity_comm a.lines b.lines) hlong

theorem detector_ignoresClassOrder : detector.IgnoresClassOrder where
  perClass _ _ _ _ _ _ := .of_eq rfl
  perProject q p t h := by
    refine SameEnding.bind (findings_reordered h t) fun f g hfg ↦ .answer ?_
    have hlength : f.duplicates.length = g.duplicates.length := by
      simpa only [List.length_map] using hfg.length_eq
    have hempty : f.duplicates.isEmpty = g.duplicates.isEmpty := by
      simpa only [List.isEmpty_map] using hfg.isEmpty_eq
    simp only [Option.map_some, Verdict.mark, Findings.severity, hempty, hlength, Scope.location,
      h.name]

end DuplicateCode

/-! ### Detectors that look at the classes of a project one by one -/

theorem LongParameterList.detector_ignoresClassOrder :
    LongParameterList.detector.IgnoresClassOrder :=
  Detector.ignoresClassOrder_of_local (fun _ _ _ _ _ ↦ rfl) fun _ _ _ ↦ rfl

theorem FeatureEnvy.detector_ignoresClassOrder : FeatureEnvy.detector.IgnoresClassOrder :=
  Detector.ignoresClassOrder_of_local (fun _ _ _ _ _ ↦ rfl) fun _ _ _ ↦ rfl

theorem PrimitiveObsession.detector_ignoresClassOrder :
    PrimitiveObsession.detector.IgnoresClassOrder :=
  Detector.ignoresClassOrder_of_local (fun _ _ _ _ _ ↦ rfl) fun _ _ _ ↦ rfl

theorem SwitchStatements.detector_ignoresClassOrder : SwitchStatements.detector.IgnoresClassOrder :=
  Detector.ignoresClassOrder_of_local (fun _ _ _ _ _ ↦ rfl) fun _ _ _ ↦ rfl

theorem LazyClass.detector_ignoresClassOrder : LazyClass.detector.IgnoresClassOrder :=
  Detector.ignoresClassOrder_of_local (fun _ _ _ _ _ ↦ rfl) fun _ _ _ ↦ rfl

theorem TemporaryField.detector_ignoresClassOrder : TemporaryField.detector.IgnoresClassOrder :=
  Detector.ignoresClassOrder_of_local (fun _ _ _ _ _ ↦ rfl) fun _ _ _ ↦ rfl

theorem MessageChains.detector_ignoresClassOrder : MessageChains.detector.IgnoresClassOrder where
  perClass _ _ _ _ _ _ := .of_eq rfl
  perProject q p t h := by
    refine SameEnding.bind_left (findings [] t) fun f ↦ .answer ?_
    simp only [Option.map_some, Verdict.mark, Scope.location, h.name]

theorem MiddleMan.detector_ignoresClassOrder : MiddleMan.detector.IgnoresClassOrder :=
  Detector.ignoresClassOrder_of_local (fun _ _ _ _ _ ↦ rfl) fun _ _ _ ↦ rfl

theorem DataClass.detector_ignoresClassOrder : DataClass.detector.IgnoresClassOrder :=
  Detector.ignoresClassOrder_of_local (fun _ _ _ _ _ ↦ rfl) fun _ _ _ ↦ rfl

theorem Comments.detector_ignoresClassOrder : Comments.detector.IgnoresClassOrder :=
  Detector.ignoresClassOrder_of_local (fun _ _ _ _ _ ↦ rfl) fun _ _ _ ↦ rfl

theorem DivergentChange.detector_ignoresClassOrder : DivergentChange.detector.IgnoresClassOrder :=
  Detector.ignoresClassOrder_of_local (fun _ _ _ _ _ ↦ rfl) fun _ _ _ ↦ rfl

/-- The autoloads are listed apart from the classes. -/
theorem GlobalState.detector_ignoresClassOrder : GlobalState.detector.IgnoresClassOrder where
  perClass _ _ _ _ _ _ := .of_eq rfl
  perProject q p t h := by
    refine .of_eq ?_
    simp only [detector, findings, Scope.location, h.autoloads, h.name]

/-- Distinct names make the parent of a class the same in either order. -/
theorem RefusedBequest.detector_ignoresClassOrder : RefusedBequest.detector.IgnoresClassOrder where
  perClass q p k path t h := by
    have hparent : k.parent.bind q.findClass = k.parent.bind p.findClass := by
      rw [funext h.findClass_eq]
    refine .of_eq ?_
    simp only [detector, hparent]
    rfl
  perProject _ _ _ _ := .of_eq rfl

/-! ### Speculative generality -/

namespace SpeculativeGenerality

theorem unusedMethods_reordered {q p : Project} (h : q.Reorders p) (k : Class) :
    unusedMethods (referencedNames q) k = unusedMethods (referencedNames p) k := by
  have hnames : (referencedNames q).Perm (referencedNames p) := h.classes.flatMap_right _
  simp only [unusedMethods, hnames.contains_eq]

theorem isNeedlesslyAbstract_reordered {q p : Project} (h : q.Reorders p) (k : Class) :
    isNeedlesslyAbstract q k = isNeedlesslyAbstract p k := by
  have hsubclasses : (q.subclassesOf k.name).length = (p.subclassesOf k.name).length :=
    (h.classes.filter _).length_eq
  simp only [isNeedlesslyAbstract, hsubclasses]

/-- What is found in some classes is found in them in another order. -/
theorem findings_perm {q p : Project} (h : q.Reorders p) {ks ls : List Class} (hks : ks.Perm ls) :
    (findings q ks).unusedMethods.Perm (findings p ls).unusedMethods ∧
      (findings q ks).unusedParameters.Perm (findings p ls).unusedParameters ∧
      (findings q ks).abstractClasses.Perm (findings p ls).abstractClasses := by
  simp only [findings, funext (unusedMethods_reordered h),
    funext (isNeedlesslyAbstract_reordered h)]
  exact ⟨hks.flatMap_right _, hks.flatMap_right _, (hks.filter _).map _⟩

theorem verdict_reordered {q p : Project} (h : q.Reorders p) {ks ls : List Class}
    (hks : ks.Perm ls) {scope scope' : Scope} (hlocation : scope.location = scope'.location)
    (t : Thresholds) : SameVerdict (verdict scope q ks t) (verdict scope' p ls t) := by
  obtain ⟨hmethods, hparameters, hclasses⟩ := findings_perm h hks
  have hdetected : (findings q ks).detected t = (findings p ls).detected t := by
    simp only [Findings.detected, hmethods.length_eq, hparameters.length_eq, hclasses.isEmpty_eq]
  have hseverity : (findings q ks).severity = (findings p ls).severity := by
    simp only [Findings.severity, hmethods.length_eq, hparameters.length_eq]
  simp only [verdict, hdetected, hseverity, hlocation]
  exact SameEnding.bind_left _ fun _ ↦ .answer rfl

theorem detector_ignoresClassOrder : detector.IgnoresClassOrder where
  perClass _ _ _ _ t h := verdict_reordered h (.refl _) rfl t
  perProject _ _ t h := verdict_reordered h h.classes (by simp only [Scope.location, h.name]) t

end SpeculativeGenerality

/-! ### Inappropriate intimacy -/

namespace InappropriateIntimacy

/-- Two classes without an order between them, and what they share. -/
structure Bond where
  classes : Sym2 String
  bidirectional : Bool
  sharedIntimacy : Nat
  privateFields : List String

/-- A pair without its order. -/
def IntimatePair.bond (p : IntimatePair) : Bond :=
  ⟨s(p.first, p.second), p.bidirectional, p.sharedIntimacy, p.privateFields⟩

/-- Two classes share the same in either direction. -/
theorem bond_intimacy_comm (a b : Class) : (intimacy a b).bond = (intimacy b a).bond := by
  have htouched : (privateAccesses a b.name ++ privateAccesses b a.name).Perm
      (privateAccesses b a.name ++ privateAccesses a b.name) :=
    List.perm_append_comm
  simp only [IntimatePair.bond, intimacy, htouched.length_eq, sortedSet_eq_of_perm htouched,
    Sym2.eq_swap, Bool.and_comm (a.references b.name)]

/-- Whether a pair is too intimate can be told without its order. -/
def isClose (t : Thresholds) (b : Bond) : Except Fault Bool := do
  let limit ← t.get "max_shared_intimacy"
  let bothWays ← t.get "require_bidirectional"
  if b.bidirectional || !bothWays.isTruthy then Measured.above b.sharedIntimacy limit
  else return false

theorem oneFault_isClose (t : Thresholds) : OneFault (isClose t) :=
  OneFault.bind_left fun limit ↦ OneFault.bind_left fun _ ↦
    OneFault.ite (allOrNone_above _ limit).oneFault

/-- Candidates that are the same without their order lead to the same intimate pairs. -/
theorem findings_sameEnding {scope scope' : Scope}
    (h : ((candidates scope).map IntimatePair.bond).Perm
      ((candidates scope').map IntimatePair.bond)) (t : Thresholds) :
    SameEnding (fun f g ↦ (f.pairs.map IntimatePair.bond).Perm (g.pairs.map IntimatePair.bond))
      (findings scope t) (findings scope' t) :=
  SameEnding.bind (filterM_sameEnding (oneFault_isClose t) (fun _ _ ↦ rfl) (fun _ _ ↦ rfl) h)
    fun _ _ hpairs ↦ .answer hpairs

/-- The intimate pairs of a project in another order are the same without their order. -/
theorem findings_reordered {q p : Project} (h : q.Reorders p) (t : Thresholds) :
    SameEnding (fun f g ↦ (f.pairs.map IntimatePair.bond).Perm (g.pairs.map IntimatePair.bond))
      (findings (.ofProject q) t) (findings (.ofProject p) t) := by
  refine findings_sameEnding ?_ t
  simp only [candidates, List.map_map]
  exact pairs_perm bond_intimacy_comm h.classes

theorem verdict_sameEnding {scope scope' : Scope} {t : Thresholds}
    (h : SameEnding (fun f g ↦
      (f.pairs.map IntimatePair.bond).Perm (g.pairs.map IntimatePair.bond))
      (findings scope t) (findings scope' t)) (hlocation : scope.location = scope'.location) :
    SameVerdict (detector.evaluate scope t) (detector.evaluate scope' t) := by
  refine SameEnding.bind h fun f g hfg ↦ .answer ?_
  have hempty : f.pairs.isEmpty = g.pairs.isEmpty := by
    simpa only [List.isEmpty_map] using hfg.isEmpty_eq
  have hworst : f.worst = g.worst := by
    have hcounts := hfg.map Bond.sharedIntimacy
    rw [List.map_map, List.map_map] at hcounts
    exact greatest_perm hcounts
  simp only [Option.map_some, Verdict.mark, Findings.severity, hempty, hworst, hlocation]

theorem detector_ignoresClassOrder : detector.IgnoresClassOrder where
  perClass _ _ _ _ t h :=
    verdict_sameEnding (findings_sameEnding (((h.classes.filter _).map _).map _) t) rfl
  perProject _ _ t h :=
    verdict_sameEnding (findings_reordered h t) (by simp only [Scope.location, h.name])

end InappropriateIntimacy

/-! ### Shotgun surgery -/

namespace ShotgunSurgery

theorem callPairs_reordered {q p : Project} (h : q.Reorders p) :
    (callPairs q).Perm (callPairs p) := by
  have hcallees : foreignCallees q = foreignCallees p := by
    funext k
    simp only [foreignCallees, h.resolveCallee_eq]
  simp only [callPairs, hcallees]
  exact h.classes.flatMap_right _

theorem classCandidates_reordered {q p : Project} (h : q.Reorders p) :
    (classCandidates q).Perm (classCandidates p) := by
  simp only [classCandidates, h.dependencies_eq]
  exact h.classes.map _

/-- The called methods are sorted, and so are their callers. -/
theorem methodCandidates_reordered {q p : Project} (h : q.Reorders p) :
    methodCandidates q = methodCandidates p := by
  have hcalls := callPairs_reordered h
  have hcallers : callersOf (callPairs q) = callersOf (callPairs p) :=
    funext fun _ ↦ sortedSet_eq_of_perm ((hcalls.filter _).map _)
  simp only [methodCandidates, hcallers, sortedSet_eq_of_perm (hcalls.map _)]

/-- The surgeries of a project in another order are the same. -/
theorem findings_reordered {q p : Project} (h : q.Reorders p) (t : Thresholds) :
    SameEnding (fun f g ↦ f.surgeries.Perm g.surgeries) (findings q t) (findings p t) := by
  refine SameEnding.bind_left _ fun maxClasses ↦ SameEnding.bind_left _ fun maxCallers ↦ ?_
  refine SameEnding.bind (filterM_perm (allOrNone_above _ maxClasses).oneFault
    (classCandidates_reordered h)) fun ofClasses ofClasses' hclasses ↦ ?_
  rw [methodCandidates_reordered h]
  exact SameEnding.bind_left _ fun ofMethods ↦ .answer (hclasses.append_right ofMethods)

theorem detector_ignoresClassOrder : detector.IgnoresClassOrder where
  perClass _ _ _ _ _ _ := .of_eq rfl
  perProject q p t h := by
    refine SameEnding.bind (findings_reordered h t) fun f g hfg ↦ .answer ?_
    have hworst : f.worst = g.worst := greatest_perm (hfg.map _)
    simp only [Option.map_some, Verdict.mark, Findings.severity, hfg.isEmpty_eq, hworst,
      Scope.location, h.name]

end ShotgunSurgery

end CodeSmells
