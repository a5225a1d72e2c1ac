import CodeSmells.Proofs.Analysis.Isolation
import CodeSmells.Proofs.Detector.Clumps

/-!
# Findings and the order of classes

A project lists its classes in some order, and an analysis goes through them in this order. Another
order leads to results in another order, and to details that list the same things in another order;
`findings_of_reordered` shows that nothing else changes, provided that the names of the classes and
the labels of the methods are distinct. Results are compared by their readings: the smell, the
place, whether it was detected and how grave it is.

Methods are looked at by themselves. For classes and for the whole project,
`catalog_ignoresClassOrder` collects that every detector gives the same verdict, its details apart,
or breaks off with the same fault. What a detector contributes to the readings depends on that alone
(`Settings.readings_eq`), so the contributions to the readings are permuted with the classes
(`Analyzer.readings_perm`).
-/

set_option autoImplicit false
set_option relaxedAutoImplicit false

namespace CodeSmells

/-- No detector of the catalog sees the order of the classes. -/
theorem catalog_ignoresClassOrder : ∀ d ∈ Catalog.detectors, d.IgnoresClassOrder := by
  unfold Catalog.detectors
  simp only [List.forall_mem_cons, List.not_mem_nil, false_implies, implies_true, and_true]
  exact ⟨LongMethod.detector_ignoresClassOrder, LargeClass.detector_ignoresClassOrder,
    DuplicateCode.detector_ignoresClassOrder, LongParameterList.detector_ignoresClassOrder,
    FeatureEnvy.detector_ignoresClassOrder, DataClumps.detector_ignoresClassOrder,
    PrimitiveObsession.detector_ignoresClassOrder, SwitchStatements.detector_ignoresClassOrder,
    LazyClass.detector_ignoresClassOrder, SpeculativeGenerality.detector_ignoresClassOrder,
    TemporaryField.detector_ignoresClassOrder, MessageChains.detector_ignoresClassOrder,
    MiddleMan.detector_ignoresClassOrder, InappropriateIntimacy.detector_ignoresClassOrder,
    DataClass.detector_ignoresClassOrder, RefusedBequest.detector_ignoresClassOrder,
    Comments.detector_ignoresClassOrder, GlobalState.detector_ignoresClassOrder,
    ShotgunSurgery.detector_ignoresClassOrder, DivergentChange.detector_ignoresClassOrder⟩

/-! ### Readings -/

/-- What a result says, its details apart: the smell, the place, whether it was detected and how
grave it is. -/
def Result.reading (r : Result) : String × Location × Bool × Option Severity :=
  (r.smell, r.location, r.detected, r.severity)

/-- The reading of a result can be told from the mark of its verdict. -/
theorem Verdict.exists_reading (smell : String) (v : Verdict) :
    ∃ r : Result, v.toResult smell = .ok r ∧
      r.reading =
        (smell, v.location, v.detected, if v.detected then some v.severity else none) := by
  have h : v.detected = (if v.detected then some v.severity else none).isSome := by
    cases v.detected <;> rfl
  refine ⟨⟨smell, v.detected, _, v.location, v.details, h⟩, ?_, rfl⟩
  rw [Verdict.toResult, Result.make, dif_pos h]
  rfl

/-- Verdicts that agree apart from their details lead to results that read alike. -/
theorem Detector.reading_detect {d : Detector} {scope scope' : Scope} (given : Entries)
    (hkind : scope.kind = scope'.kind)
    (h : SameVerdict (d.evaluate scope ⟨given, d.defaults⟩)
      (d.evaluate scope' ⟨given, d.defaults⟩)) :
    SameEnding (fun r r' ↦ r.map Result.reading = r'.map Result.reading) (d.detect scope given)
      (d.detect scope' given) := by
  unfold Detector.detect
  rw [hkind]
  split
  · refine SameEnding.bind h fun v w hvw ↦ ?_
    rcases v with _ | v
    · rcases w with _ | w
      · exact .answer rfl
      · cases hvw
    · rcases w with _ | w
      · cases hvw
      · obtain ⟨r, hr, hreading⟩ := v.exists_reading d.name
        obtain ⟨r', hr', hreading'⟩ := w.exists_reading d.name
        simp only [Option.map_some, Verdict.mark, Option.some.injEq, Prod.mk.injEq] at hvw
        obtain ⟨hdetected, hseverity, hlocation⟩ := hvw
        simp only [hr, hr', bind, Except.bind]
        refine .answer ?_
        rw [Option.map_some, Option.map_some, hreading, hreading', hdetected, hseverity, hlocation]
  · exact .answer rfl

/-- A contribution with the reading of its result in place of the result. -/
def readingOf (c : Except DetectorFailure Result) :
    Except DetectorFailure (String × Location × Bool × Option Severity) :=
  c.map Result.reading

/-- What a detector contributes to the readings depends on its verdict, details apart. -/
theorem Settings.reading_contribution {s : Settings} {d : Detector} {scope scope' : Scope}
    (hkind : scope.kind = scope'.kind) (hdescribe : scope.describe = scope'.describe)
    (h : ∀ t, SameVerdict (d.evaluate scope t) (d.evaluate scope' t)) :
    (s.contribution scope d).map readingOf = (s.contribution scope' d).map readingOf := by
  unfold Settings.contribution
  rw [hdescribe]
  have hdetect := Detector.reading_detect (s.thresholdsFor d) hkind (h _)
  generalize d.detect scope (s.thresholdsFor d) = x at hdetect
  generalize d.detect scope' (s.thresholdsFor d) = y at hdetect
  cases hdetect with
  | fault e => rfl
  | @answer r r' hreading =>
    rcases r with _ | r
    · rcases r' with _ | r'
      · rfl
      · cases hreading
    · rcases r' with _ | r'
      · cases hreading
      · simp only [Option.map_some, Option.some.injEq] at hreading
        simp only [Option.map_some, readingOf, Except.map, hreading]

/-! ### The whole analysis -/

/-- The readings that detectors contribute at a scope. -/
def Settings.readings (s : Settings) (ds : List Detector) (scope : Scope) :
    List (Except DetectorFailure (String × Location × Bool × Option Severity)) :=
  (ds.filterMap (s.contribution scope)).map readingOf

theorem Settings.readings_eq {s : Settings} {ds : List Detector} {scope scope' : Scope}
    (hkind : scope.kind = scope'.kind) (hdescribe : scope.describe = scope'.describe)
    (h : ∀ d ∈ ds, ∀ t, SameVerdict (d.evaluate scope t) (d.evaluate scope' t)) :
    s.readings ds scope = s.readings ds scope' := by
  unfold Settings.readings
  rw [List.map_filterMap, List.map_filterMap]
  exact List.filterMap_congr fun d hd ↦ reading_contribution hkind hdescribe (h d hd)

/-- The contributions to the readings are permuted with the classes. -/
theorem Analyzer.readings_perm {q p : Project} (h : q.Reorders p) (s : Settings) :
    (((Analyzer.ofSettings s).contributions q).map readingOf).Perm
      (((Analyzer.ofSettings s).contributions p).map readingOf) := by
  have hcatalog : ∀ d ∈ (Analyzer.ofSettings s).detectors, d.IgnoresClassOrder := fun d hd ↦
    catalog_ignoresClassOrder d (Analyzer.mem_catalog_of_mem_ofSettings hd)
  have hdistinct := Analyzer.ofSettings_distinct s
  rw [show Analyzer.ofSettings s = ⟨s, (Analyzer.ofSettings s).detectors⟩ from rfl,
    Analyzer.contributions_eq hdistinct, Analyzer.contributions_eq hdistinct, List.map_flatMap,
    List.map_flatMap]
  generalize (Analyzer.ofSettings s).detectors = ds at hcatalog
  show (q.scopes.flatMap (s.readings ds)).Perm (p.scopes.flatMap (s.readings ds))
  have hclass : ∀ k : Class, s.readings ds (.ofClass k q k.filePath) =
      s.readings ds (.ofClass k p k.filePath) := fun k ↦
    Settings.readings_eq rfl rfl fun d hd t ↦ (hcatalog d hd).perClass q p k k.filePath t h
  have hproject : s.readings ds (.ofProject q) = s.readings ds (.ofProject p) :=
    Settings.readings_eq rfl (by simp only [Scope.describe, h.name]) fun d hd t ↦
      (hcatalog d hd).perProject q p t h
  simp only [Project.scopes, List.flatMap_append, List.flatMap_map, List.flatMap_singleton, hclass,
    hproject]
  exact (((h.classes.flatMap_right _).flatMap_right _).append (h.classes.flatMap_right _)).append
    (.refl _)

/-- The results of an analysis, read one by one, are the readings among the contributions. -/
theorem Analyzer.map_reading_results (a : Analyzer) (p : Project) (metadata : Entries) :
    (a.analyze p metadata).results.map Result.reading =
      ((a.contributions p).map readingOf).filterMap Except.toOption := by
  simp only [Analyzer.analyze, List.map_filterMap, List.filterMap_map]
  exact List.filterMap_congr fun c _ ↦ by cases c <;> rfl

/-- The failure in a contribution. -/
def failure? {α : Type} : Except DetectorFailure α → Option DetectorFailure
  | .error f => some f
  | .ok _ => none

theorem Analyzer.failures_eq_readings (a : Analyzer) (p : Project) (metadata : Entries) :
    (a.analyze p metadata).failures = ((a.contributions p).map readingOf).filterMap failure? := by
  simp only [Analyzer.analyze, List.filterMap_map]
  exact List.filterMap_congr fun c _ ↦ by cases c <;> rfl

/-- What is found in the whole of a project does not depend on the order of its classes: as many
duplicates, as many clumps, the same surgeries, and the same intimate pairs without their order; or
the same fault. -/
structure Project.AgreesOnWhole (q p : Project) (t : Thresholds) : Prop where
  duplicates : SameEnding (fun f g ↦ f.duplicates.length = g.duplicates.length)
    (DuplicateCode.findings q t) (DuplicateCode.findings p t)
  clumps : SameEnding (fun f g ↦ f.clumps.length = g.clumps.length)
    (DataClumps.findings q t) (DataClumps.findings p t)
  surgeries : SameEnding (fun f g ↦ f.surgeries.Perm g.surgeries)
    (ShotgunSurgery.findings q t) (ShotgunSurgery.findings p t)
  intimates : SameEnding (fun f g ↦ (f.pairs.map InappropriateIntimacy.IntimatePair.bond).Perm
      (g.pairs.map InappropriateIntimacy.IntimatePair.bond))
    (InappropriateIntimacy.findings (.ofProject q) t)
    (InappropriateIntimacy.findings (.ofProject p) t)

theorem Project.Reorders.agreesOnWhole {q p : Project} (h : q.Reorders p) (t : Thresholds) :
    q.AgreesOnWhole p t where
  duplicates := (DuplicateCode.findings_reordered h t).mono fun f g hfg ↦ by
    simpa only [List.length_map] using hfg.length_eq
  clumps := (DataClumps.findings_reordered h t).mono fun f g hfg ↦ by
    simpa only [List.length_map] using hfg.length_eq
  surgeries := ShotgunSurgery.findings_reordered h t
  intimates := InappropriateIntimacy.findings_reordered h t

/-- The order of the classes does not matter: in whatever order a project lists them, and under all
settings, the readings of the results are the same, each as often, and so are the failures; and what
is found in the whole project agrees under all thresholds. Assumes: distinct names of classes and
distinct labels of methods. -/
theorem findings_of_reordered {p : Project} (hnames : p.classNames.Nodup)
    (hlabels : p.methodLabels.Nodup) {classes : List Class} (hclasses : classes.Perm p.classes)
    (s : Settings) (metadata : Entries) :
    let q := { p with classes := classes }
    let o := (Analyzer.ofSettings s).analyze p metadata
    let o' := (Analyzer.ofSettings s).analyze q metadata
    (o'.results.map Result.reading).Perm (o.results.map Result.reading) ∧
      o'.failures.Perm o.failures ∧ ∀ t, q.AgreesOnWhole p t := by
  intro q o o'
  have hreorders : q.Reorders p := ⟨hclasses, rfl, rfl, hnames, hlabels⟩
  have hreadings := Analyzer.readings_perm hreorders s
  refine ⟨?_, ?_, hreorders.agreesOnWhole⟩
  · rw [Analyzer.map_reading_results, Analyzer.map_reading_results]
    exact hreadings.filterMap _
  · rw [Analyzer.failures_eq_readings, Analyzer.failures_eq_readings]
    exact hreadings.filterMap _

/-- A class whose only method reads four private fields of another class. -/
def prying (name other : String) : Class where
  name := name
  fields := []
  methods := [⟨"peek", [], [], [], [⟨other, "_a"⟩, ⟨other, "_b"⟩, ⟨other, "_c"⟩, ⟨other, "_d"⟩],
    none⟩]
  parent := none
  exportedFields := []
  autoload := false
  filePath := some (name ++ ".gd")
  typedFields := []

/-- Two classes that read each other's private fields, in the given order. -/
def pryingPair (classes : List Class) : Project :=
  ⟨classes, [], [], [], "game"⟩

/-- The two classes are found to be intimate in either order, the one first that is listed first. -/
theorem findings_of_reordered_prying :
    let p := pryingPair [prying "Lock" "Key", prying "Key" "Lock"]
    let q := pryingPair [prying "Key" "Lock", prying "Lock" "Key"]
    (((Analyzer.ofSettings {}).analyze q []).results.map Result.reading).Perm
        (((Analyzer.ofSettings {}).analyze p []).results.map Result.reading) ∧
      (InappropriateIntimacy.findings (.ofProject p)
        ⟨[], InappropriateIntimacy.detector.defaults⟩).map (fun f ↦ f.pairs.map (·.first)) =
          .ok ["Lock"] ∧
      (InappropriateIntimacy.findings (.ofProject q)
        ⟨[], InappropriateIntimacy.detector.defaults⟩).map (fun f ↦ f.pairs.map (·.first)) =
          .ok ["Key"] := by
  intro p q
  have hnames : p.classNames.Nodup := by decide +kernel
  have hlabels : p.methodLabels.Nodup := by decide +kernel
  have hclasses : [prying "Key" "Lock", prying "Lock" "Key"].Perm p.classes := .swap _ _ _
  exact ⟨(findings_of_reordered hnames hlabels hclasses {} []).1, rfl, rfl⟩

end CodeSmells
