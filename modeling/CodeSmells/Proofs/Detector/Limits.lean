import CodeSmells.Proofs.Detector.Growth

/-!
# Thresholds act in one direction

A limit that is raised never raises a severity, and a threshold that a measure has to stay below
never lowers one when it is raised. `thresholds_act_one_way` says so for every detector of the
catalog and every scope, and that whether a detector applies at all does not depend on thresholds.

Every detector of the catalog is `Directed` at every scope: its verdict does not fall when its
thresholds ease, and it gives one under all thresholds or under none (`catalog_directed`). The ten
detectors of growing code need nothing new, for code grows into itself. Two tables of thresholds
that differ in one number (`Thresholds.RaisedAt`) are such that one of them eases the other.
-/

set_option autoImplicit false
set_option relaxedAutoImplicit false

namespace CodeSmells

open List (SublistForall₂ Forall₂)

/-- A verdict that depends on thresholds is directed if it does not fall when they ease, and if it
is there under all of them or under none. -/
structure Directed (run : Thresholds → Except Fault (Option Verdict)) : Prop where
  noGraver : ∀ {t t' : Thresholds}, t.Eases t' → NoGraver (run t) (run t')
  applies : (∀ t, Applies (run t)) ∨ ∀ t, run t = .ok none

theorem directed_none : Directed fun _ ↦ .ok none where
  noGraver _ := noGraver_none
  applies := Or.inr fun _ ↦ rfl

/-- Grown code includes the code as it is. -/
theorem directed_of_grows {d : Detector} {scope : Scope} (h : Grows d scope scope) :
    Directed (d.evaluate scope) where
  noGraver ht := h.noGraver ht
  applies := Or.inl fun t ↦ (h.applies t).1

/-- A verdict on findings that do not depend on thresholds. -/
theorem directed_of_detected {detected : Thresholds → Except Fault Bool} {s : Severity}
    {place : Location} {details : Thresholds → Value}
    (h : ∀ {t t' : Thresholds}, t.Eases t' → WhenBoth (· ≤ ·) (detected t) (detected t')) :
    Directed fun t ↦ do return some ⟨← detected t, s, place, details t⟩ where
  noGraver ht := noGraver_of_detected (h ht) le_rfl
  applies := Or.inl fun _ ↦ .bind fun _ ↦ applies_some _

variable {t t' : Thresholds}

/-- Two measures that are compared one after the other, the second only where the first holds. -/
theorem both_of_keys {key other : String} {R S : Value → Value → Prop}
    {first second : Value → Except Fault Bool}
    (hkey : WhenBoth R (t.get key) (t'.get key)) (hother : WhenBoth S (t.get other) (t'.get other))
    (hfirst : ∀ {v v'}, R v v' → WhenBoth (· ≤ ·) (first v) (first v'))
    (hsecond : ∀ {v v'}, S v v' → WhenBoth (· ≤ ·) (second v) (second v')) :
    WhenBoth (· ≤ ·) (do if ← first (← t.get key) then second (← t.get other) else return false)
      (do if ← first (← t'.get key) then second (← t'.get other) else return false) :=
  WhenBoth.bind hkey fun _ _ hv ↦ WhenBoth.both (hfirst hv) (WhenBoth.bind hother fun _ _ hw ↦
    hsecond hw)

theorem LongMethod.directed (scope : Scope) : Directed (detector.evaluate scope) := by
  cases scope with
  | ofMethod m k path => exact directed_of_grows (.longMethod (refl_of _ m))
  | ofClass k p path => exact directed_none
  | ofProject p => exact directed_none

theorem LargeClass.directed (scope : Scope) : Directed (detector.evaluate scope) := by
  cases scope with
  | ofMethod m k path => exact directed_none
  | ofClass k p path =>
    exact directed_of_grows (.largeClass (refl_of _ k.methods) (.refl _) (.refl _))
  | ofProject p => exact directed_none

theorem DuplicateCode.directed (scope : Scope) : Directed (detector.evaluate scope) := by
  cases scope with
  | ofMethod m k path => exact directed_none
  | ofClass k p path => exact directed_none
  | ofProject p => exact directed_of_grows (.duplicateCode (refl_of _ p.classes))

namespace LongParameterList

theorem findings_le (ht : t.Eases t') (m : Method) :
    WhenBoth (fun f f' ↦ f.parameterCount = f'.parameterCount ∧ f.groups.Sublist f'.groups)
      (findings m t) (findings m t') := by
  refine WhenBoth.bind (ht.limit "max_related_params" (by decide)) fun v v' hv ↦ ?_
  exact WhenBoth.bind (filterM_sublist _ fun g ↦ atLeast_le (.refl _) hv) fun _ _ hgroups ↦
    WhenBoth.ok ⟨rfl, hgroups⟩

theorem directed (scope : Scope) : Directed (detector.evaluate scope) := by
  cases scope with
  | ofMethod m k path =>
    refine ⟨fun ht ↦ ?_, Or.inl fun t ↦ .bind fun _ ↦ .bind fun _ ↦ applies_some _⟩
    refine WhenBoth.bind (findings_le ht m) fun f f' ⟨hcount, hgroups⟩ ↦ ?_
    refine noGraver_of_detected ?_ (by rw [Findings.severity, Findings.severity, hcount])
    refine WhenBoth.either (anyAbove_le ht (.cons (rises_count hcount.le (by decide)) .nil)) ?_
    exact WhenBoth.ok (not_isEmpty_le fun g hg ↦ ⟨g, hgroups.subset hg, rfl⟩)
  | ofClass k p path => exact directed_none
  | ofProject p => exact directed_none

end LongParameterList

theorem FeatureEnvy.directed (scope : Scope) : Directed (detector.evaluate scope) := by
  cases scope with
  | ofMethod m k path =>
    exact directed_of_grows (.featureEnvy ⟨List.Subset.refl _, fun _ ha hna ↦ (hna ha).elim⟩ rfl)
  | ofClass k p path => exact directed_none
  | ofProject p => exact directed_none

namespace DataClumps

theorem findings_le (ht : t.Eases t') (p : Project) :
    WhenBoth (fun f f' ↦ f.clumps.Sublist f'.clumps) (findings p t) (findings p t') := by
  have hlarge (c : Clump) : WhenBoth (· ≤ ·) (isLarge t c) (isLarge t' c) :=
    both_of_keys (ht.limit _ (by decide)) (ht.limit _ (by decide)) (atLeast_le (.refl _))
      (atLeast_le (.refl _))
  exact WhenBoth.bind (filterM_sublist _ hlarge) fun _ _ hclumps ↦ WhenBoth.ok hclumps

theorem severity_le {f f' : Findings} (h : f.clumps.Sublist f'.clumps) :
    f.severity.level ≤ f'.severity.level := by
  have hlargest : greatest (f.clumps.map (·.members.length)) ≤
      greatest (f'.clumps.map (·.members.length)) :=
    greatest_map_le fun c hc ↦ ⟨c, h.subset hc, le_rfl⟩
  exact Severity.grade_le (by simp [Severity.level])
    (.cons ⟨reaches_le hlargest _, rfl⟩ (.cons ⟨exceeds_le h.length_le _, rfl⟩ .nil))

theorem directed (scope : Scope) : Directed (detector.evaluate scope) := by
  cases scope with
  | ofMethod m k path => exact directed_none
  | ofClass k p path => exact directed_none
  | ofProject p =>
    refine ⟨fun ht ↦ ?_, Or.inl fun t ↦ .bind fun _ ↦ applies_some _⟩
    refine WhenBoth.bind (findings_le ht p) fun f f' hf ↦ WhenBoth.ok (.some ?_)
    exact Verdict.level_le (not_isEmpty_le fun c hc ↦ ⟨c, hf.subset hc, rfl⟩) (severity_le hf)

end DataClumps

theorem PrimitiveObsession.directed (scope : Scope) : Directed (detector.evaluate scope) := by
  cases scope with
  | ofMethod m k path => exact directed_none
  | ofClass k p path =>
    exact directed_of_grows (.primitiveObsession (refl_of _ k.methods) (List.Subset.refl _)
      (List.Subset.refl _))
  | ofProject p => exact directed_none

/-- Measures that do not depend on thresholds, each held against the limit of its key. -/
theorem rises_refl {ms : List (Measured × String)} (keys : List String)
    (hms : ms.map Prod.snd = keys) (hkeys : ∀ key ∈ keys, IsLimit key) : Forall₂ Rises ms ms := by
  subst hms
  exact List.forall₂_same.mpr fun e he ↦ ⟨.refl _, rfl, hkeys e.2 (List.mem_map_of_mem he)⟩

theorem SwitchStatements.directed (scope : Scope) : Directed (detector.evaluate scope) := by
  cases scope with
  | ofMethod m k path =>
    refine directed_of_detected fun ht ↦ ?_
    refine WhenBoth.either (anyAbove_le ht ?_) (WhenBoth.ok le_rfl)
    exact rises_refl ["max_switches", "max_cases"] rfl (by decide)
  | ofClass k p path => exact directed_none
  | ofProject p => exact directed_none

theorem LazyClass.directed (scope : Scope) : Directed (detector.evaluate scope) := by
  cases scope with
  | ofMethod m k path => exact directed_none
  | ofClass k p path =>
    exact directed_of_detected fun ht ↦ both_of_keys (ht.inviting _ (by decide))
      (ht.inviting _ (by decide)) (below_le (.refl _)) (below_le (.refl _))
  | ofProject p => exact directed_none

namespace SpeculativeGenerality

/-- No count of the first findings is greater than that of the second. -/
structure Findings.Fewer (f f' : Findings) : Prop where
  methods : f.unusedMethods.length ≤ f'.unusedMethods.length
  parameters : f.unusedParameters.length ≤ f'.unusedParameters.length
  classes : f.abstractClasses.length ≤ f'.abstractClasses.length

theorem Findings.Fewer.refl (f : Findings) : f.Fewer f :=
  ⟨le_rfl, le_rfl, le_rfl⟩

theorem severity_le {f f' : Findings} (h : f.Fewer f') : f.severity.level ≤ f'.severity.level :=
  Severity.grade_le (by simp [Severity.level])
    (.cons ⟨exceeds_le h.methods _, rfl⟩
      (.cons ⟨exceeds_or_le h.methods h.parameters _ _, rfl⟩ .nil))

theorem abstract_le {f f' : Findings} (h : f.Fewer f') :
    (!f.abstractClasses.isEmpty) ≤ (!f'.abstractClasses.isEmpty) := by
  intro hsome
  rw [Bool.not_eq_true', List.isEmpty_eq_false_iff, ← List.length_pos_iff] at hsome ⊢
  exact hsome.trans_le h.classes

theorem verdict_noGraver (ht : t.Eases t') (scope scope' : Scope) {p p' : Project}
    {classes classes' : List Class} (h : (findings p classes).Fewer (findings p' classes')) :
    NoGraver (verdict scope p classes t) (verdict scope' p' classes' t') := by
  refine noGraver_of_detected ?_ (severity_le h)
  refine WhenBoth.either (anyAbove_le ht ?_) (WhenBoth.ok (abstract_le h))
  exact .cons (rises_count h.methods (by decide))
    (.cons (rises_count h.parameters (by decide)) .nil)

theorem directed (scope : Scope) : Directed (detector.evaluate scope) := by
  have hverdict (p : Project) (classes : List Class) : Directed (verdict scope p classes) :=
    ⟨fun ht ↦ verdict_noGraver ht scope scope (.refl _), Or.inl fun t ↦ .bind fun _ ↦
      applies_some _⟩
  cases scope with
  | ofMethod m k path => exact directed_none
  | ofClass k p path => exact hverdict p [k]
  | ofProject p => exact hverdict p p.classes

end SpeculativeGenerality

namespace TemporaryField

theorem isTemporary_le (ht : t.Eases t') (u : Usage) :
    WhenBoth (· ≤ ·) (isTemporary t u) (isTemporary t' u) := by
  refine WhenBoth.bind (ht.limit "max_null_checks" (by decide)) fun v v' hv ↦ ?_
  refine WhenBoth.bind (ht.switch "require_conditional_usage" (by decide)) fun needed _ hneeded ↦ ?_
  subst hneeded
  exact WhenBoth.guard le_rfl (above_le (.refl _) hv)

theorem severity_le {f f' : Findings} (h : f.fields.Sublist f'.fields) :
    f.severity.level ≤ f'.severity.level := by
  have hworst : f.worst ≤ f'.worst := greatest_map_le fun u hu ↦ ⟨u, h.subset hu, le_rfl⟩
  exact Severity.grade_le (by simp [Severity.level]) (.cons ⟨exceeds_le hworst _, rfl⟩ .nil)

theorem directed (scope : Scope) : Directed (detector.evaluate scope) := by
  cases scope with
  | ofMethod m k path => exact directed_none
  | ofClass k p path =>
    refine ⟨fun {t t'} ht ↦ ?_, Or.inl fun t ↦ .bind fun _ ↦ applies_some _⟩
    have hfindings : WhenBoth (fun f f' ↦ f.fields.Sublist f'.fields) (findings k t)
        (findings k t') :=
      WhenBoth.bind (filterM_sublist _ (isTemporary_le ht)) fun _ _ hfields ↦ WhenBoth.ok hfields
    refine WhenBoth.bind hfindings fun f f' hf ↦ WhenBoth.ok (.some ?_)
    exact Verdict.level_le (not_isEmpty_le fun u hu ↦ ⟨u, hf.subset hu, rfl⟩) (severity_le hf)
  | ofProject p => exact directed_none

end TemporaryField

theorem MessageChains.directed (scope : Scope) : Directed (detector.evaluate scope) where
  noGraver ht := noGraver ht (refl_of _ (methodsOf scope))
  applies := Or.inl fun _ ↦ .bind fun _ ↦ applies_some _

theorem MiddleMan.directed (scope : Scope) : Directed (detector.evaluate scope) := by
  cases scope with
  | ofMethod m k path => exact directed_none
  | ofClass k p path =>
    exact directed_of_detected fun ht ↦
      WhenBoth.bind (ht.limit "max_delegation_ratio" (by decide)) fun _ _ hv ↦
        above_le (.refl _) hv
  | ofProject p => exact directed_none

theorem InappropriateIntimacy.directed (scope : Scope) : Directed (detector.evaluate scope) where
  noGraver ht := noGraver ht fun pair hpair ↦ ⟨pair, hpair, le_rfl, le_rfl⟩
  applies := Or.inl fun _ ↦ .bind fun _ ↦ applies_some _

theorem DataClass.directed (scope : Scope) : Directed (detector.evaluate scope) := by
  cases scope with
  | ofMethod m k path => exact directed_none
  | ofClass k p path =>
    refine directed_of_detected fun ht ↦ ?_
    refine WhenBoth.bind (ht.inviting "max_behavior_methods" (by decide)) fun v v' hv ↦ ?_
    refine WhenBoth.both (atMost_le (.refl _) hv) (anyAbove_le ht ?_)
    exact rises_refl ["max_public_fields", "data_class_max_fields"] rfl (by decide)
  | ofProject p => exact directed_none

theorem RefusedBequest.directed (scope : Scope) : Directed (detector.evaluate scope) := by
  cases scope with
  | ofMethod m k path => exact directed_none
  | ofClass k p path =>
    simp only [detector]
    cases k.parent.bind p.findClass with
    | none => exact directed_none
    | some parent =>
      refine directed_of_detected fun ht ↦ ?_
      refine WhenBoth.bind (ht.inviting "usage_ratio" (by decide)) fun v v' hv ↦ ?_
      refine WhenBoth.either (below_le (.refl _) hv) (anyAbove_le ht ?_)
      exact rises_refl ["overridden_empty"] rfl (by decide)
  | ofProject p => exact directed_none

theorem Comments.directed (scope : Scope) : Directed (detector.evaluate scope) := by
  simp only [detector]
  cases statsOf? scope with
  | none => exact directed_none
  | some stats =>
    exact directed_of_detected fun ht ↦ both_of_keys (ht.limit _ (by decide))
      (ht.limit _ (by decide)) (above_le (.refl _)) (above_le (.refl _))

theorem GlobalState.directed (scope : Scope) : Directed (detector.evaluate scope) := by
  cases scope with
  | ofMethod m k path => exact directed_none
  | ofClass k p path => exact directed_none
  | ofProject p => exact directed_of_grows (.globalState (refl_of _ p.autoloads))

theorem ShotgunSurgery.directed (scope : Scope) : Directed (detector.evaluate scope) := by
  cases scope with
  | ofMethod m k path => exact directed_none
  | ofClass k p path => exact directed_none
  | ofProject p => exact directed_of_grows (.shotgunSurgery (.refl p))

theorem DivergentChange.directed (scope : Scope) : Directed (detector.evaluate scope) := by
  cases scope with
  | ofMethod m k path => exact directed_none
  | ofClass k p path => exact directed_of_grows (.divergentChange (refl_of _ k.methods))
  | ofProject p => exact directed_none

/-- Every detector of the catalog is directed at every scope. -/
theorem catalog_directed {d : Detector} (hd : d ∈ Catalog.detectors) (scope : Scope) :
    Directed (d.evaluate scope) := by
  have hall : ∀ e ∈ Catalog.detectors, Directed (e.evaluate scope) := by
    simp only [Catalog.detectors, List.forall_mem_cons]
    exact ⟨LongMethod.directed scope, LargeClass.directed scope, DuplicateCode.directed scope,
      LongParameterList.directed scope, FeatureEnvy.directed scope, DataClumps.directed scope,
      PrimitiveObsession.directed scope, SwitchStatements.directed scope,
      LazyClass.directed scope, SpeculativeGenerality.directed scope,
      TemporaryField.directed scope, MessageChains.directed scope, MiddleMan.directed scope,
      InappropriateIntimacy.directed scope, DataClass.directed scope,
      RefusedBequest.directed scope, Comments.directed scope, GlobalState.directed scope,
      ShotgunSurgery.directed scope, DivergentChange.directed scope,
      fun e he ↦ (List.not_mem_nil he).elim⟩
  exact hall d hd

/-! ### One threshold that is raised -/

/-- A threshold that no detector declares as a flag. -/
def IsNumeric (key : String) : Prop :=
  ∀ d ∈ Catalog.detectors, ∀ b : Bool, (key, Value.flag b) ∉ d.defaults

theorem IsNumeric.not_mem_switchKeys {key : String} (hnumeric : IsNumeric key) :
    key ∉ switchKeys := by
  intro h
  rcases List.mem_pair.mp h with rfl | rfl
  · refine hnumeric TemporaryField.detector ?_ true ?_
    · simp [Catalog.detectors]
    · simp [TemporaryField.detector]
  · refine hnumeric InappropriateIntimacy.detector ?_ true ?_
    · simp [Catalog.detectors]
    · simp [InappropriateIntimacy.detector]

/-- Two tables of thresholds that differ in one number, which is greater in the second. -/
structure Thresholds.RaisedAt (key : String) (t t' : Thresholds) : Prop where
  raised : ∃ v v' x x', t.get key = .ok v ∧ t'.get key = .ok v' ∧ v.quantity? = some x ∧
    v'.quantity? = some x' ∧ x.lt x' = true
  others : ∀ other, other ≠ key → t'.get other = t.get other

namespace Thresholds.RaisedAt

variable {key : String}

theorem whenBoth_atMost (h : RaisedAt key t t') :
    WhenBoth Value.AtMost (t.get key) (t'.get key) := by
  obtain ⟨v, v', x, x', hv, hv', hx, hx', hlt⟩ := h.raised
  rw [hv, hv']
  refine WhenBoth.ok fun y hy y' hy' ↦ ?_
  rw [Option.mem_unique hy hx, Option.mem_unique hy' hx']
  exact Quantity.atMost_of_lt hlt

/-- No value is smaller in the second table. -/
theorem whenBoth_all (h : RaisedAt key t t') (other : String) :
    WhenBoth Value.AtMost (t.get other) (t'.get other) := by
  by_cases hother : other = key
  · subst hother
    exact h.whenBoth_atMost
  · exact WhenBoth.of_eq Value.AtMost.refl (h.others other hother).symm

theorem eases_of_not_inviting (h : RaisedAt key t t') (hkey : key ∉ invitingKeys)
    (hswitch : key ∉ switchKeys) : t'.Eases t where
  limit other _ v v' hv hv' := h.whenBoth_all other v' v hv' hv
  inviting other hother := by
    have hne : other ≠ key := fun heq ↦ hkey (heq ▸ hother)
    exact WhenBoth.of_eq Value.AtMost.refl (h.others other hne)
  switch other hother := by
    have hne : other ≠ key := fun heq ↦ hswitch (heq ▸ hother)
    exact WhenBoth.of_eq (fun _ ↦ rfl) (h.others other hne)

theorem eases_of_not_limit (h : RaisedAt key t t') (hkey : key ∈ invitingKeys ++ idleKeys) :
    t.Eases t' where
  limit other hother := by
    have hne : other ≠ key := by
      rintro rfl
      exact (List.mem_append.mp hkey).elim hother.1 hother.2.1
    exact WhenBoth.of_eq (R := fun v v' : Value ↦ v'.AtMost v) Value.AtMost.refl
      (h.others other hne).symm
  inviting other _ := h.whenBoth_all other
  switch other hother := by
    have hapart : ∀ other ∈ switchKeys, other ∉ invitingKeys ++ idleKeys := by decide
    have hne : other ≠ key := fun heq ↦ hapart other hother (heq ▸ hkey)
    exact WhenBoth.of_eq (fun _ ↦ rfl) (h.others other hne).symm

end Thresholds.RaisedAt

theorem Result.severity_eq_of_level {r r' : Result} (h : r.severityLevel = r'.severityLevel) :
    r.detected = r'.detected ∧ r.severity = r'.severity := by
  have hseverity : r.severity = r'.severity := by
    rw [severityLevel, severityLevel] at h
    cases hr : r.severity with
    | none =>
      cases hr' : r'.severity with
      | none => rfl
      | some s' => cases s' <;> simp [hr, hr', Severity.level] at h
    | some s =>
      cases hr' : r'.severity with
      | none => cases s <;> simp [hr, hr', Severity.level] at h
      | some s' =>
        simp only [hr, hr'] at h
        rw [Severity.level_inj.mp h]
  refine ⟨?_, hseverity⟩
  rw [r.detected_eq, r'.detected_eq, hseverity]

/-- A detector that gives a result under some thresholds gives one under all usable ones. -/
theorem exists_result_of_directed {d : Detector} (hd : d.Total) {scope : Scope}
    (hdirected : Directed (d.evaluate scope)) {given given' : Entries} {r : Result}
    (hr : d.detect scope given = .ok (some r))
    (hgiven' : Thresholds.Usable ⟨given', d.defaults⟩ d.keys) :
    ∃ r', d.detect scope given' = .ok (some r') := by
  obtain ⟨hsupports, v, hv, -⟩ := Detector.detect_eq_some_iff.mp hr
  rcases hdirected.applies with happlies | hnone
  · exact hd.exists_result hgiven' hsupports (happlies _)
  · rw [hnone] at hv
    cases hv

theorem isSome_eq_of_directed {d : Detector} (hd : d.Total) {scope : Scope}
    (hdirected : Directed (d.evaluate scope)) {given given' : Entries}
    (hgiven : Thresholds.Usable ⟨given, d.defaults⟩ d.keys)
    (hgiven' : Thresholds.Usable ⟨given', d.defaults⟩ d.keys) {found found' : Option Result}
    (hfound : d.detect scope given = .ok found) (hfound' : d.detect scope given' = .ok found') :
    found.isSome = found'.isSome := by
  cases found with
  | some r =>
    obtain ⟨r', hr'⟩ := exists_result_of_directed hd hdirected hfound hgiven'
    cases hr'.symm.trans hfound'
    rfl
  | none =>
    cases found' with
    | none => rfl
    | some r' =>
      obtain ⟨r, hr⟩ := exists_result_of_directed hd hdirected hfound' hgiven
      cases hr.symm.trans hfound

/-- Thresholds act in one direction. Assumes: a detector of the catalog and two tables of thresholds
that can be compared with. Under both the detector gives a result or under both it gives none. Where
the tables differ in one number that is greater in the second, the level of the severity does not
rise with it, except for the inviting keys, where it does not fall; the idle keys change neither
what is detected nor how grave it is. -/
theorem thresholds_act_one_way {d : Detector} (hd : d ∈ Catalog.detectors) (scope : Scope)
    {given given' : Entries} (hgiven : Thresholds.Usable ⟨given, d.defaults⟩ d.keys)
    (hgiven' : Thresholds.Usable ⟨given', d.defaults⟩ d.keys) :
    ∃ found found', d.detect scope given = .ok found ∧ d.detect scope given' = .ok found' ∧
      found.isSome = found'.isSome ∧
      ∀ key, Thresholds.RaisedAt key ⟨given, d.defaults⟩ ⟨given', d.defaults⟩ →
        ∀ r ∈ found, ∀ r' ∈ found',
          (IsNumeric key → key ∉ invitingKeys → r'.severityLevel ≤ r.severityLevel) ∧
          (key ∈ invitingKeys → r.severityLevel ≤ r'.severityLevel) ∧
          (key ∈ idleKeys → r'.detected = r.detected ∧ r'.severity = r.severity) := by
  have htotal : d.Total := catalog_total hd
  have hdirected : Directed (d.evaluate scope) := catalog_directed hd scope
  obtain ⟨found, hfound⟩ := htotal.exists_detect scope hgiven
  obtain ⟨found', hfound'⟩ := htotal.exists_detect scope hgiven'
  refine ⟨found, found', hfound, hfound',
    isSome_eq_of_directed htotal hdirected hgiven hgiven' hfound hfound', ?_⟩
  rintro key hraised r ⟨⟩ r' ⟨⟩
  have hfalls (hkey : key ∉ invitingKeys) (hswitch : key ∉ switchKeys) :
      r'.severityLevel ≤ r.severityLevel :=
    Detector.severityLevel_le (hdirected.noGraver (hraised.eases_of_not_inviting hkey hswitch))
      hfound' hfound
  have hrises (hkey : key ∈ invitingKeys ++ idleKeys) : r.severityLevel ≤ r'.severityLevel :=
    Detector.severityLevel_le (hdirected.noGraver (hraised.eases_of_not_limit hkey)) hfound hfound'
  -- An idle key is neither limit nor invitation, so that the severity neither rises nor falls.
  refine ⟨fun hnumeric hkey ↦ hfalls hkey hnumeric.not_mem_switchKeys,
    fun hkey ↦ hrises (List.mem_append_left _ hkey), fun hkey ↦ ?_⟩
  have hapart : ∀ key ∈ idleKeys, key ∉ invitingKeys ∧ key ∉ switchKeys := by decide
  have hlevel : r'.severityLevel = r.severityLevel :=
    le_antisymm (hfalls (hapart key hkey).1 (hapart key hkey).2)
      (hrises (List.mem_append_right _ hkey))
  exact Result.severity_eq_of_level hlevel

/-- A class with one method of one line. -/
def steady : Class :=
  { (default : Class) with
    name := "Steady"
    methods := [{ (default : Method) with name := "wait", lines := [⟨"\tpass", some 2⟩] }] }

/-- A class with one method of one line does not count as lazy when a class has to have a line, and
does so when it has to have twenty. -/
theorem thresholds_act_one_way_lazy :
    Thresholds.RaisedAt "min_loc" ⟨[("min_loc", .whole 1)], LazyClass.detector.defaults⟩
      ⟨[], LazyClass.detector.defaults⟩ ∧
    ∃ found found', LazyClass.detector.detect (.ofClass steady default none)
        [("min_loc", .whole 1)] = .ok found ∧
      LazyClass.detector.detect (.ofClass steady default none) [] = .ok found' ∧
      found.isSome = found'.isSome ∧
      ∀ r ∈ found, ∀ r' ∈ found', r.severityLevel ≤ r'.severityLevel := by
  have hraised : Thresholds.RaisedAt "min_loc"
      ⟨[("min_loc", .whole 1)], LazyClass.detector.defaults⟩
      ⟨[], LazyClass.detector.defaults⟩ := by
    refine ⟨⟨.whole 1, .whole 20, .ofInt 1, .ofInt 20, rfl, rfl, rfl, rfl, by decide⟩, ?_⟩
    intro other hother
    simp [Thresholds.get, Entries.get?, hother.symm]
  have hcatalog : LazyClass.detector ∈ Catalog.detectors := by simp [Catalog.detectors]
  have hgiven : Thresholds.Usable ⟨[("min_loc", .whole 1)], LazyClass.detector.defaults⟩
      LazyClass.detector.keys :=
    usable_of_given hcatalog (List.forall_mem_singleton.mpr rfl)
  have hgiven' : Thresholds.Usable ⟨[], LazyClass.detector.defaults⟩ LazyClass.detector.keys :=
    usable_of_given hcatalog (List.forall_mem_nil _)
  obtain ⟨found, found', hfound, hfound', hsome, hkeys⟩ :=
    thresholds_act_one_way hcatalog (.ofClass steady default none) hgiven hgiven'
  exact ⟨hraised, found, found', hfound, hfound', hsome, fun r hr r' hr' ↦
    (hkeys "min_loc" hraised r hr r' hr').2.1 (by decide)⟩

end CodeSmells
