import CodeSmells.Proofs.Analysis.Isolation
import CodeSmells.Proofs.Config.Thresholds
import CodeSmells.Proofs.Number.Numeral

/-!
# No detector breaks off under accepted settings

A detector can break off in four ways: it compares a measure with a threshold that is no number, it
asks for a threshold that it does not declare, it takes a text for a number that is none, or it
builds a result whose flag and severity disagree. Quotients are no fifth way, since `quotient` takes
only a `Divisor`, a count above nought. `accepted_settings_never_fail` shows that none of this
happens under settings from an accepted document, whatever the project.

The argument has three layers. `Gives` says that a computation ends with a value, and with one of
which something is known; its rules follow the steps that detectors are made of, comparison,
look-up, `filterM` and `mapM`. With them every detector of the catalog gives a verdict, or nothing,
as soon as its thresholds are `Usable` (`catalog_total`). And accepted settings make the thresholds
of every detector usable (`usable_of_comparable`), for the undefined quantity is a number to compare
with.
-/

set_option autoImplicit false
set_option relaxedAutoImplicit false

namespace CodeSmells

/-! ### Computations that do not break off -/

section Gives

variable {α β : Type}

/-- A computation ends with a value, and the value satisfies a condition. -/
def Gives (e : Except Fault α) (P : α → Prop) : Prop :=
  ∃ a, e = .ok a ∧ P a

/-- A computation ends with a value. -/
abbrev Answers (e : Except Fault α) : Prop :=
  Gives e fun _ ↦ True

theorem Gives.ok {P : α → Prop} {a : α} (ha : P a) : Gives (.ok a) P :=
  ⟨a, rfl, ha⟩

theorem answers_pure (a : α) : Answers (pure a) :=
  Gives.ok trivial

theorem Gives.bind {P : α → Prop} {Q : β → Prop} {e : Except Fault α} {f : α → Except Fault β}
    (he : Gives e P) (hf : ∀ a, P a → Gives (f a) Q) : Gives (e >>= f) Q := by
  obtain ⟨a, rfl, ha⟩ := he
  exact hf a ha

theorem Gives.ite {P : α → Prop} {c : Prop} [Decidable c] {e e' : Except Fault α}
    (he : Gives e P) (he' : Gives e' P) : Gives (if c then e else e') P := by
  split
  · exact he
  · exact he'

theorem answers_mapM {f : α → Except Fault β} {xs : List α} (hf : ∀ a ∈ xs, Answers (f a)) :
    Answers (xs.mapM f) := by
  induction xs with
  | nil => exact answers_pure []
  | cons x xs ih =>
    have hrest : Answers (xs.mapM f) := ih fun a ha ↦ hf a (List.mem_cons_of_mem x ha)
    rw [List.mapM_cons]
    exact Gives.bind (hf x List.mem_cons_self) fun b _ ↦
      Gives.bind hrest fun bs _ ↦ answers_pure (b :: bs)

/-- The members found so far are passed along, so the induction is over all of them. -/
theorem answers_filterAuxM {f : α → Except Fault Bool} {xs : List α}
    (hf : ∀ a ∈ xs, Answers (f a)) : ∀ found : List α, Answers (xs.filterAuxM f found) := by
  induction xs with
  | nil => exact answers_pure
  | cons x xs ih =>
    intro found
    rw [List.filterAuxM]
    exact Gives.bind (hf x List.mem_cons_self) fun b _ ↦
      ih (fun a ha ↦ hf a (List.mem_cons_of_mem x ha)) _

theorem answers_filterM {f : α → Except Fault Bool} {xs : List α}
    (hf : ∀ a ∈ xs, Answers (f a)) : Answers (xs.filterM f) := by
  rw [List.filterM]
  exact Gives.bind (answers_filterAuxM hf []) fun found _ ↦ answers_pure found.reverse

end Gives

/-! ### Thresholds -/

/-- A value that a measure can be compared with. -/
def Comparable (limit : Value) : Prop :=
  limit.quantity?.isSome = true

/-- Thresholds in which each of some keys has a value to compare with. -/
def Thresholds.Usable (t : Thresholds) (keys : List String) : Prop :=
  ∀ key ∈ keys, Gives (t.get key) Comparable

section Comparisons

variable {limit : Value} {t : Thresholds} {keys : List String}

theorem answers_compareWith (relation : String) (test : Quantity → Quantity → Bool) (m : Measured)
    (h : Comparable limit) : Answers (compareWith relation test m limit) := by
  obtain ⟨q, hq⟩ := Option.isSome_iff_exists.mp h
  rw [compareWith, hq]
  exact Gives.ok trivial

theorem answers_above (m : Measured) (h : Comparable limit) : Answers (m.above limit) :=
  answers_compareWith _ _ m h

theorem answers_below (m : Measured) (h : Comparable limit) : Answers (m.below limit) :=
  answers_compareWith _ _ m h

theorem answers_atLeast (m : Measured) (h : Comparable limit) : Answers (m.atLeast limit) :=
  answers_compareWith _ _ m h

theorem answers_atMost (m : Measured) (h : Comparable limit) : Answers (m.atMost limit) :=
  answers_compareWith _ _ m h

/-- Measures that are compared one after another with the limits of usable keys. -/
theorem answers_anyAbove (ht : t.Usable keys) {ms : List (Measured × String)}
    (hms : ∀ e ∈ ms, e.2 ∈ keys) : Answers (anyAbove t ms) := by
  induction ms with
  | nil => exact answers_pure false
  | cons e ms ih =>
    obtain ⟨m, key⟩ := e
    have hrest : Answers (anyAbove t ms) := ih fun e he ↦ hms e (List.mem_cons_of_mem _ he)
    refine Gives.bind (ht key (hms _ List.mem_cons_self)) fun limit hlimit ↦ ?_
    exact Gives.bind (answers_above m hlimit) fun b _ ↦ Gives.ite (answers_pure true) hrest

/-- Measures that are compared with their limits, and a flag that counts when none lies above. -/
theorem answers_anyAbove_or (ht : t.Usable keys) {ms : List (Measured × String)}
    (hms : ∀ e ∈ ms, e.2 ∈ keys) (otherwise : Bool) :
    Answers (do if ← anyAbove t ms then return true else return otherwise) :=
  Gives.bind (answers_anyAbove ht hms) fun _ _ ↦
    Gives.ite (answers_pure true) (answers_pure otherwise)

/-- A comparison that is made only when the one before it holds. -/
theorem answers_both (ht : t.Usable keys) {key other : String} (hkey : key ∈ keys)
    (hother : other ∈ keys) {first second : Value → Except Fault Bool}
    (hfirst : ∀ {limit}, Comparable limit → Answers (first limit))
    (hsecond : ∀ {limit}, Comparable limit → Answers (second limit)) :
    Answers (do if ← first (← t.get key) then second (← t.get other) else return false) := by
  refine Gives.bind (ht key hkey) fun limit hlimit ↦ ?_
  refine Gives.bind (hfirst hlimit) fun b _ ↦ Gives.ite ?_ (answers_pure false)
  exact Gives.bind (ht other hother) fun limit hlimit ↦ hsecond hlimit

/-- A comparison that is made only under a condition, which may look at another threshold. -/
theorem answers_provided (ht : t.Usable keys) {key other : String} (hkey : key ∈ keys)
    (hother : other ∈ keys) (condition : Value → Bool) (m : Measured) :
    Answers (do
      let limit ← t.get key
      let needed ← t.get other
      if condition needed then m.above limit else return false) := by
  refine Gives.bind (ht key hkey) fun limit hlimit ↦ ?_
  refine Gives.bind (ht other hother) fun needed _ ↦ ?_
  exact Gives.ite (answers_above m hlimit) (answers_pure false)

end Comparisons

/-! ### The detectors of the catalog -/

/-- A detector that gives a verdict or nothing at every scope, once the thresholds that it declares
are usable. -/
def Detector.Total (d : Detector) : Prop :=
  ∀ (scope : Scope) (t : Thresholds), t.Usable d.keys → Answers (d.evaluate scope t)

theorem LongMethod.detector_total : LongMethod.detector.Total := by
  intro scope t ht
  cases scope with
  | ofMethod m k file =>
    have hdetected : Answers ((findings m).detected t) :=
      answers_anyAbove ht (by simp [Detector.keys, detector])
    exact Gives.bind hdetected fun b _ ↦ answers_pure _
  | ofClass k p file => exact answers_pure none
  | ofProject p => exact answers_pure none

theorem LargeClass.detector_total : LargeClass.detector.Total := by
  intro scope t ht
  cases scope with
  | ofMethod m k file => exact answers_pure none
  | ofClass k p file =>
    have hdetected : Answers ((findings k p).detected t) :=
      answers_anyAbove ht (by simp [Detector.keys, detector])
    exact Gives.bind hdetected fun b _ ↦ answers_pure _
  | ofProject p => exact answers_pure none

theorem DuplicateCode.detector_total : DuplicateCode.detector.Total := by
  intro scope t ht
  have hfindings : ∀ p, Answers (findings p t) := fun p ↦ by
    refine Gives.bind (ht "min_lines" (by decide)) fun minLines hlines ↦ ?_
    refine Gives.bind (ht "min_similarity" (by decide)) fun minSimilarity hsimilarity ↦ ?_
    refine Gives.bind (answers_filterM fun b _ ↦ answers_atLeast _ hlines) fun long _ ↦ ?_
    refine Gives.bind (answers_filterM fun d _ ↦ ?_) fun duplicates _ ↦ answers_pure _
    exact Gives.ite (answers_atLeast _ hsimilarity) (answers_pure false)
  cases scope with
  | ofMethod m k file => exact answers_pure none
  | ofClass k p file => exact answers_pure none
  | ofProject p => exact Gives.bind (hfindings p) fun f _ ↦ answers_pure _

theorem LongParameterList.detector_total : LongParameterList.detector.Total := by
  intro scope t ht
  cases scope with
  | ofMethod m k file =>
    have hfindings : Answers (findings m t) := by
      refine Gives.bind (ht "max_related_params" (by decide)) fun limit hlimit ↦ ?_
      exact Gives.bind (answers_filterM fun g _ ↦ answers_atLeast _ hlimit) fun groups _ ↦
        answers_pure _
    have hdetected : ∀ f : Findings, Answers (f.detected t) := fun f ↦
      answers_anyAbove_or ht (by simp [Detector.keys, detector]) _
    exact Gives.bind hfindings fun f _ ↦ Gives.bind (hdetected f) fun b _ ↦ answers_pure _
  | ofClass k p file => exact answers_pure none
  | ofProject p => exact answers_pure none

theorem FeatureEnvy.detector_total : FeatureEnvy.detector.Total := by
  intro scope t ht
  cases scope with
  | ofMethod m k file =>
    have hdetected : Answers ((findings m k).detected t) :=
      answers_both ht (by decide) (by decide) (answers_above _) (answers_above _)
    exact Gives.bind hdetected fun b _ ↦ answers_pure _
  | ofClass k p file => exact answers_pure none
  | ofProject p => exact answers_pure none

theorem DataClumps.detector_total : DataClumps.detector.Total := by
  intro scope t ht
  have hlarge : ∀ c, Answers (isLarge t c) := fun c ↦
    answers_both ht (by decide) (by decide) (answers_atLeast _) (answers_atLeast _)
  cases scope with
  | ofMethod m k file => exact answers_pure none
  | ofClass k p file => exact answers_pure none
  | ofProject p =>
    have hfindings : Answers (findings p t) :=
      Gives.bind (answers_filterM fun c _ ↦ hlarge c) fun clumps _ ↦ answers_pure _
    exact Gives.bind hfindings fun f _ ↦ answers_pure _

/-- Every number literal of a line is read, so its primitives are found. -/
theorem PrimitiveObsession.answers_examplesOf (line : SourceLine) : Answers (examplesOf line) := by
  have hnumbers : Answers ((numberLiteral.findAll (Text.codeOf line.content)).filterM isMagic) := by
    refine answers_filterM fun literal hliteral ↦ ?_
    obtain ⟨magic, hmagic⟩ := isMagic_answers hliteral
    exact ⟨magic, hmagic, trivial⟩
  exact Gives.bind hnumbers fun numbers _ ↦ answers_pure _

theorem PrimitiveObsession.detector_total : PrimitiveObsession.detector.Total := by
  intro scope t ht
  cases scope with
  | ofMethod m k file => exact answers_pure none
  | ofClass k p file =>
    have hexamples : Answers (examples k) :=
      Gives.bind (answers_mapM fun line _ ↦ answers_examplesOf line) fun found _ ↦ answers_pure _
    have hfindings : Answers (findings k) := Gives.bind hexamples fun all _ ↦ answers_pure _
    have hdetected : ∀ f : Findings, Answers (f.detected t) := fun f ↦
      answers_anyAbove ht (by simp [Detector.keys, detector])
    exact Gives.bind hfindings fun f _ ↦ Gives.bind (hdetected f) fun b _ ↦ answers_pure _
  | ofProject p => exact answers_pure none

theorem SwitchStatements.detector_total : SwitchStatements.detector.Total := by
  intro scope t ht
  cases scope with
  | ofMethod m k file =>
    have hdetected : Answers ((findings m).detected t) :=
      answers_anyAbove_or ht (by simp [Detector.keys, detector]) _
    exact Gives.bind hdetected fun b _ ↦ answers_pure _
  | ofClass k p file => exact answers_pure none
  | ofProject p => exact answers_pure none

theorem LazyClass.detector_total : LazyClass.detector.Total := by
  intro scope t ht
  cases scope with
  | ofMethod m k file => exact answers_pure none
  | ofClass k p file =>
    have hdetected : Answers ((findings k).detected t) :=
      answers_both ht (by decide) (by decide) (answers_below _) (answers_below _)
    exact Gives.bind hdetected fun b _ ↦ answers_pure _
  | ofProject p => exact answers_pure none

theorem SpeculativeGenerality.detector_total : SpeculativeGenerality.detector.Total := by
  intro scope t ht
  have hverdict : ∀ p classes, Answers (verdict scope p classes t) := fun p classes ↦ by
    have hdetected : Answers ((findings p classes).detected t) :=
      answers_anyAbove_or ht (by simp [Detector.keys, detector]) _
    exact Gives.bind hdetected fun b _ ↦ answers_pure _
  cases scope with
  | ofMethod m k file => exact answers_pure none
  | ofClass k p file => exact hverdict p [k]
  | ofProject p => exact hverdict p p.classes

theorem TemporaryField.detector_total : TemporaryField.detector.Total := by
  intro scope t ht
  have htemporary : ∀ u, Answers (isTemporary t u) := fun u ↦
    answers_provided ht (by decide) (by decide)
      (fun needed ↦ u.conditionalOnly || !needed.isTruthy) u.nullChecks
  cases scope with
  | ofMethod m k file => exact answers_pure none
  | ofClass k p file =>
    have hfindings : Answers (findings k t) :=
      Gives.bind (answers_filterM fun u _ ↦ htemporary u) fun fields _ ↦ answers_pure _
    exact Gives.bind hfindings fun f _ ↦ answers_pure _
  | ofProject p => exact answers_pure none

theorem MessageChains.detector_total : MessageChains.detector.Total := by
  intro scope t ht
  have hfindings : Answers (findings (methodsOf scope) t) := by
    refine Gives.bind (ht "max_chain_length" (by decide)) fun limit hlimit ↦ ?_
    exact Gives.bind (answers_filterM fun c _ ↦ answers_above _ hlimit) fun chains _ ↦
      answers_pure _
  exact Gives.bind hfindings fun f _ ↦ answers_pure _

theorem MiddleMan.detector_total : MiddleMan.detector.Total := by
  intro scope t ht
  cases scope with
  | ofMethod m k file => exact answers_pure none
  | ofClass k p file =>
    have hdetected : Answers ((findings k).detected t) :=
      Gives.bind (ht "max_delegation_ratio" (by decide)) fun limit hlimit ↦ answers_above _ hlimit
    exact Gives.bind hdetected fun b _ ↦ answers_pure _
  | ofProject p => exact answers_pure none

theorem InappropriateIntimacy.detector_total : InappropriateIntimacy.detector.Total := by
  intro scope t ht
  have hintimate : ∀ pair, Answers (isIntimate t pair) := fun pair ↦
    answers_provided ht (by decide) (by decide)
      (fun bothWays ↦ pair.bidirectional || !bothWays.isTruthy) pair.sharedIntimacy
  have hfindings : Answers (findings scope t) :=
    Gives.bind (answers_filterM fun pair _ ↦ hintimate pair) fun pairs _ ↦ answers_pure _
  exact Gives.bind hfindings fun f _ ↦ answers_pure _

theorem DataClass.detector_total : DataClass.detector.Total := by
  intro scope t ht
  cases scope with
  | ofMethod m k file => exact answers_pure none
  | ofClass k p file =>
    have hdetected : Answers ((findings k).detected t) := by
      refine Gives.bind (ht "max_behavior_methods" (by decide)) fun limit hlimit ↦ ?_
      refine Gives.bind (answers_atMost _ hlimit) fun b _ ↦ Gives.ite ?_ (answers_pure false)
      exact answers_anyAbove ht (by simp [Detector.keys, detector])
    exact Gives.bind hdetected fun b _ ↦ answers_pure _
  | ofProject p => exact answers_pure none

theorem RefusedBequest.detector_total : RefusedBequest.detector.Total := by
  intro scope t ht
  have hdetected : ∀ f : Findings, Answers (f.detected t) := fun f ↦ by
    refine Gives.bind (ht "usage_ratio" (by decide)) fun ratio hratio ↦ ?_
    refine Gives.bind (answers_below _ hratio) fun b _ ↦ Gives.ite (answers_pure true) ?_
    exact answers_anyAbove ht (by simp [Detector.keys, detector])
  cases scope with
  | ofMethod m k file => exact answers_pure none
  | ofClass k p file =>
    simp only [detector]
    split
    · exact Gives.bind (hdetected _) fun b _ ↦ answers_pure _
    · exact answers_pure none
  | ofProject p => exact answers_pure none

theorem Comments.detector_total : Comments.detector.Total := by
  intro scope t ht
  have hdetected : ∀ stats, Answers (detected stats t) := fun stats ↦
    answers_both ht (by decide) (by decide) (answers_above _) (answers_above _)
  simp only [detector]
  split
  · exact Gives.bind (hdetected _) fun b _ ↦ answers_pure _
  · exact answers_pure none

theorem GlobalState.detector_total : GlobalState.detector.Total := by
  intro scope t ht
  cases scope with
  | ofMethod m k file => exact answers_pure none
  | ofClass k p file => exact answers_pure none
  | ofProject p =>
    have hsummary : ∀ k, Answers (summary t k) := fun k ↦
      Gives.bind (answers_anyAbove ht (by simp [Detector.keys, detector])) fun isGod _ ↦
        answers_pure _
    have hfindings : Answers (findings p t) :=
      Gives.bind (answers_mapM fun k _ ↦ hsummary k) fun autoloads _ ↦ answers_pure _
    have hdetected : ∀ f : Findings, Answers (f.detected t) := fun f ↦
      answers_anyAbove_or ht (by simp [Detector.keys, detector]) _
    exact Gives.bind hfindings fun f _ ↦ Gives.bind (hdetected f) fun b _ ↦ answers_pure _

theorem ShotgunSurgery.detector_total : ShotgunSurgery.detector.Total := by
  intro scope t ht
  have hfindings : ∀ p, Answers (findings p t) := fun p ↦ by
    refine Gives.bind (ht "max_classes" (by decide)) fun classes hclasses ↦ ?_
    refine Gives.bind (ht "max_caller_classes" (by decide)) fun callers hcallers ↦ ?_
    refine Gives.bind (answers_filterM fun s _ ↦ answers_above _ hclasses) fun ofClasses _ ↦ ?_
    exact Gives.bind (answers_filterM fun s _ ↦ answers_above _ hcallers) fun ofMethods _ ↦
      answers_pure _
  cases scope with
  | ofMethod m k file => exact answers_pure none
  | ofClass k p file => exact answers_pure none
  | ofProject p => exact Gives.bind (hfindings p) fun f _ ↦ answers_pure _

theorem DivergentChange.detector_total : DivergentChange.detector.Total := by
  intro scope t ht
  cases scope with
  | ofMethod m k file => exact answers_pure none
  | ofClass k p file =>
    have hdetected : Answers ((findings k).detected t) :=
      answers_anyAbove ht (by simp [Detector.keys, detector])
    exact Gives.bind hdetected fun b _ ↦ answers_pure _
  | ofProject p => exact answers_pure none

/-- Every detector of the catalog gives a verdict or nothing under usable thresholds. -/
theorem catalog_total {d : Detector} (hd : d ∈ Catalog.detectors) : d.Total := by
  have hall : ∀ e ∈ Catalog.detectors, e.Total := by
    simp only [Catalog.detectors, List.forall_mem_cons]
    exact ⟨LongMethod.detector_total, LargeClass.detector_total, DuplicateCode.detector_total,
      LongParameterList.detector_total, FeatureEnvy.detector_total, DataClumps.detector_total,
      PrimitiveObsession.detector_total, SwitchStatements.detector_total, LazyClass.detector_total,
      SpeculativeGenerality.detector_total, TemporaryField.detector_total,
      MessageChains.detector_total, MiddleMan.detector_total, InappropriateIntimacy.detector_total,
      DataClass.detector_total, RefusedBequest.detector_total, Comments.detector_total,
      GlobalState.detector_total, ShotgunSurgery.detector_total, DivergentChange.detector_total,
      fun e he ↦ (List.not_mem_nil he).elim⟩
  exact hall d hd

/-! ### Accepted settings -/

theorem Value.comparable_of_number? {v : Value} {x : Quantity} (h : v.number? = some x) :
    Comparable v := by
  cases v with
  | whole n => rfl
  | real y => rfl
  | _ => cases h

/-- A measure can be compared with whatever the check of a threshold lets through. -/
theorem Config.Accepted.comparable {key : String} {v : Value} (h : Config.Accepted key v) :
    Comparable v := by
  rcases h with hrange | ⟨rfl, -⟩
  · obtain ⟨e, he, rfl⟩ := List.mem_map.mp hrange.known
    have hget := Config.get?_default he
    have hsound := List.all_eq_true.mp Config.defaults_sound e he
    obtain ⟨key, default⟩ := e
    cases default with
    | flag b =>
      obtain ⟨c, rfl⟩ := hrange.flag b hget
      rfl
    | whole n =>
      obtain ⟨m, rfl, -⟩ := hrange.whole n hget
      rfl
    | real x =>
      obtain ⟨y, hy, -⟩ := hrange.real x hget
      exact Value.comparable_of_number? hy
    | _ => cases hsound
  · rfl

theorem Catalog.defaults_comparable {d : Detector} (hd : d ∈ Catalog.detectors)
    {e : String × Value} (he : e ∈ d.defaults) : Comparable e.2 := by
  have hall : ∀ d ∈ Catalog.detectors, ∀ e ∈ d.defaults, e.2.quantity?.isSome = true := by
    decide +kernel
  exact hall d hd e he

/-- Under overrides that can be compared with, the thresholds of every detector are usable. -/
theorem usable_of_comparable {s : Settings} (hs : ∀ e ∈ s.thresholds, Comparable e.2)
    {d : Detector} (hd : d ∈ Catalog.detectors) :
    Thresholds.Usable ⟨s.thresholdsFor d, d.defaults⟩ d.keys := by
  intro key hkey
  have hentries : ∀ e ∈ s.thresholdsFor d, Comparable e.2 := by
    intro e he
    obtain ⟨⟨k, default⟩, hdefault, rfl⟩ := List.mem_map.mp he
    cases hoverride : s.thresholds.get? k with
    | none =>
      simp only [hoverride, Option.getD_none]
      exact Catalog.defaults_comparable hd hdefault
    | some v =>
      simp only [hoverride, Option.getD_some]
      exact hs (k, v) (Config.mem_of_get? hoverride)
  have hsome : ((s.thresholdsFor d).get? key).isSome = true := by
    obtain ⟨⟨k, default⟩, hdefault, rfl⟩ := List.mem_map.mp hkey
    rw [Entries.get?, Option.isSome_map, List.find?_isSome]
    exact ⟨_, List.mem_map_of_mem hdefault, beq_self_eq_true k⟩
  obtain ⟨v, hv⟩ := Option.isSome_iff_exists.mp hsome
  refine ⟨v, ?_, hentries (key, v) (Config.mem_of_get? hv)⟩
  rw [Thresholds.get, hv]

/-- A detector whose verdicts do not break off gives a result or nothing: the flag of a verdict
decides about its severity. -/
theorem Detector.Total.exists_detect {d : Detector} (hd : d.Total) (scope : Scope) {given : Entries}
    (ht : Thresholds.Usable ⟨given, d.defaults⟩ d.keys) :
    ∃ found, d.detect scope given = .ok found := by
  unfold Detector.detect
  split
  · obtain ⟨verdict, hverdict, -⟩ := hd scope ⟨given, d.defaults⟩ ht
    rw [hverdict]
    cases verdict with
    | none => exact ⟨none, rfl⟩
    | some v =>
      obtain ⟨r, hr, -⟩ := v.exists_toResult d.name
      refine ⟨some r, ?_⟩
      simp only [bind, Except.bind, hr]
      rfl
  · exact ⟨none, rfl⟩

/-- An analyzer whose detectors all answer records no failure. -/
theorem failures_eq_nil {s : Settings} {ds : List Detector} (hdistinct : (ds.map (·.name)).Nodup)
    (hanswer : ∀ d ∈ ds, ∀ scope, ∃ found, d.detect scope (s.thresholdsFor d) = .ok found)
    (p : Project) (metadata : Entries) : ((Analyzer.mk s ds).analyze p metadata).failures = [] := by
  refine List.filterMap_eq_nil_iff.mpr fun c hc ↦ ?_
  rw [Analyzer.contributions_eq hdistinct] at hc
  obtain ⟨scope, -, hc⟩ := List.mem_flatMap.mp hc
  obtain ⟨d, hd, hc⟩ := List.mem_filterMap.mp hc
  obtain ⟨found, hfound⟩ := hanswer d hd scope
  rw [Settings.contribution, hfound] at hc
  obtain ⟨r, -, rfl⟩ := Option.map_eq_some_iff.mp hc
  rfl

/-- Settings from an accepted document never make a detector break off. Assumes: a document that is
accepted. Whatever the project, the analysis records no failure, and each enabled detector ends at
each scope with a result or with nothing. -/
theorem accepted_settings_never_fail {doc : Entries} {s : Settings}
    (h : Config.ofDocument doc = .ok s) (p : Project) (metadata : Entries) :
    ((Analyzer.ofSettings s).analyze p metadata).failures = [] ∧
    ∀ d ∈ (Analyzer.ofSettings s).detectors, ∀ scope,
      ∃ found, d.detect scope (s.thresholdsFor d) = .ok found := by
  have hcomparable : ∀ e ∈ s.thresholds, Comparable e.2 := fun e he ↦
    (Config.overrides_of_ofDocument h e he).comparable
  have hanswer : ∀ d ∈ (Analyzer.ofSettings s).detectors, ∀ scope,
      ∃ found, d.detect scope (s.thresholdsFor d) = .ok found := by
    intro d hd scope
    have hcatalog : d ∈ Catalog.detectors := Analyzer.mem_catalog_of_mem_ofSettings hd
    exact (catalog_total hcatalog).exists_detect scope (usable_of_comparable hcomparable hcatalog)
  exact ⟨failures_eq_nil (Analyzer.ofSettings_distinct s) hanswer p metadata, hanswer⟩

/-- A project with a class that is its own parent, an empty method and a method with a number. -/
def selfParented : Project :=
  { (default : Project) with
    classes := [{ (default : Class) with
      name := "Loop"
      parent := some "Loop"
      methods := [default, { (default : Method) with lines := [⟨"\tspeed = 7.5", none⟩] }] }] }

/-- Undefined and infinite ratios and a number of more than 64 bits are accepted, and the analysis
of a class that is its own parent records no failure under them. -/
theorem accepted_settings_never_fail_extreme :
    ∃ s, Config.ofDocument [("maxLines", .whole 1180591620717411303424),
        ("thresholds", .table [("min_similarity", .real .undefined),
          ("envy_ratio", .real (.infinite false))])] = .ok s ∧
      ((Analyzer.ofSettings s).analyze selfParented []).failures = [] := by
  have haccepted : Config.ofDocument [("maxLines", .whole 1180591620717411303424),
      ("thresholds", .table [("min_similarity", .real .undefined),
        ("envy_ratio", .real (.infinite false))])] = .ok
      ⟨Catalog.names, [("min_similarity", .real .undefined),
        ("envy_ratio", .real (.infinite false)),
        ("max_lines", .whole 1180591620717411303424)], {}⟩ := rfl
  exact ⟨_, haccepted, (accepted_settings_never_fail haccepted selfParented []).1⟩

-- Settings that no document gives can make a detector break off: a text is not compared.
example : ((Analyzer.ofSettings { thresholds := [("max_lines", .text "many")] }).analyze
    selfParented []).failures.map (·.detector) = ["LongMethod", "LongMethod"] := by
  decide +kernel

end CodeSmells
