import CodeSmells.Analysis.Analyzer
import CodeSmells.Proofs.Grouping
import Mathlib.Data.List.Nodup
import Mathlib.Data.List.Pairwise

/-!
# Detectors run side by side without touching each other

An analyzer shows every scope of a project to every detector of its list and collects results and
failures. This module shows that a detector's share of the outcome is its own: it is decided by the
project, the settings and the detector, and by nothing that runs beside it.

The inputs are a list of detectors with distinct names and the settings. `contribution` is what one
detector gives at one scope under the settings alone, and `contributions_eq` shows that the run is
those contributions, scope by scope and in the order of the list. A contribution carries the name of
its detector (`contributor_of_contribution`), so dropping detectors from the list is dropping their
names from the outcome (`contributions_filter`, `analyze_restricts`), and exchanging one detector
for another of its name, one that breaks off for instance, leaves the rest as it was
(`exchange_agreesApartFrom`).

For the detectors of the catalog every threshold has one owner (`Catalog.keys_disjoint`), and a
detector reads its own thresholds only (`Settings.thresholdsFor_congr`). The outcome of an analyzer
made from settings therefore depends on the enabled names as a set, and an override reaches its
owner and nobody else.

A session that has served other projects before still holds its analyzer (`Session.after_analyzer`),
so all this holds of every call of a sequence.
-/

set_option autoImplicit false
set_option relaxedAutoImplicit false

namespace CodeSmells

/-! ### What one detector contributes -/

/-- The name a contribution is filed under: the smell of a result, the detector of a failure. -/
def contributor : Except DetectorFailure Result → String
  | .ok r => r.smell
  | .error f => f.detector

/-- What a detector contributes at a scope under some settings, whatever runs beside it. -/
def Settings.contribution (s : Settings) (scope : Scope) (d : Detector) :
    Option (Except DetectorFailure Result) :=
  match d.detect scope (s.thresholdsFor d) with
  | .ok found => found.map .ok
  | .error fault => some (.error ⟨d.name, scope.describe, fault.message⟩)

/-- A result bears the name of the detector that gave it. -/
theorem Detector.smell_of_detect {d : Detector} {scope : Scope} {given : Entries} {r : Result}
    (h : d.detect scope given = .ok (some r)) : r.smell = d.name := by
  unfold Detector.detect at h
  split at h
  · cases hverdict : d.evaluate scope ⟨given, d.defaults⟩ with
    | error fault =>
      rw [hverdict] at h
      cases h
    | ok verdict =>
      rw [hverdict] at h
      cases verdict with
      | none => cases h
      | some v =>
        obtain ⟨r', hr, hsmell⟩ := v.exists_toResult d.name
        simp only [bind, Except.bind, hr, pure, Except.pure, Except.ok.injEq,
          Option.some.injEq] at h
        rw [← h, hsmell]
  · cases h

/-- A detector gives nothing at a scope of a kind it does not understand. -/
theorem Detector.detect_of_not_supports {d : Detector} {scope : Scope}
    (h : d.supports scope.kind = false) (given : Entries) : d.detect scope given = .ok none := by
  simp [Detector.detect, h, pure, Except.pure]

/-- A contribution is filed under the name of its detector. -/
theorem contributor_of_contribution {s : Settings} {scope : Scope} {d : Detector}
    {c : Except DetectorFailure Result} (h : s.contribution scope d = some c) :
    contributor c = d.name := by
  unfold Settings.contribution at h
  cases hdetect : d.detect scope (s.thresholdsFor d) with
  | error fault =>
    rw [hdetect] at h
    cases h
    rfl
  | ok found =>
    rw [hdetect] at h
    obtain ⟨r, rfl, rfl⟩ := Option.map_eq_some_iff.mp h
    exact Detector.smell_of_detect hdetect

namespace Analyzer

variable {s : Settings} {ds : List Detector}

/-- With distinct names, the thresholds kept under the name of a detector are its own. -/
theorem thresholdsOf_eq (hdistinct : (ds.map (·.name)).Nodup) {d : Detector} (hd : d ∈ ds) :
    (Analyzer.mk s ds).thresholdsOf d.name = s.thresholdsFor d := by
  have hreversed : (ds.reverse.map (·.name)).Nodup := by
    rw [List.map_reverse]
    exact List.nodup_reverse.mpr hdistinct
  have hfound : ds.reverse.find? (fun e ↦ e.name == d.name) = some d :=
    find?_key hreversed (List.mem_reverse.mpr hd)
  simp only [thresholdsOf, hfound]

/-- With distinct names, what an analyzer sees of a detector at a scope is the contribution of that
detector. -/
theorem inspect_eq (hdistinct : (ds.map (·.name)).Nodup) {d : Detector} (hd : d ∈ ds)
    (scope : Scope) : (Analyzer.mk s ds).inspect scope d = s.contribution scope d := by
  rw [inspect, thresholdsOf_eq hdistinct hd]
  rfl

/-- The contributions of a run, scope by scope and in the order of the list. -/
theorem contributions_eq (hdistinct : (ds.map (·.name)).Nodup) (p : Project) :
    (Analyzer.mk s ds).contributions p =
      p.scopes.flatMap fun scope ↦ ds.filterMap (s.contribution scope) := by
  unfold contributions
  congr 1
  funext scope
  exact List.filterMap_congr fun d hd ↦ inspect_eq hdistinct hd scope

/-- Keeping the detectors of some names keeps the contributions filed under those names. -/
theorem contributions_filter (hdistinct : (ds.map (·.name)).Nodup) (keep : String → Bool)
    (p : Project) :
    (Analyzer.mk s (ds.filter fun d ↦ keep d.name)).contributions p =
      ((Analyzer.mk s ds).contributions p).filter fun c ↦ keep (contributor c) := by
  have hkept : ((ds.filter fun d ↦ keep d.name).map (·.name)).Nodup :=
    hdistinct.sublist (List.filter_sublist.map _)
  rw [contributions_eq hkept, contributions_eq hdistinct, List.filter_flatMap]
  congr 1
  funext scope
  rw [List.filterMap_filter, List.filter_filterMap]
  refine List.filterMap_congr fun d _ ↦ ?_
  cases hgiven : s.contribution scope d with
  | none => simp
  | some c => simp [Option.filter, contributor_of_contribution hgiven]

/-- Keeping the detectors of some names keeps the results of those smells. -/
theorem results_filter (hdistinct : (ds.map (·.name)).Nodup) (keep : String → Bool)
    (p : Project) (metadata : Entries) :
    ((Analyzer.mk s (ds.filter fun d ↦ keep d.name)).analyze p metadata).results =
      ((Analyzer.mk s ds).analyze p metadata).results.filter fun r ↦ keep r.smell := by
  simp only [analyze, contributions_filter hdistinct, List.filterMap_filter,
    List.filter_filterMap]
  refine List.filterMap_congr fun c _ ↦ ?_
  cases c with
  | error f => cases h : keep f.detector <;> simp [contributor, Except.toOption, h]
  | ok r => cases h : keep r.smell <;> simp [contributor, Except.toOption, Option.filter, h]

/-- Keeping the detectors of some names keeps the failures of those detectors. -/
theorem failures_filter (hdistinct : (ds.map (·.name)).Nodup) (keep : String → Bool)
    (p : Project) (metadata : Entries) :
    ((Analyzer.mk s (ds.filter fun d ↦ keep d.name)).analyze p metadata).failures =
      ((Analyzer.mk s ds).analyze p metadata).failures.filter fun f ↦ keep f.detector := by
  simp only [analyze, contributions_filter hdistinct, List.filterMap_filter,
    List.filter_filterMap]
  refine List.filterMap_congr fun c _ ↦ ?_
  cases c with
  | error f => cases h : keep f.detector <;> simp [contributor, Option.filter, h]
  | ok r => cases h : keep r.smell <;> simp [contributor, h]

end Analyzer

/-! ### Every scope with every detector once -/

/-- The scopes of a project paired with the detectors that understand them, in the order of the
run. -/
def visits (p : Project) (ds : List Detector) : List (Scope × Detector) :=
  p.scopes.flatMap fun scope ↦ (ds.filter fun d ↦ d.supports scope.kind).map (scope, ·)

namespace Settings

variable (s : Settings)

/-- The result that a visit ends with, if it ends with one. -/
def resultAt (v : Scope × Detector) : Option Result :=
  match v.2.detect v.1 (s.thresholdsFor v.2) with
  | .ok found => found
  | .error _ => none

/-- The failure that a visit ends with, if it ends with one. -/
def failureAt (v : Scope × Detector) : Option DetectorFailure :=
  match v.2.detect v.1 (s.thresholdsFor v.2) with
  | .ok _ => none
  | .error fault => some ⟨v.2.name, v.1.describe, fault.message⟩

/-- Whether a visit ends with neither, because the detector does not apply. -/
def silentAt (v : Scope × Detector) : Bool :=
  match v.2.detect v.1 (s.thresholdsFor v.2) with
  | .ok none => true
  | _ => false

/-- A visit ends in one way only: with a result, with a failure, or with neither. -/
def EndsOnce (v : Scope × Detector) : Prop :=
  (∃ r, s.resultAt v = some r ∧ s.failureAt v = none ∧ s.silentAt v = false) ∨
    (∃ f, s.resultAt v = none ∧ s.failureAt v = some f ∧ s.silentAt v = false) ∨
      (s.resultAt v = none ∧ s.failureAt v = none ∧ s.silentAt v = true)

theorem endsOnce (v : Scope × Detector) : s.EndsOnce v := by
  unfold EndsOnce resultAt failureAt silentAt
  rcases v.2.detect v.1 (s.thresholdsFor v.2) with fault | (_ | r)
  · exact Or.inr (Or.inl ⟨_, rfl, rfl, rfl⟩)
  · exact Or.inr (Or.inr ⟨rfl, rfl, rfl⟩)
  · exact Or.inl ⟨r, rfl, rfl, rfl⟩

/-- The results of some visits, their failures and those that end with neither make up the
visits. -/
theorem visits_accounted (vs : List (Scope × Detector)) :
    (vs.filterMap s.resultAt).length + (vs.filterMap s.failureAt).length +
      vs.countP s.silentAt = vs.length := by
  induction vs with
  | nil => rfl
  | cons v vs ih =>
    rw [List.filterMap_cons, List.filterMap_cons, List.countP_cons, List.length_cons]
    rcases s.endsOnce v with ⟨r, hr, hf, hs⟩ | ⟨f, hr, hf, hs⟩ | ⟨hr, hf, hs⟩
    · simp only [hr, hf, hs, List.length_cons]
      simp only [Bool.false_eq_true, ↓reduceIte]
      omega
    · simp only [hr, hf, hs, List.length_cons]
      simp only [Bool.false_eq_true, ↓reduceIte]
      omega
    · simp only [hr, hf, hs, ↓reduceIte]
      omega

end Settings

/-- An outcome holds what the visits of a project end with: each visit gives one result, one failure
or nothing, and nothing else is in the outcome. -/
structure Outcome.Accounts (s : Settings) (ds : List Detector) (p : Project) (o : Outcome) :
    Prop where
  results : o.results = (visits p ds).filterMap s.resultAt
  failures : o.failures = (visits p ds).filterMap s.failureAt
  ends_once : ∀ v ∈ visits p ds, s.EndsOnce v
  total : o.results.length + o.failures.length + (visits p ds).countP s.silentAt =
    (visits p ds).length

section Visits

variable {s : Settings} {ds : List Detector}

/-- Collecting over the visits of a project is collecting at each scope over all detectors, when the
detectors that do not understand a scope give nothing there. -/
theorem filterMap_visits {α : Type} (give : Scope × Detector → Option α)
    (hsilent : ∀ scope d, d.supports scope.kind = false → give (scope, d) = none)
    (p : Project) (ds : List Detector) :
    (visits p ds).filterMap give =
      p.scopes.flatMap fun scope ↦ ds.filterMap fun d ↦ give (scope, d) := by
  unfold visits
  rw [List.filterMap_flatMap]
  congr 1
  funext scope
  rw [List.filterMap_map, List.filterMap_filter]
  refine List.filterMap_congr fun d _ ↦ ?_
  split
  · rfl
  · next h => rw [hsilent scope d (by simpa using h)]

/-- A run with distinct names accounts for its visits. -/
theorem analyze_accounts (hdistinct : (ds.map (·.name)).Nodup) (p : Project)
    (metadata : Entries) : ((Analyzer.mk s ds).analyze p metadata).Accounts s ds p := by
  have hresults : ((Analyzer.mk s ds).analyze p metadata).results =
      (visits p ds).filterMap s.resultAt := by
    rw [filterMap_visits s.resultAt fun scope d h ↦ by
      simp only [Settings.resultAt, d.detect_of_not_supports h]]
    simp only [Analyzer.analyze, Analyzer.contributions_eq hdistinct, List.filterMap_flatMap,
      List.filterMap_filterMap]
    congr 1
    funext scope
    refine List.filterMap_congr fun d _ ↦ ?_
    unfold Settings.contribution Settings.resultAt
    rcases d.detect scope (s.thresholdsFor d) with fault | (_ | r) <;> rfl
  have hfailures : ((Analyzer.mk s ds).analyze p metadata).failures =
      (visits p ds).filterMap s.failureAt := by
    rw [filterMap_visits s.failureAt fun scope d h ↦ by
      simp only [Settings.failureAt, d.detect_of_not_supports h]]
    simp only [Analyzer.analyze, Analyzer.contributions_eq hdistinct, List.filterMap_flatMap,
      List.filterMap_filterMap]
    congr 1
    funext scope
    refine List.filterMap_congr fun d _ ↦ ?_
    unfold Settings.contribution Settings.failureAt
    rcases d.detect scope (s.thresholdsFor d) with fault | (_ | r) <;> rfl
  refine ⟨hresults, hfailures, fun v _ ↦ s.endsOnce v, ?_⟩
  rw [hresults, hfailures]
  exact s.visits_accounted (visits p ds)

end Visits

/-! ### Outcomes side by side -/

/-- The second outcome is what the first holds under some names, in the same order. -/
structure Outcome.Restricts (whole part : Outcome) (names : List String) : Prop where
  results : part.results = whole.results.filter fun r ↦ names.contains r.smell
  failures : part.failures = whole.failures.filter fun f ↦ names.contains f.detector

/-- Two outcomes agree on all that is not filed under one name. -/
structure Outcome.AgreesApartFrom (name : String) (o o' : Outcome) : Prop where
  results : (o.results.filter fun r ↦ r.smell != name) =
    o'.results.filter fun r ↦ r.smell != name
  failures : (o.failures.filter fun f ↦ f.detector != name) =
    o'.failures.filter fun f ↦ f.detector != name

/-- Two outcomes report the same. -/
structure Outcome.SameFindings (o o' : Outcome) : Prop where
  results : o.results = o'.results
  failures : o.failures = o'.failures
  metadata : o.metadata = o'.metadata

/-- A sub-list of a list of detectors with distinct names is what the list holds under its names. -/
theorem eq_filter_of_sublist {ds kept : List Detector} (hdistinct : (ds.map (·.name)).Nodup)
    (hkept : kept.Sublist ds) :
    kept = ds.filter fun d ↦ (kept.map (·.name)).contains d.name := by
  induction hkept with
  | slnil => rfl
  | @cons kept ds d hsub ih =>
    rw [List.map_cons, List.nodup_cons] at hdistinct
    have hout : d.name ∉ kept.map (·.name) := fun hin ↦
      hdistinct.1 ((hsub.map (·.name)).subset hin)
    rw [List.filter_cons_of_neg (by simpa using hout)]
    exact ih hdistinct.2
  | @cons_cons kept ds d hsub ih =>
    rw [List.map_cons, List.nodup_cons] at hdistinct
    rw [List.filter_cons_of_pos (by simp)]
    congr 1
    refine (ih hdistinct.2).trans (List.filter_congr fun e he ↦ ?_)
    have hne : e.name ≠ d.name := fun heq ↦
      hdistinct.1 (heq ▸ List.mem_map_of_mem he)
    simp [hne]

section Outcomes

variable {s : Settings} {ds : List Detector}

/-- A run with a sub-list of detectors is the run with all of them, restricted to the names of the
sub-list. -/
theorem analyze_restricts (hdistinct : (ds.map (·.name)).Nodup) {kept : List Detector}
    (hkept : kept.Sublist ds) (p : Project) (metadata : Entries) :
    ((Analyzer.mk s ds).analyze p metadata).Restricts
      ((Analyzer.mk s kept).analyze p metadata) (kept.map (·.name)) := by
  have hresults := Analyzer.results_filter (s := s) hdistinct
    (fun name ↦ (kept.map (·.name)).contains name) p metadata
  have hfailures := Analyzer.failures_filter (s := s) hdistinct
    (fun name ↦ (kept.map (·.name)).contains name) p metadata
  rw [← eq_filter_of_sublist hdistinct hkept] at hresults hfailures
  exact ⟨hresults, hfailures⟩

/-- Settings that give every detector of a list the same thresholds give the same contributions. -/
theorem contributions_congr (s s' : Settings) (hdistinct : (ds.map (·.name)).Nodup)
    (hsame : ∀ d ∈ ds, s.thresholdsFor d = s'.thresholdsFor d) (p : Project) :
    (Analyzer.mk s ds).contributions p = (Analyzer.mk s' ds).contributions p := by
  rw [Analyzer.contributions_eq hdistinct, Analyzer.contributions_eq hdistinct]
  congr 1
  funext scope
  refine List.filterMap_congr fun d hd ↦ ?_
  unfold Settings.contribution
  rw [hsame d hd]

/-- Two runs whose detectors of other names are the same and have the same thresholds agree on all
that is not filed under a name. -/
theorem analyze_agreesApartFrom {s' : Settings} {ds' : List Detector} {name : String}
    (hdistinct : (ds.map (·.name)).Nodup) (hdistinct' : (ds'.map (·.name)).Nodup)
    (hothers : (ds.filter fun d ↦ d.name != name) = ds'.filter fun d ↦ d.name != name)
    (hsame : ∀ d ∈ ds, d.name ≠ name → s.thresholdsFor d = s'.thresholdsFor d)
    (p : Project) (metadata : Entries) :
    ((Analyzer.mk s ds).analyze p metadata).AgreesApartFrom name
      ((Analyzer.mk s' ds').analyze p metadata) := by
  have hkept : ((ds.filter fun d ↦ d.name != name).map (·.name)).Nodup :=
    hdistinct.sublist (List.filter_sublist.map _)
  have hcontributions := contributions_congr s s' hkept (fun d hd ↦ by
    rw [List.mem_filter] at hd
    exact hsame d hd.1 (by simpa using hd.2)) p
  constructor
  · rw [← Analyzer.results_filter hdistinct (· != name),
      ← Analyzer.results_filter hdistinct' (· != name), ← hothers]
    simp only [Analyzer.analyze, hcontributions]
  · rw [← Analyzer.failures_filter hdistinct (· != name),
      ← Analyzer.failures_filter hdistinct' (· != name), ← hothers]
    simp only [Analyzer.analyze, hcontributions]

/-- Exchanging a detector for another of its name, one that breaks off for instance, changes nothing
that is filed under other names. -/
theorem exchange_agreesApartFrom {before after : List Detector} {d d' : Detector}
    (hname : d'.name = d.name) (hdistinct : ((before ++ d :: after).map (·.name)).Nodup)
    (p : Project) (metadata : Entries) :
    ((Analyzer.mk s (before ++ d :: after)).analyze p metadata).AgreesApartFrom d.name
      ((Analyzer.mk s (before ++ d' :: after)).analyze p metadata) := by
  have hdistinct' : ((before ++ d' :: after).map (·.name)).Nodup := by
    rw [List.map_append, List.map_cons] at hdistinct ⊢
    rwa [hname]
  refine analyze_agreesApartFrom hdistinct hdistinct' ?_ (fun _ _ _ ↦ rfl) p metadata
  rw [List.filter_append, List.filter_append, List.filter_cons_of_neg (by simp),
    List.filter_cons_of_neg (by simp [hname])]

end Outcomes

/-! ### Detectors of the catalog -/

/-- The names of the thresholds that a detector declares. -/
def Detector.keys (d : Detector) : List String :=
  d.defaults.map (·.1)

theorem Catalog.names_nodup : (Catalog.detectors.map (·.name)).Nodup := by
  decide +kernel

/-- No two detectors of the catalog declare the same threshold. -/
theorem Catalog.keys_disjoint {d e : Detector} (hd : d ∈ Catalog.detectors)
    (he : e ∈ Catalog.detectors) (hne : d.name ≠ e.name) {key : String} (hkey : key ∈ d.keys) :
    key ∉ e.keys := by
  have hnodup : (Catalog.detectors.flatMap Detector.keys).Nodup := by decide +kernel
  have hsymm : Std.Symm (Function.onFun List.Disjoint Detector.keys) :=
    ⟨fun _ _ h _ hright hleft ↦ h hleft hright⟩
  have hdisjoint : List.Disjoint d.keys e.keys :=
    (List.nodup_flatMap.mp hnodup).2.forall hd he fun heq ↦ hne (congrArg Detector.name heq)
  exact fun hin ↦ hdisjoint hkey hin

/-- A detector reads the overrides of its own thresholds only. -/
theorem Settings.thresholdsFor_congr {s s' : Settings} {d : Detector}
    (h : ∀ key ∈ d.keys, s.thresholds.get? key = s'.thresholds.get? key) :
    s.thresholdsFor d = s'.thresholdsFor d := by
  unfold Settings.thresholdsFor
  refine List.map_congr_left fun ⟨key, value⟩ he ↦ ?_
  show (key, (s.thresholds.get? key).getD value) = (key, (s'.thresholds.get? key).getD value)
  rw [h key (List.mem_map_of_mem he)]

/-- Two settings enable the same detectors, in whatever order and however often they name them. -/
def Settings.EnableSame (s s' : Settings) : Prop :=
  ∀ name, name ∈ s.enabledDetectors ↔ name ∈ s'.enabledDetectors

@[simp] theorem Analyzer.ofSettings_detectors (s : Settings) :
    (Analyzer.ofSettings s).detectors =
      Catalog.detectors.filter fun d ↦ s.enabledDetectors.contains d.name :=
  rfl

/-- Settings that enable the same names run the same detectors in the same order. -/
theorem Settings.EnableSame.detectors_eq {s s' : Settings} (h : s.EnableSame s') :
    (Analyzer.ofSettings s).detectors = (Analyzer.ofSettings s').detectors := by
  rw [Analyzer.ofSettings_detectors, Analyzer.ofSettings_detectors]
  refine List.filter_congr fun d _ ↦ ?_
  rw [Bool.eq_iff_iff, List.contains_iff_mem, List.contains_iff_mem]
  exact h d.name

/-- The detectors that settings enable have distinct names. -/
theorem Analyzer.ofSettings_distinct (s : Settings) :
    ((Analyzer.ofSettings s).detectors.map (·.name)).Nodup :=
  Catalog.names_nodup.sublist (List.filter_sublist.map _)

/-- The detectors that settings enable are detectors of the catalog. -/
theorem Analyzer.mem_catalog_of_mem_ofSettings {s : Settings} {d : Detector}
    (hd : d ∈ (Analyzer.ofSettings s).detectors) : d ∈ Catalog.detectors :=
  (List.mem_filter.mp hd).1

/-- The order and repetition of the enabled names do not show in the outcome. -/
theorem ofSettings_sameFindings {s s' : Settings} (hnames : s.EnableSame s')
    (hoverrides : ∀ key, s.thresholds.get? key = s'.thresholds.get? key) (p : Project)
    (metadata : Entries) :
    ((Analyzer.ofSettings s).analyze p metadata).SameFindings
      ((Analyzer.ofSettings s').analyze p metadata) := by
  have hdetectors := hnames.detectors_eq
  have hcontributions := contributions_congr s s' (Analyzer.ofSettings_distinct s)
    (fun d _ ↦ Settings.thresholdsFor_congr fun key _ ↦ hoverrides key) p
  have hsame : (Analyzer.ofSettings s).contributions p =
      (Analyzer.ofSettings s').contributions p := by
    rw [show Analyzer.ofSettings s' = ⟨s', (Analyzer.ofSettings s).detectors⟩ by
      rw [hdetectors]; rfl]
    exact hcontributions
  constructor
  · simp only [Analyzer.analyze, hsame]
  · simp only [Analyzer.analyze, hsame]
  · simp only [Analyzer.analyze, Analyzer.withDetectors, hdetectors]

/-- The override of a threshold shows in the outcome of its owner only. -/
theorem ofSettings_agreesApartFrom {s s' : Settings} (hnames : s.EnableSame s')
    {owner : Detector} (howner : owner ∈ Catalog.detectors) {key : String}
    (hkey : key ∈ owner.keys)
    (hoverrides : ∀ other, other ≠ key → s.thresholds.get? other = s'.thresholds.get? other)
    (p : Project) (metadata : Entries) :
    ((Analyzer.ofSettings s).analyze p metadata).AgreesApartFrom owner.name
      ((Analyzer.ofSettings s').analyze p metadata) := by
  refine analyze_agreesApartFrom (Analyzer.ofSettings_distinct s)
    (Analyzer.ofSettings_distinct s') ?_ ?_ p metadata
  · exact congrArg (List.filter fun d ↦ d.name != owner.name) hnames.detectors_eq
  · intro d hd hne
    have hcatalog : d ∈ Catalog.detectors := Analyzer.mem_catalog_of_mem_ofSettings hd
    refine Settings.thresholdsFor_congr fun other hother ↦ hoverrides other ?_
    rintro rfl
    exact Catalog.keys_disjoint howner hcatalog hne.symm hkey hother

/-! ### Sequences of calls -/

/-- A session after some calls, each with a project and its metadata. -/
def Session.after (session : Session) (calls : List (Project × Entries)) : Session :=
  calls.foldl (fun current call ↦ (current.analyze call.1 call.2).1) session

/-- One call leaves the analyzer of a session as it was. -/
theorem Session.analyze_analyzer (session : Session) (p : Project) (metadata : Entries) :
    (session.analyze p metadata).1.analyzer = session.analyzer :=
  rfl

/-- Any sequence of calls leaves the analyzer of a session as it was. -/
theorem Session.after_analyzer (calls : List (Project × Entries)) :
    ∀ session : Session, (session.after calls).analyzer = session.analyzer := by
  induction calls with
  | nil => intro session; rfl
  | cons call calls ih =>
    intro session
    show ((session.analyze call.1 call.2).1.after calls).analyzer = session.analyzer
    rw [ih, Session.analyze_analyzer]

/-- The outcome of a call that comes after other calls of the same session. -/
def outcomeAfter (a : Analyzer) (earlier : List (Project × Entries)) (p : Project)
    (metadata : Entries) : Outcome :=
  ((Session.after ⟨a, .configLoaded⟩ earlier).analyze p metadata).2

/-- A call gives the same outcome whatever calls came before it. -/
theorem outcomeAfter_eq (a : Analyzer) (earlier : List (Project × Entries)) (p : Project)
    (metadata : Entries) : outcomeAfter a earlier p metadata = a.analyze p metadata := by
  show (Session.after ⟨a, .configLoaded⟩ earlier).analyzer.analyze p metadata = _
  rw [Session.after_analyzer]

/-- Detectors are isolated from each other, in every call of every session. Assumes: detectors with
distinct names.

With a sub-list of the detectors the outcome is the full one, restricted to their names. Every scope
and every detector that understands it contribute one result, one failure or nothing, and the
outcome holds nothing else. Exchanging a detector for any other of its name, one that breaks off
included, changes nothing that the others contribute. For analyzers made from settings, the outcome
depends on the set of enabled names, and the override of a threshold shows only under the name of
the detector that declares it. The calls that came before, `earlier` and `before`, are arbitrary and
need not be the same on both sides. -/
theorem detectors_isolated (s : Settings) (ds : List Detector)
    (hdistinct : (ds.map (·.name)).Nodup) (earlier : List (Project × Entries)) (p : Project)
    (metadata : Entries) :
    (∀ (kept : List Detector) (before : List (Project × Entries)), kept.Sublist ds →
      (outcomeAfter ⟨s, ds⟩ earlier p metadata).Restricts
        (outcomeAfter ⟨s, kept⟩ before p metadata) (kept.map (·.name))) ∧
    (outcomeAfter ⟨s, ds⟩ earlier p metadata).Accounts s ds p ∧
    (∀ (front back : List Detector) (d d' : Detector) (before : List (Project × Entries)),
      ds = front ++ d :: back → d'.name = d.name →
        (outcomeAfter ⟨s, ds⟩ earlier p metadata).AgreesApartFrom d.name
          (outcomeAfter ⟨s, front ++ d' :: back⟩ before p metadata)) ∧
    (∀ (s' : Settings) (before : List (Project × Entries)), s.EnableSame s' →
      (∀ key, s.thresholds.get? key = s'.thresholds.get? key) →
        (outcomeAfter (.ofSettings s) earlier p metadata).SameFindings
          (outcomeAfter (.ofSettings s') before p metadata)) ∧
    (∀ (s' : Settings) (before : List (Project × Entries)) (owner : Detector) (key : String),
      s.EnableSame s' → owner ∈ Catalog.detectors → key ∈ owner.keys →
      (∀ other, other ≠ key → s.thresholds.get? other = s'.thresholds.get? other) →
        (outcomeAfter (.ofSettings s) earlier p metadata).AgreesApartFrom owner.name
          (outcomeAfter (.ofSettings s') before p metadata)) := by
  simp only [outcomeAfter_eq]
  refine ⟨?_, analyze_accounts hdistinct p metadata, ?_, ?_, ?_⟩
  · intro kept _ hkept
    exact analyze_restricts hdistinct hkept p metadata
  · rintro front back d d' _ rfl hname
    exact exchange_agreesApartFrom hname hdistinct p metadata
  · intro s' _ hnames hoverrides
    exact ofSettings_sameFindings hnames hoverrides p metadata
  · intro s' _ owner key hnames howner hkey hoverrides
    exact ofSettings_agreesApartFrom hnames howner hkey hoverrides p metadata

/-- A detector that breaks off at every project, beside the detector of global state: the run
records one failure and one result, and without the failing detector, after another call, the
result is the same. -/
theorem detectors_isolated_failing :
    (outcomeAfter ⟨{}, [.failing "Exploding" "boom" [.perProject], GlobalState.detector]⟩ []
      default []).failures.length = 1 ∧
    (outcomeAfter ⟨{}, [.failing "Exploding" "boom" [.perProject], GlobalState.detector]⟩ []
      default []).results.length = 1 ∧
    (outcomeAfter ⟨{}, [.failing "Exploding" "boom" [.perProject], GlobalState.detector]⟩ []
      default []).Restricts
        (outcomeAfter ⟨{}, [GlobalState.detector]⟩ [(default, [])] default []) ["GlobalState"] :=
  ⟨by decide, by decide, (detectors_isolated {}
    [.failing "Exploding" "boom" [.perProject], GlobalState.detector] (by decide) [] default []).1
      [GlobalState.detector] [(default, [])] (List.sublist_cons_self _ _)⟩

end CodeSmells
