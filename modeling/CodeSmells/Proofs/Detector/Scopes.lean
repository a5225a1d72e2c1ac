import CodeSmells.Proofs.Detector.ClassOrder
import CodeSmells.Proofs.Detector.Limits

/-!
# Detectors that run at two scopes

Four detectors look at a whole and at its parts: at a class and its methods, or at a project and
its classes. For three of them what is reported for the whole is put together from what is reported
for the parts (`scopes_agree`): lists are concatenated and counts added, and the severity of the
whole is not below that of a part.

The fourth compares classes with each other. Its two scopes report the same pairs of names with the
same shared intimacy, except for two classes of one name: these are compared in the project, while
the scope of a class leaves out whatever has its name. `intimate_pairs_agree_iff` says exactly when
that makes a difference, and `namesakes_reported` shows a project where it does.
-/

set_option autoImplicit false
set_option relaxedAutoImplicit false

namespace CodeSmells

/-! ### A whole and its parts -/

/-- The entry of the details of a result under a key. -/
def Result.detail? (key : String) (r : Result) : Option Value :=
  match r.details with
  | .table entries => Entries.get? key entries
  | _ => none

theorem Result.detail?_eq {r : Result} {entries : Entries} (h : r.details = .table entries)
    (key : String) : r.detail? key = Entries.get? key entries := by
  rw [detail?, h]

section Parts

variable {α : Type}

/-- What is listed for the whole under a key is what is listed for the parts, one after another. -/
def Concatenates (key : String) (parts : List α) (r : Result) (rs : α → Result) : Prop :=
  ∃ rows : α → List Value, (∀ x ∈ parts, (rs x).detail? key = some (.row (rows x))) ∧
    r.detail? key = some (.row (parts.flatMap rows))

/-- What is counted for the whole under a key is the total of what is counted for the parts. -/
def Totals (key : String) (parts : List α) (r : Result) (rs : α → Result) : Prop :=
  ∃ counts : α → ℕ, (∀ x ∈ parts, (rs x).detail? key = some (.count (counts x))) ∧
    r.detail? key = some (.count (total (parts.map counts)))

/-- A detector gives results for a whole and for its parts if its thresholds are usable, and results
that it gives for both agree. -/
structure ScopesAgree (d : Detector) (given : Entries) (whole : Scope) (parts : List α)
    (part : α → Scope) (R : Result → (α → Result) → Prop) : Prop where
  answers : Thresholds.Usable ⟨given, d.defaults⟩ d.keys → ∃ (r : Result) (rs : α → Result),
    d.detect whole given = .ok (some r) ∧ ∀ x ∈ parts, d.detect (part x) given = .ok (some (rs x))
  agrees : ∀ r rs, d.detect whole given = .ok (some r) →
    (∀ x ∈ parts, d.detect (part x) given = .ok (some (rs x))) → R r rs

theorem exists_results {d : Detector} (hd : d.Total) {given : Entries} {whole : Scope}
    {part : α → Scope} (hwhole : d.supports whole.kind = true)
    (hpart : ∀ x, d.supports (part x).kind = true)
    (happlies : Applies (d.evaluate whole ⟨given, d.defaults⟩))
    (happlies' : ∀ x, Applies (d.evaluate (part x) ⟨given, d.defaults⟩)) (parts : List α)
    (ht : Thresholds.Usable ⟨given, d.defaults⟩ d.keys) :
    ∃ (r : Result) (rs : α → Result), d.detect whole given = .ok (some r) ∧
      ∀ x ∈ parts, d.detect (part x) given = .ok (some (rs x)) := by
  obtain ⟨r, hr⟩ := hd.exists_result ht hwhole happlies
  choose rs hrs using fun x ↦ hd.exists_result ht (hpart x) (happlies' x)
  exact ⟨r, rs, hr, fun x _ ↦ hrs x⟩

end Parts

/-! ### Message chains -/

namespace MessageChains

/-- The chains of some methods that exceed a limit. -/
def reported (limit : Value) (methods : List Method) : List Chain :=
  (methods.flatMap messageChains).filter (keeps fun c ↦ Measured.above c.length limit)

theorem reported_eq_flatMap (limit : Value) (methods : List Method) :
    reported limit methods = methods.flatMap fun m ↦ reported limit [m] := by
  simp only [reported, List.filter_flatMap, List.flatMap_singleton]

/-- A chain in a report. -/
def Chain.toValue (c : Chain) : Value :=
  .table [
    ("kind", .text c.kind.name),
    ("chain", .texts c.segments),
    ("length", .count c.length),
    ("method", .text c.method),
    ("line", .optWhole c.line)]

/-- How grave a chain of its length is by itself. -/
def Chain.level (c : Chain) : ℕ :=
  (Findings.mk [c]).severity.level

/-- The gravest chain decides. -/
theorem level_eq (f : Findings) (place : Location) (details : Value) :
    (Verdict.mk (!f.chains.isEmpty) f.severity place details).level =
      greatest (f.chains.map Chain.level) := by
  have hdeepest (c : Chain) : (Findings.mk [c]).deepest = c.length := by
    rw [Findings.deepest, List.map_singleton]
    exact Nat.zero_max _
  by_cases hempty : f.chains = []
  · rw [Verdict.level, hempty]
    rfl
  · have hdetected : (!f.chains.isEmpty) = true := by
      rw [Bool.not_eq_true', List.isEmpty_eq_false_iff]
      exact hempty
    rw [Verdict.level, if_pos hdetected]
    -- The longest chain is one of them, and a longer chain is not less grave.
    apply le_antisymm
    · obtain ⟨c, hc, hlength⟩ := List.mem_map.mp
        (greatest_mem (List.map_eq_nil_iff.not.mpr hempty : f.chains.map Chain.length ≠ []))
      refine le_trans (severity_le ?_) (le_greatest (List.mem_map_of_mem hc))
      rw [hdeepest, hlength]
      rfl
    · refine greatest_le_iff.mpr fun n hn ↦ ?_
      obtain ⟨c, hc, rfl⟩ := List.mem_map.mp hn
      refine severity_le ?_
      rw [hdeepest]
      exact le_greatest (List.mem_map_of_mem hc)

theorem result_of_detect {scope : Scope} {given : Entries} {r : Result}
    (h : detector.detect scope given = .ok (some r)) :
    ∃ limit, Thresholds.get ⟨given, detector.defaults⟩ "max_chain_length" = .ok limit ∧
      r.detail? "chains" = some (.row ((reported limit (methodsOf scope)).map Chain.toValue)) ∧
      r.severityLevel = greatest ((reported limit (methodsOf scope)).map Chain.level) := by
  obtain ⟨-, v, hv, rfl⟩ := Detector.detect_eq_some_iff.mp h
  obtain ⟨f, hf, hv⟩ := bind_eq_ok_iff.mp hv
  obtain ⟨limit, hlimit, hf⟩ := bind_eq_ok_iff.mp hf
  obtain ⟨chains, hchains, hf⟩ := bind_eq_ok_iff.mp hf
  cases hf
  cases hv
  obtain ⟨-, rfl⟩ := filterM_eq_ok_iff.mp hchains
  refine ⟨limit, hlimit, rfl, ?_⟩
  rw [Verdict.severityLevel_result]
  exact level_eq _ _ _

theorem scopesAgree (k : Class) (p : Project) (path : Option String)
    (paths : Method → Option String) (given : Entries) :
    ScopesAgree detector given (.ofClass k p path) k.methods (fun m ↦ .ofMethod m k (paths m))
      fun r rs ↦
      Concatenates "chains" k.methods r rs ∧
        r.severityLevel = greatest (k.methods.map fun m ↦ (rs m).severityLevel) where
  answers := exists_results detector_total rfl (fun _ ↦ rfl) (.bind fun _ ↦ applies_some _)
    (fun _ ↦ .bind fun _ ↦ applies_some _) k.methods
  agrees r rs hr hrs := by
    obtain ⟨limit, hlimit, hchains, hlevel⟩ := result_of_detect hr
    have hmethods : ∀ m ∈ k.methods,
        (rs m).detail? "chains" = some (.row ((reported limit [m]).map Chain.toValue)) ∧
          (rs m).severityLevel = greatest ((reported limit [m]).map Chain.level) := by
      intro m hm
      obtain ⟨limit', hlimit', hchains', hlevel'⟩ := result_of_detect (hrs m hm)
      cases hlimit.symm.trans hlimit'
      exact ⟨hchains', hlevel'⟩
    constructor
    · refine ⟨fun m ↦ (reported limit [m]).map Chain.toValue, fun m hm ↦ (hmethods m hm).1, ?_⟩
      rw [hchains, reported_eq_flatMap, List.map_flatMap]
      rfl
    · rw [hlevel, reported_eq_flatMap, List.map_flatMap, greatest_flatMap]
      exact congrArg greatest (List.map_congr_left fun m hm ↦ (hmethods m hm).2.symm)

end MessageChains

/-! ### Comments -/

namespace Comments

theorem details_of_detect {scope : Scope} {given : Entries} {r : Result} {stats : CommentStats}
    (hstats : statsOf? scope = some stats) (h : detector.detect scope given = .ok (some r)) :
    r.details = toValue stats ⟨given, detector.defaults⟩ := by
  obtain ⟨-, v, hv, rfl⟩ := Detector.detect_eq_some_iff.mp h
  simp only [detector, hstats] at hv
  obtain ⟨b, -, hv⟩ := bind_eq_ok_iff.mp hv
  cases hv
  rfl

theorem commentStats_flatMap (ms : List Method) :
    let whole := commentStats (ms.flatMap (·.lines))
    whole.commentLines = total (ms.map fun m ↦ (commentStats m.lines).commentLines) ∧
    whole.codeLines = total (ms.map fun m ↦ (commentStats m.lines).codeLines) ∧
    whole.totalLines = total (ms.map fun m ↦ (commentStats m.lines).totalLines) := by
  induction ms with
  | nil => exact ⟨rfl, rfl, rfl⟩
  | cons m ms ih =>
    simp only [commentStats, List.flatMap_cons, List.countP_append, List.map_cons,
      total_cons] at ih ⊢
    omega

theorem scopesAgree (k : Class) (p : Project) (path : Option String)
    (paths : Method → Option String) (given : Entries) :
    ScopesAgree detector given (.ofClass k p path) k.methods (fun m ↦ .ofMethod m k (paths m))
      fun r rs ↦
      Totals "comment_lines" k.methods r rs ∧ Totals "code_lines" k.methods r rs ∧
        Totals "total_lines" k.methods r rs where
  answers := exists_results detector_total rfl (fun _ ↦ rfl) (.bind fun _ ↦ applies_some _)
    (fun _ ↦ .bind fun _ ↦ applies_some _) k.methods
  agrees r rs hr hrs := by
    have hwhole := Result.detail?_eq (details_of_detect rfl hr)
    have hpart (m : Method) (hm : m ∈ k.methods) :=
      Result.detail?_eq (details_of_detect rfl (hrs m hm))
    obtain ⟨hcomments, hcode, htotal⟩ := commentStats_flatMap k.methods
    refine ⟨⟨_, fun m hm ↦ hpart m hm _, ?_⟩, ⟨_, fun m hm ↦ hpart m hm _, ?_⟩,
      ⟨_, fun m hm ↦ hpart m hm _, ?_⟩⟩
    · rw [hwhole, ← hcomments]
      rfl
    · rw [hwhole, ← hcode]
      rfl
    · rw [hwhole, ← htotal]
      rfl

end Comments

/-! ### Speculative generality -/

namespace SpeculativeGenerality

theorem details_of_class {k : Class} {p : Project} {path : Option String} {given : Entries}
    {r : Result} (h : detector.detect (.ofClass k p path) given = .ok (some r)) :
    r.details = (findings p [k]).toValue ⟨given, detector.defaults⟩ := by
  obtain ⟨-, v, hv, rfl⟩ := Detector.detect_eq_some_iff.mp h
  obtain ⟨b, -, hv⟩ := bind_eq_ok_iff.mp hv
  cases hv
  rfl

theorem details_of_project {p : Project} {given : Entries} {r : Result}
    (h : detector.detect (.ofProject p) given = .ok (some r)) :
    r.details = (findings p p.classes).toValue ⟨given, detector.defaults⟩ := by
  obtain ⟨-, v, hv, rfl⟩ := Detector.detect_eq_some_iff.mp h
  obtain ⟨b, -, hv⟩ := bind_eq_ok_iff.mp hv
  cases hv
  rfl

/-- What is found in some classes is found in one of them after the other. -/
theorem findings_eq_flatMap (p : Project) (classes : List Class) :
    findings p classes = {
      unusedMethods := classes.flatMap fun k ↦ (findings p [k]).unusedMethods
      unusedParameters := classes.flatMap fun k ↦ (findings p [k]).unusedParameters
      abstractClasses := classes.flatMap fun k ↦ (findings p [k]).abstractClasses } := by
  have habstract : (classes.filter (isNeedlesslyAbstract p)).map (·.name) =
      classes.flatMap fun k ↦ ([k].filter (isNeedlesslyAbstract p)).map (·.name) := by
    induction classes with
    | nil => rfl
    | cons k classes ih =>
      rw [List.flatMap_cons, ← ih, ← List.map_append, ← List.filter_append, List.singleton_append]
  simp only [findings, List.flatMap_singleton, habstract]

theorem findings_fewer {p : Project} {k : Class} (hk : k ∈ p.classes) :
    (findings p [k]).Fewer (findings p p.classes) := by
  have hsub : [k].Sublist p.classes := List.singleton_sublist.mpr hk
  exact ⟨(hsub.flatMap _).length_le, (hsub.flatMap _).length_le,
    ((hsub.filter _).map _).length_le⟩

theorem scopesAgree (p : Project) (paths : Class → Option String) (given : Entries) :
    ScopesAgree detector given (.ofProject p) p.classes (fun k ↦ .ofClass k p (paths k)) fun r rs ↦
      (Concatenates "unused_methods" p.classes r rs ∧
        Concatenates "unused_parameters" p.classes r rs ∧
        Concatenates "abstract_classes" p.classes r rs) ∧
      ∀ k ∈ p.classes, (rs k).severityLevel ≤ r.severityLevel where
  answers := exists_results detector_total rfl (fun _ ↦ rfl) (.bind fun _ ↦ applies_some _)
    (fun _ ↦ .bind fun _ ↦ applies_some _) p.classes
  agrees r rs hr hrs := by
    have hdetails := details_of_project hr
    rw [findings_eq_flatMap] at hdetails
    have hwhole := Result.detail?_eq hdetails
    have hpart (k : Class) (hk : k ∈ p.classes) :=
      Result.detail?_eq (details_of_class (hrs k hk))
    refine ⟨⟨⟨_, fun k hk ↦ hpart k hk _, ?_⟩, ⟨_, fun k hk ↦ hpart k hk _, ?_⟩,
      ⟨_, fun k hk ↦ hpart k hk _, ?_⟩⟩, fun k hk ↦ ?_⟩
    · rw [hwhole, ← List.map_flatMap]
      rfl
    · rw [hwhole, ← List.map_flatMap]
      rfl
    · rw [hwhole, ← List.map_flatMap]
      rfl
    · exact Detector.severityLevel_le (verdict_noGraver (.refl _) _ _ (findings_fewer hk))
        (hrs k hk) hr

end SpeculativeGenerality

/-- Detectors that run at two scopes agree. Whatever the project, the class and the thresholds: the
message chains of a class are those of its methods, one method after another, and are as grave as
the gravest of them; the comment, code and total lines of a class are the totals over its methods;
what is written in vain in a project is what is written so in its classes, one class after another,
and is at least as grave as in each of them. Under usable thresholds all these results are there. -/
theorem scopes_agree (p : Project) (k : Class) (path : Option String)
    (methodPath : Method → Option String) (classPath : Class → Option String) (given : Entries) :
    ScopesAgree MessageChains.detector given (.ofClass k p path) k.methods
      (fun m ↦ .ofMethod m k (methodPath m)) (fun r rs ↦
        Concatenates "chains" k.methods r rs ∧
        r.severityLevel = greatest (k.methods.map fun m ↦ (rs m).severityLevel)) ∧
    ScopesAgree Comments.detector given (.ofClass k p path) k.methods
      (fun m ↦ .ofMethod m k (methodPath m)) (fun r rs ↦
        Totals "comment_lines" k.methods r rs ∧ Totals "code_lines" k.methods r rs ∧
        Totals "total_lines" k.methods r rs) ∧
    ScopesAgree SpeculativeGenerality.detector given (.ofProject p) p.classes
      (fun k ↦ .ofClass k p (classPath k)) (fun r rs ↦
        (Concatenates "unused_methods" p.classes r rs ∧
          Concatenates "unused_parameters" p.classes r rs ∧
          Concatenates "abstract_classes" p.classes r rs) ∧
        ∀ k ∈ p.classes, (rs k).severityLevel ≤ r.severityLevel) :=
  ⟨MessageChains.scopesAgree k p path methodPath given,
    Comments.scopesAgree k p path methodPath given,
    SpeculativeGenerality.scopesAgree p classPath given⟩

/-! ### Inappropriate intimacy -/

namespace InappropriateIntimacy

/-- A result lists two names, in whatever order, with a shared intimacy. -/
def Reports (r : Result) (names : Sym2 String) (shared : ℕ) : Prop :=
  ∃ rows, r.detail? "pairs" = some (.row rows) ∧ ∃ entries, .table entries ∈ rows ∧
    ∃ a b, Entries.get? "first" entries = some (.text a) ∧
      Entries.get? "second" entries = some (.text b) ∧ names = s(a, b) ∧
      Entries.get? "shared_intimacy" entries = some (.count shared)

/-- A pair has two names, in whatever order, and a shared intimacy. -/
def IntimatePair.Is (pair : IntimatePair) (names : Sym2 String) (shared : ℕ) : Prop :=
  names = s(pair.first, pair.second) ∧ shared = pair.sharedIntimacy

/-- Two classes are too intimate under some thresholds. -/
def Intimate (t : Thresholds) (a b : Class) : Prop :=
  isIntimate t (intimacy a b) = .ok true

theorem Intimate.symm {t : Thresholds} {a b : Class} (h : Intimate t a b) : Intimate t b a := by
  have hclose : isClose t (intimacy a b).bond = .ok true := h
  rw [bond_intimacy_comm] at hclose
  exact hclose

theorem is_comm {a b : Class} {names : Sym2 String} {shared : ℕ}
    (h : (intimacy a b).Is names shared) : (intimacy b a).Is names shared := by
  have hbond := bond_intimacy_comm a b
  obtain ⟨hnames, hshared⟩ := h
  exact ⟨hnames.trans (congrArg Bond.classes hbond),
    hshared.trans (congrArg Bond.sharedIntimacy hbond)⟩

/-- The entries of a pair in a report. -/
def IntimatePair.toEntries (pair : IntimatePair) : Entries :=
  [("first", .text pair.first),
   ("second", .text pair.second),
   ("bidirectional", .flag pair.bidirectional),
   ("shared_intimacy", .count pair.sharedIntimacy),
   ("private_fields", .texts pair.privateFields)]

theorem reports_iff_of_row {r : Result} {listed : List IntimatePair} {names : Sym2 String}
    {shared : ℕ}
    (h : r.detail? "pairs" = some (.row (listed.map fun pair ↦ .table pair.toEntries))) :
    Reports r names shared ↔ ∃ pair ∈ listed, pair.Is names shared := by
  constructor
  · rintro ⟨rows, hrows, entries, hentries, a, b, ha, hb, rfl, hshared⟩
    cases h.symm.trans hrows
    obtain ⟨pair, hpair, hentries⟩ := List.mem_map.mp hentries
    cases hentries
    cases ha
    cases hb
    refine ⟨pair, hpair, rfl, ?_⟩
    have hwhole : (pair.sharedIntimacy : ℤ) = shared := by
      cases hshared
      rfl
    omega
  · rintro ⟨pair, hpair, rfl, rfl⟩
    exact ⟨_, h, pair.toEntries, List.mem_map_of_mem hpair, pair.first, pair.second, rfl, rfl, rfl,
      rfl⟩

/-- What is reported are the candidates that are too intimate. -/
theorem reports_iff {scope : Scope} {given : Entries} {r : Result}
    (h : detector.detect scope given = .ok (some r)) {names : Sym2 String} {shared : ℕ} :
    Reports r names shared ↔ ∃ pair ∈ candidates scope,
      isIntimate ⟨given, detector.defaults⟩ pair = .ok true ∧ pair.Is names shared := by
  obtain ⟨-, v, hv, rfl⟩ := Detector.detect_eq_some_iff.mp h
  obtain ⟨f, hf, hv⟩ := bind_eq_ok_iff.mp hv
  obtain ⟨intimates, hpairs, hf⟩ := bind_eq_ok_iff.mp hf
  cases hf
  cases hv
  obtain ⟨hanswers, rfl⟩ := filterM_eq_ok_iff.mp hpairs
  have hlisted : ∀ pair, pair ∈ (candidates scope).filter
        (keeps (isIntimate ⟨given, detector.defaults⟩)) ↔
      pair ∈ candidates scope ∧ isIntimate ⟨given, detector.defaults⟩ pair = .ok true := by
    intro pair
    rw [List.mem_filter]
    refine and_congr_right fun hpair ↦ ⟨eq_ok_true_of_keeps, fun htrue ↦ ?_⟩
    exact Except.ok.inj ((hanswers pair hpair).symm.trans htrue)
  rw [reports_iff_of_row rfl]
  simp only [hlisted, and_assoc]

section Project

variable {p : Project} {given : Entries} {r : Result} {names : Sym2 String} {shared : ℕ}

theorem reports_project_iff (h : detector.detect (.ofProject p) given = .ok (some r)) :
    Reports r names shared ↔ ∃ a b, (a, b) ∈ pairs p.classes ∧
      Intimate ⟨given, detector.defaults⟩ a b ∧ (intimacy a b).Is names shared := by
  rw [reports_iff h]
  constructor
  · rintro ⟨pair, hpair, hintimate, his⟩
    obtain ⟨⟨a, b⟩, hab, rfl⟩ := List.mem_map.mp hpair
    exact ⟨a, b, hab, hintimate, his⟩
  · rintro ⟨a, b, hab, hintimate, his⟩
    exact ⟨intimacy a b, List.mem_map.mpr ⟨(a, b), hab, rfl⟩, hintimate, his⟩

theorem reports_class_iff {k : Class} {path : Option String}
    (h : detector.detect (.ofClass k p path) given = .ok (some r)) :
    Reports r names shared ↔ ∃ other ∈ p.classes, other.name ≠ k.name ∧
      Intimate ⟨given, detector.defaults⟩ k other ∧ (intimacy k other).Is names shared := by
  rw [reports_iff h]
  constructor
  · rintro ⟨pair, hpair, hintimate, his⟩
    obtain ⟨other, hother, rfl⟩ := List.mem_map.mp hpair
    rw [List.mem_filter, bne_iff_ne] at hother
    exact ⟨other, hother.1, hother.2, hintimate, his⟩
  · rintro ⟨other, hother, hne, hintimate, his⟩
    have hkept : other ∈ p.classes.filter fun other ↦ other.name != k.name :=
      List.mem_filter.mpr ⟨hother, bne_iff_ne.mpr hne⟩
    exact ⟨intimacy k other, List.mem_map_of_mem hkept, hintimate, his⟩

end Project

/-- Two classes of one name, at different places of a project, that are too intimate. -/
def NamesakesShare (p : Project) (t : Thresholds) (names : Sym2 String) (shared : ℕ) : Prop :=
  ∃ a b, (a, b) ∈ pairs p.classes ∧ a.name = b.name ∧ Intimate t a b ∧
    (intimacy a b).Is names shared

theorem NamesakesShare.isDiag {p : Project} {t : Thresholds} {names : Sym2 String} {shared : ℕ}
    (h : NamesakesShare p t names shared) : names.IsDiag := by
  obtain ⟨a, b, -, hname, -, rfl, -⟩ := h
  exact Sym2.mk_isDiag_iff.mpr hname

/-- What the two scopes report. Namesakes are compared in the project only. -/
theorem scopesAgree_namesakes (p : Project) (paths : Class → Option String) (given : Entries) :
    ScopesAgree detector given (.ofProject p) p.classes (fun k ↦ .ofClass k p (paths k))
      fun r rs ↦ (∀ names shared, Reports r names shared ↔
        (∃ k ∈ p.classes, Reports (rs k) names shared) ∨
          NamesakesShare p ⟨given, detector.defaults⟩ names shared) ∧
        ∀ k ∈ p.classes, ∀ names shared, Reports (rs k) names shared → ¬ names.IsDiag where
  answers := exists_results detector_total rfl (fun _ ↦ rfl) (.bind fun _ ↦ applies_some _)
    (fun _ ↦ .bind fun _ ↦ applies_some _) p.classes
  agrees r rs hr hrs := by
    constructor
    · intro names shared
      rw [reports_project_iff hr]
      constructor
      · rintro ⟨a, b, hab, hintimate, his⟩
        by_cases hname : a.name = b.name
        · exact Or.inr ⟨a, b, hab, hname, hintimate, his⟩
        · obtain ⟨ha, hb⟩ := mem_of_mem_pairs hab
          refine Or.inl ⟨a, ha, (reports_class_iff (hrs a ha)).mpr ?_⟩
          exact ⟨b, hb, fun heq ↦ hname heq.symm, hintimate, his⟩
      · rintro (⟨k, hk, hreports⟩ | ⟨a, b, hab, -, hintimate, his⟩)
        · obtain ⟨other, hother, hne, hintimate, his⟩ := (reports_class_iff (hrs k hk)).mp hreports
          -- The project compares the two classes as well, in the order in which it lists them.
          have hapart : k ≠ other := fun heq ↦ hne (heq ▸ rfl)
          rcases mem_pairs_or hk hother hapart with hpair | hpair
          · exact ⟨k, other, hpair, hintimate, his⟩
          · exact ⟨other, k, hpair, hintimate.symm, is_comm his⟩
        · exact ⟨a, b, hab, hintimate, his⟩
    · intro k hk names shared hreports
      obtain ⟨other, -, hne, -, rfl, -⟩ := (reports_class_iff (hrs k hk)).mp hreports
      exact fun hdiag ↦ hne (Sym2.mk_isDiag_iff.mp hdiag).symm

/-- The two scopes report the same pairs exactly where no two classes of one name are intimate.
Whatever the project and the thresholds: the pairs of names with their shared intimacy that are
reported for the project are those reported for its classes and, beside them, those of intimate
namesakes. So they are the same if and only if there are no intimate namesakes, which is also when
no class is reported as intimate with one of its own name. Under usable thresholds all these results
are there. -/
theorem intimate_pairs_agree_iff (p : Project) (paths : Class → Option String) (given : Entries) :
    ScopesAgree detector given (.ofProject p) p.classes (fun k ↦ .ofClass k p (paths k))
      fun r rs ↦
        (∀ names shared, Reports r names shared ↔
          (∃ k ∈ p.classes, Reports (rs k) names shared) ∨
            NamesakesShare p ⟨given, detector.defaults⟩ names shared) ∧
        ((∀ names shared, Reports r names shared ↔
            ∃ k ∈ p.classes, Reports (rs k) names shared) ↔
          ∀ names shared, ¬ NamesakesShare p ⟨given, detector.defaults⟩ names shared) ∧
        ((∀ names shared, Reports r names shared → ¬ names.IsDiag) ↔
          ∀ names shared, ¬ NamesakesShare p ⟨given, detector.defaults⟩ names shared) where
  answers := (scopesAgree_namesakes p paths given).answers
  agrees r rs hr hrs := by
    obtain ⟨hreports, hclasses⟩ := (scopesAgree_namesakes p paths given).agrees r rs hr hrs
    refine ⟨hreports, ⟨fun hsame names shared hshare ↦ ?_, fun hnone names shared ↦ ?_⟩,
      ⟨fun hproper names shared hshare ↦ ?_, fun hnone names shared hr hdiag ↦ ?_⟩⟩
    · have hreported := (hreports names shared).mpr (Or.inr hshare)
      obtain ⟨k, hk, hclass⟩ := (hsame names shared).mp hreported
      exact hclasses k hk names shared hclass hshare.isDiag
    · rw [hreports]
      exact or_iff_left (hnone names shared)
    · exact hproper names shared ((hreports names shared).mpr (Or.inr hshare)) hshare.isDiag
    · rcases (hreports names shared).mp hr with ⟨k, hk, hclass⟩ | hshare
      · exact hclasses k hk names shared hclass hdiag
      · exact hnone names shared hshare

/-- A class of a state machine that uses its own private fields. -/
def stateOf (file : String) : Class :=
  { (default : Class) with
    name := "State"
    methods := [{ (default : Method) with
      name := "enter", accesses := [⟨"State", "_phase"⟩, ⟨"State", "_timer"⟩] }]
    filePath := some file }

/-- A project in which two files declare a class of one name. -/
def namesakes : Project :=
  { (default : Project) with classes := [stateOf "a.gd", stateOf "b.gd"], name := "game" }

/-- Two classes of one name that use their own private fields are reported as intimate for the
project, and not for either of them. -/
theorem namesakes_reported :
    ∃ (r : Result) (rs : Class → Result), detector.detect (.ofProject namesakes) [] = .ok (some r) ∧
      (∀ k ∈ namesakes.classes,
        detector.detect (.ofClass k namesakes k.filePath) [] = .ok (some (rs k))) ∧
      Reports r s("State", "State") 4 ∧
      ∀ k ∈ namesakes.classes, ∀ names shared, ¬ Reports (rs k) names shared := by
  have hcatalog : detector ∈ Catalog.detectors := by simp [Catalog.detectors]
  have husable : Thresholds.Usable ⟨[], detector.defaults⟩ detector.keys :=
    usable_of_given hcatalog (List.forall_mem_nil _)
  obtain ⟨r, rs, hr, hrs⟩ := (scopesAgree_namesakes namesakes Class.filePath []).answers husable
  have hname : ∀ k ∈ namesakes.classes, k.name = "State" := by decide
  refine ⟨r, rs, hr, hrs, ?_, fun k hk names shared hreports ↦ ?_⟩
  · rw [reports_project_iff hr]
    exact ⟨stateOf "a.gd", stateOf "b.gd", List.mem_cons_self, rfl, rfl, rfl⟩
  · obtain ⟨other, hother, hne, -⟩ := (reports_class_iff (hrs k hk)).mp hreports
    exact hne ((hname other hother).trans (hname k hk).symm)

end InappropriateIntimacy

end CodeSmells
