import CodeSmells.Proofs.Grouping
import CodeSmells.Report.Files
import Mathlib.Data.List.Nodup

/-!
# The names of the files of a report

A report as data is one file for each source file with smells, and a summary. The files are named
for the stems of the sources, and a stem that comes back gets a number: `a.json`, `a-2.json`,
`a-3.json`. The numbers keep the uses of one stem apart (`uses_nodup`) and nothing else does: a
source whose own stem is `a-2` meets the second use of `a`, and a source whose stem is `summary`
meets the summary. `StemsApart` is the condition that this does not happen, and it is the exact one
(`dataFiles_names_nodup_iff`).

`uses` pairs every stem with the number of times it came before, and `mem_uses_iff` says which pairs
occur. `numberedName_eq_iff` says when two pairs get one name. The summary names for a source the
file beside it (`namedReport?_of_mem_zip`).
-/

set_option autoImplicit false
set_option relaxedAutoImplicit false

namespace CodeSmells.Report

/-! ### Numbered names -/

/-- The digits of a number hold no hyphen. -/
theorem hyphen_not_mem_toString (n : Nat) : '-' ∉ (toString n).toList := by
  intro h
  rw [Nat.toString_eq_repr, Nat.toList_repr] at h
  have hdigit := Nat.isDigit_of_mem_toDigits (by decide) (by decide) h
  revert hdigit
  decide

/-- Numbers are told apart by their digits. -/
theorem toString_injective {m n : Nat} (h : toString m = toString n) : m = n := by
  have hdigits : Nat.toDigits 10 m = Nat.toDigits 10 n := by
    rw [← Nat.toList_repr, ← Nat.toList_repr, ← Nat.toString_eq_repr, ← Nat.toString_eq_repr, h]
  have hread := congrArg (fun digits ↦ Nat.ofDigitChars 10 digits 0) hdigits
  simpa using hread

/-- What follows the last hyphen of a text. -/
def afterHyphen (cs : List Char) : List Char :=
  (cs.reverse.takeWhile (· != '-')).reverse

theorem afterHyphen_append {tail : List Char} (h : '-' ∉ tail) (front : List Char) :
    afterHyphen (front ++ '-' :: tail) = tail := by
  have hkeep : ∀ c ∈ tail.reverse, (c != '-') = true := fun c hc ↦ by
    simpa using fun heq : c = '-' ↦ h (heq ▸ List.mem_reverse.mp hc)
  rw [afterHyphen, List.reverse_append, List.reverse_cons, List.append_assoc,
    List.takeWhile_append_of_pos hkeep]
  simp

/-- A stem and a number can be read off the two joined by a hyphen. -/
theorem hyphenated_injective {stem other : String} {m n : Nat}
    (h : stem ++ "-" ++ toString m = other ++ "-" ++ toString n) : stem = other ∧ m = n := by
  have hlists : stem.toList ++ '-' :: (toString m).toList =
      other.toList ++ '-' :: (toString n).toList := by
    simpa using congrArg String.toList h
  have hnumber : (toString m).toList = (toString n).toList := by
    rw [← afterHyphen_append (hyphen_not_mem_toString m) stem.toList, hlists,
      afterHyphen_append (hyphen_not_mem_toString n)]
  rw [hnumber] at hlists
  exact ⟨String.toList_inj.mp (List.append_cancel_right hlists),
    toString_injective (String.toList_inj.mp hnumber)⟩

theorem append_json_inj {s t : String} (h : s ++ ".json" = t ++ ".json") : s = t := by
  have hlists := congrArg String.toList h
  rw [String.toList_append, String.toList_append] at hlists
  exact String.toList_inj.mp (List.append_cancel_right hlists)

/-- Two uses get the same name when they are the same use, or when one is the first use of a stem
that spells out the other. -/
theorem numberedName_eq_iff {stem other : String} {m n : Nat} :
    numberedName stem m = numberedName other n ↔
      (stem = other ∧ m = n) ∨
      (m = 0 ∧ n ≠ 0 ∧ stem = other ++ "-" ++ toString (n + 1)) ∨
      (n = 0 ∧ m ≠ 0 ∧ other = stem ++ "-" ++ toString (m + 1)) := by
  constructor
  · intro h
    cases m with
    | zero =>
      cases n with
      | zero => exact Or.inl ⟨append_json_inj h, rfl⟩
      | succ n => exact Or.inr (Or.inl ⟨rfl, Nat.succ_ne_zero n, append_json_inj h⟩)
    | succ m =>
      cases n with
      | zero => exact Or.inr (Or.inr ⟨rfl, Nat.succ_ne_zero m, (append_json_inj h).symm⟩)
      | succ n =>
        obtain ⟨hstem, hnumber⟩ := hyphenated_injective (append_json_inj h)
        exact Or.inl ⟨hstem, Nat.add_right_cancel hnumber⟩
  · rintro (⟨rfl, rfl⟩ | ⟨rfl, hn, rfl⟩ | ⟨rfl, hm, rfl⟩)
    · rfl
    · obtain ⟨n, rfl⟩ := Nat.exists_eq_succ_of_ne_zero hn
      rfl
    · obtain ⟨m, rfl⟩ := Nat.exists_eq_succ_of_ne_zero hm
      rfl

/-! ### The uses of stems -/

/-- Every stem with the number of its earlier uses; `used` holds the stems given out before. -/
def uses (used : List String) : List String → List (String × Nat)
  | [] => []
  | stem :: rest => (stem, used.count stem) :: uses (stem :: used) rest

/-- The names of the files are the numbered uses of the stems. -/
theorem outputNames_eq (sources : List String) : ∀ used : List String,
    outputNames used sources =
      (uses used (sources.map stemOf)).map fun u ↦ numberedName u.1 u.2 := by
  induction sources with
  | nil => intro used; rfl
  | cons source rest ih =>
    intro used
    rw [outputNames, List.map_cons, uses, List.map_cons, ih]

theorem length_outputNames (sources : List String) : ∀ used : List String,
    (outputNames used sources).length = sources.length := by
  induction sources with
  | nil => intro used; rfl
  | cons source rest ih =>
    intro used
    rw [outputNames, List.length_cons, List.length_cons, ih]

/-- A stem is used with every number from its earlier uses on, once for each time it occurs. -/
theorem mem_uses_iff {stem : String} {n : Nat} (stems : List String) : ∀ used : List String,
    (stem, n) ∈ uses used stems ↔
      used.count stem ≤ n ∧ n < used.count stem + stems.count stem := by
  induction stems with
  | nil =>
    intro used
    simp only [uses, List.not_mem_nil, List.count_nil, false_iff]
    omega
  | cons first rest ih =>
    intro used
    rw [uses, List.mem_cons, ih, Prod.mk.injEq]
    by_cases hfirst : stem = first
    · subst hfirst
      rw [List.count_cons_self, List.count_cons_self]
      simp only [true_and]
      omega
    · have hne : first ≠ stem := fun h ↦ hfirst h.symm
      rw [List.count_cons_of_ne hne, List.count_cons_of_ne hne]
      simp [hfirst]

/-- No use is given out twice. -/
theorem uses_nodup (stems : List String) : ∀ used : List String, (uses used stems).Nodup := by
  induction stems with
  | nil => intro used; exact List.nodup_nil
  | cons first rest ih =>
    intro used
    rw [uses, List.nodup_cons]
    refine ⟨fun hin ↦ ?_, ih _⟩
    have hlater := ((mem_uses_iff rest _).mp hin).1
    rw [List.count_cons_self] at hlater
    omega

/-- The stems of the sources leave the names of the files apart: none is the stem of the summary,
and none is another stem with the number of one of its later uses. -/
def StemsApart (stems : List String) : Prop :=
  "summary" ∉ stems ∧
    ∀ stem ∈ stems, ∀ (other : String) (number : Nat), 2 ≤ number → number ≤ stems.count other →
      stem ≠ other ++ "-" ++ toString number

theorem numberedName_eq_summary {stem : String} {n : Nat} :
    numberedName stem n = "summary.json" ↔ stem = "summary" ∧ n = 0 := by
  rw [show "summary.json" = numberedName "summary" 0 by decide, numberedName_eq_iff]
  constructor
  · rintro (h | ⟨_, hzero, _⟩ | ⟨_, _, hstem⟩)
    · exact h
    · exact (hzero rfl).elim
    · have hhyphen : '-' ∈ "summary".toList := by
        rw [hstem]
        simp
      exact absurd hhyphen (by decide)
  · exact Or.inl

/-- A source is named like the summary when its stem is. -/
theorem summary_mem_outputNames_iff (sources : List String) :
    "summary.json" ∈ outputNames [] sources ↔ "summary" ∈ sources.map stemOf := by
  rw [outputNames_eq, List.mem_map]
  constructor
  · rintro ⟨⟨stem, n⟩, huse, hname⟩
    obtain ⟨rfl, rfl⟩ := numberedName_eq_summary.mp hname
    have hcount := ((mem_uses_iff _ _).mp huse).2
    rw [List.count_nil, Nat.zero_add] at hcount
    exact List.count_pos_iff.mp hcount
  · intro hin
    refine ⟨("summary", 0), (mem_uses_iff _ _).mpr ⟨Nat.le_refl _, ?_⟩,
      numberedName_eq_summary.mpr ⟨rfl, rfl⟩⟩
    rw [List.count_nil, Nat.zero_add]
    exact List.count_pos_iff.mpr hin

/-- Sources get distinct names when no stem is another one with the number of a later use. -/
theorem outputNames_nodup_iff (sources : List String) :
    (outputNames [] sources).Nodup ↔
      ∀ stem ∈ sources.map stemOf, ∀ (other : String) (number : Nat), 2 ≤ number →
        number ≤ (sources.map stemOf).count other → stem ≠ other ++ "-" ++ toString number := by
  rw [outputNames_eq, List.nodup_map_iff_inj_on (uses_nodup _ _)]
  generalize sources.map stemOf = stems
  have hfirst : ∀ stem, (stem, 0) ∈ uses [] stems ↔ stem ∈ stems := fun stem ↦ by
    rw [mem_uses_iff, List.count_nil, Nat.zero_add, List.count_pos_iff]
    exact and_iff_right (Nat.le_refl 0)
  have hlater : ∀ stem n, (stem, n) ∈ uses [] stems ↔ n < stems.count stem := fun stem n ↦ by
    rw [mem_uses_iff, List.count_nil, Nat.zero_add]
    exact and_iff_right (Nat.zero_le n)
  constructor
  · intro hinjective stem hstem other number htwo hcount heq
    have hnumber : number - 1 + 1 = number := by omega
    have hsame := hinjective (stem, 0) ((hfirst stem).mpr hstem) (other, number - 1)
      ((hlater other _).mpr (by omega)) (numberedName_eq_iff.mpr (Or.inr (Or.inl
        ⟨rfl, by omega, by rw [hnumber]; exact heq⟩)))
    have hzero : 0 = number - 1 := congrArg Prod.snd hsame
    omega
  · rintro hapart ⟨stem, m⟩ hm ⟨other, n⟩ hn hname
    have hm' := (hlater stem m).mp hm
    have hn' := (hlater other n).mp hn
    rcases numberedName_eq_iff.mp hname with ⟨rfl, rfl⟩ | ⟨rfl, hne, heq⟩ | ⟨rfl, hne, heq⟩
    · rfl
    · exact (hapart stem ((hfirst stem).mp hm) other (n + 1) (by omega) hn' heq).elim
    · exact (hapart other ((hfirst other).mp hn) stem (m + 1) (by omega) hm' heq).elim

/-! ### The files of an outcome -/

/-- The names given to the sources of an outcome, in order. -/
def reportNames (o : Outcome) : List String :=
  outputNames [] (o.byFile.map (·.1))

/-- The summary of an outcome as it is written. -/
def summaryValue (o : Outcome) : Value :=
  summaryPayload o (reportNames o)

/-- The name that a summary gives for the report on a source. -/
def namedReport? (summary : Value) (source : String) : Option String :=
  match summary with
  | .table entries =>
    match Entries.get? "reports" entries with
    | some (.table reports) =>
      match Entries.get? source reports with
      | some (.text name) => some name
      | _ => none
    | _ => none
  | _ => none

theorem gravestFirst_perm (rs : List Result) : (gravestFirst rs).Perm rs :=
  List.mergeSort_perm rs _

theorem gravestFirst_pairwise (rs : List Result) :
    (gravestFirst rs).Pairwise fun a b ↦ b.severityLevel ≤ a.severityLevel := by
  have hsorted : (gravestFirst rs).Pairwise fun a b ↦
      decide (b.severityLevel ≤ a.severityLevel) = true := by
    refine List.pairwise_mergeSort (fun a b c hab hbc ↦ ?_) (fun a b ↦ ?_) rs
    · simp only [decide_eq_true_eq] at hab hbc ⊢
      exact Nat.le_trans hbc hab
    · simp only [Bool.or_eq_true, decide_eq_true_eq]
      exact Nat.le_total _ _
  exact hsorted.imp of_decide_eq_true

variable (o : Outcome) (includeDetails : Bool)

theorem length_reportNames : (reportNames o).length = o.byFile.length := by
  rw [reportNames, length_outputNames, List.length_map]

/-- The names of the files: one for each source, and the summary. -/
theorem dataFiles_names :
    (dataFiles o includeDetails).map (·.name) = reportNames o ++ ["summary.json"] := by
  rw [dataFiles, List.map_append, List.map_map]
  congr 1
  exact List.map_snd_zip (Nat.le_of_eq (length_reportNames o))

theorem dataFiles_names_nodup_iff :
    ((dataFiles o includeDetails).map (·.name)).Nodup ↔
      StemsApart (o.byFile.map fun g ↦ stemOf g.1) := by
  have hstems : (o.byFile.map (·.1)).map stemOf = o.byFile.map fun g ↦ stemOf g.1 :=
    List.map_map
  rw [dataFiles_names, reportNames, StemsApart, ← hstems, ← outputNames_nodup_iff,
    ← summary_mem_outputNames_iff, List.nodup_append]
  constructor
  · rintro ⟨hnames, _, hdisjoint⟩
    exact ⟨fun hin ↦ hdisjoint _ hin _ (List.mem_singleton_self _) rfl, hnames⟩
  · rintro ⟨hsummary, hnames⟩
    refine ⟨hnames, List.nodup_singleton _, fun name hname last hlast heq ↦ hsummary ?_⟩
    rwa [← List.mem_singleton.mp hlast, ← heq]

/-- Every source stands beside a name in the list of sources and names. -/
theorem exists_mem_zip_names {source : String} (hsource : source ∈ o.byFile.map (·.1)) :
    ∃ (smells : List Result) (name : String),
      ((source, smells), name) ∈ o.byFile.zip (reportNames o) := by
  rw [← List.map_fst_zip (Nat.le_of_eq (length_reportNames o).symm), List.map_map] at hsource
  obtain ⟨⟨⟨_, smells⟩, name⟩, hin, rfl⟩ := List.mem_map.mp hsource
  exact ⟨smells, name, hin⟩

/-- The summary names for a source the name beside it. -/
theorem namedReport?_of_mem_zip {source name : String} {smells : List Result}
    (h : ((source, smells), name) ∈ o.byFile.zip (reportNames o)) :
    namedReport? (summaryValue o) source = some name := by
  let reports : Entries := (o.byFile.zip (reportNames o)).map fun e ↦ (e.1.1, .text e.2)
  have hkeys : (reports.map (·.1)).Nodup := by
    have hsources : reports.map (·.1) = o.byFile.map (·.1) := by
      conv_rhs => rw [← List.map_fst_zip (Nat.le_of_eq (length_reportNames o).symm)]
      rw [List.map_map, List.map_map]
      rfl
    rw [hsources]
    exact groupBy_keys_nodup Result.fileKey o.detected
  have hentry : (source, Value.text name) ∈ reports := List.mem_map.mpr ⟨_, h, rfl⟩
  have hget : reports.get? source = some (.text name) := by
    rw [Entries.get?, find?_key hkeys hentry, Option.map_some]
  have hreports : Entries.get? "reports" (o.summary ++ [("reports", .table reports),
      ("failures_detail", o.failureValues), ("config", .table o.settings.toDocument)]) =
      some (.table reports) := rfl
  simp only [summaryValue, summaryPayload, namedReport?]
  rw [hreports]
  simp only [hget]

/-- An outcome with one smell in each of some source files. -/
def oneSmellEach (sources : List String) : Outcome where
  project := default
  results := sources.map fun source ↦
    ⟨"LongMethod", true, some .low, { file := some source }, .table [], rfl⟩
  settings := {}
  metadata := []
  failures := []

end CodeSmells.Report
