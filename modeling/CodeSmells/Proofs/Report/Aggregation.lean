import CodeSmells.Proofs.Report.Names

/-!
# What the views of an outcome have in common

An outcome shows its detected smells by file, by kind, in order of severity, in the sections of a
report and as counts. `aggregation_complete` says that these are views of one list: none loses a
smell and none shows one twice.

Groups under a key are a partition of what is grouped (`Partitions`, `groupBy_partitions`). The
order of severity is a stable one, `IsGravestFirst`: it rearranges the smells, never puts a smell
before a graver one, and leaves smells of one severity as they stood
(`gravestFirst_isGravestFirst`). A list in that order is the concatenation of its levels from the
highest down (`flatMap_filter_of_descending`), and since sorting keeps every level as it was, the
sections by severity, which are cut from the list before it is sorted, are the sorted list cut in
pieces (`flatMap_severitySections`). The counts by severity come from a pass of their own over the
detected smells (`foldl_countSeverity`), and agree with these sections (`severityCounts_eq`).
-/

set_option autoImplicit false
set_option relaxedAutoImplicit false

namespace CodeSmells.Report

/-! ### Partitions -/

/-- Groups of a list under a key that lose and double nothing: keys are distinct and stand in the
order in which they first occur, a group holds what has its key in the old order, and the groups
together hold every member once. -/
structure Partitions {α κ : Type} [BEq κ] (key : α → κ) (xs : List α)
    (groups : List (κ × List α)) : Prop where
  keys_distinct : (groups.map (·.1)).Nodup
  keys_firstOccurrences : groups.map (·.1) = (xs.map key).eraseDups
  members_eq : ∀ g ∈ groups, g.2 = xs.filter fun a ↦ key a == g.1
  members_perm : (groups.flatMap (·.2)).Perm xs

theorem groupBy_partitions {α κ : Type} [BEq κ] [LawfulBEq κ] (key : α → κ) (xs : List α) :
    Partitions key xs (groupBy key xs) where
  keys_distinct := groupBy_keys_nodup key xs
  keys_firstOccurrences := by
    rw [groupBy_eq, List.map_map]
    exact List.map_id _
  members_eq := fun _ hg ↦ members_of_mem_groupBy hg
  members_perm := flatMap_groupBy_perm key xs

/-! ### The order of severity -/

/-- Results rearranged from the gravest to the least grave, those of one level as they stood. -/
structure IsGravestFirst (rs sorted : List Result) : Prop where
  perm : sorted.Perm rs
  descending : sorted.Pairwise fun a b ↦ b.severityLevel ≤ a.severityLevel
  stable : ∀ level : ℕ, sorted.filter (fun r ↦ r.severityLevel == level) =
    rs.filter fun r ↦ r.severityLevel == level

/-- Sorting leaves the results of one level as they stood. -/
theorem filter_gravestFirst (rs : List Result) (level : ℕ) :
    (gravestFirst rs).filter (fun r ↦ r.severityLevel == level) =
      rs.filter fun r ↦ r.severityLevel == level := by
  have hlevel : (rs.filter fun r ↦ r.severityLevel == level).Pairwise fun a b ↦
      decide (b.severityLevel ≤ a.severityLevel) = true := by
    refine List.pairwise_of_forall_mem_list fun a ha b hb ↦ ?_
    have ha' : a.severityLevel = level := by simpa using (List.mem_filter.mp ha).2
    have hb' : b.severityLevel = level := by simpa using (List.mem_filter.mp hb).2
    simp [ha', hb']
  -- A part that is in order already is found again, as it is, in the sorted list.
  have hsublist : (rs.filter fun r ↦ r.severityLevel == level).Sublist (gravestFirst rs) := by
    refine List.sublist_mergeSort (fun a b c hab hbc ↦ ?_) (fun a b ↦ ?_) hlevel
      List.filter_sublist
    · simp only [decide_eq_true_eq] at hab hbc ⊢
      exact hbc.trans hab
    · simp only [Bool.or_eq_true, decide_eq_true_eq]
      exact Nat.le_total _ _
  have hkept := hsublist.filter fun r ↦ r.severityLevel == level
  simp only [List.filter_filter, Bool.and_self] at hkept
  exact (hkept.eq_of_length ((gravestFirst_perm rs).filter _).length_eq.symm).symm

theorem gravestFirst_isGravestFirst (rs : List Result) : IsGravestFirst rs (gravestFirst rs) where
  perm := gravestFirst_perm rs
  descending := gravestFirst_pairwise rs
  stable := filter_gravestFirst rs

/-- A descending list starts with its members of the highest level. -/
theorem filter_append_filter_of_descending {rs : List Result} {level : ℕ}
    (hdescending : rs.Pairwise fun a b ↦ b.severityLevel ≤ a.severityLevel)
    (hlevel : ∀ r ∈ rs, r.severityLevel ≤ level) :
    rs.filter (fun r ↦ r.severityLevel == level) ++ rs.filter (fun r ↦ r.severityLevel != level) =
      rs := by
  induction rs with
  | nil => rfl
  | cons r rs ih =>
    rw [List.pairwise_cons] at hdescending
    rw [List.forall_mem_cons] at hlevel
    by_cases hr : r.severityLevel = level
    · simpa [hr] using ih hdescending.2 hlevel.2
    · have hlow : ∀ s ∈ rs, s.severityLevel ≠ level := fun s hs ↦ by
        have hle := hdescending.1 s hs
        have hlt := lt_of_le_of_ne hlevel.1 hr
        omega
      have hnone : rs.filter (fun s ↦ s.severityLevel == level) = [] :=
        List.filter_eq_nil_iff.mpr fun s hs ↦ by simpa using hlow s hs
      have hall : rs.filter (fun s ↦ s.severityLevel != level) = rs :=
        List.filter_eq_self.mpr fun s hs ↦ by simpa using hlow s hs
      simp [hr, hnone, hall]

/-- A descending list is the concatenation of its levels from the highest down. -/
theorem flatMap_filter_of_descending {levels : List ℕ} (hlevels : levels.Pairwise (· > ·))
    {rs : List Result} (hdescending : rs.Pairwise fun a b ↦ b.severityLevel ≤ a.severityLevel)
    (hrs : ∀ r ∈ rs, r.severityLevel ∈ levels) :
    levels.flatMap (fun level ↦ rs.filter fun r ↦ r.severityLevel == level) = rs := by
  induction levels generalizing rs with
  | nil =>
    have hnil : rs = [] := List.eq_nil_iff_forall_not_mem.mpr fun r hr ↦ by simpa using hrs r hr
    rw [hnil, List.flatMap_nil]
  | cons level levels ih =>
    rw [List.pairwise_cons] at hlevels
    have hle : ∀ r ∈ rs, r.severityLevel ≤ level := fun r hr ↦ by
      rcases List.mem_cons.mp (hrs r hr) with heq | hlower
      · exact heq.le
      · exact (hlevels.1 _ hlower).le
    -- The lower levels are the levels of what is left when the highest is taken away.
    have hlower : levels.flatMap (fun l ↦ rs.filter fun r ↦ r.severityLevel == l) =
        rs.filter fun r ↦ r.severityLevel != level := by
      rw [← ih hlevels.2 (hdescending.filter fun r ↦ r.severityLevel != level) fun r hr ↦ ?_]
      · refine List.flatMap_congr fun l hl ↦ ?_
        rw [List.filter_filter]
        refine List.filter_congr fun r _ ↦ ?_
        have hne : l ≠ level := (hlevels.1 l hl).ne
        by_cases hr : r.severityLevel = l <;> simp [hr, hne]
      · rw [List.mem_filter, bne_iff_ne] at hr
        exact (List.mem_cons.mp (hrs r hr.1)).resolve_left hr.2
    rw [List.flatMap_cons, hlower, filter_append_filter_of_descending hdescending hle]

/-! ### Sections -/

theorem severityLevel_eq_level_iff {r : Result} {s : Severity} :
    r.severityLevel = s.level ↔ r.severity = some s := by
  rw [Result.severityLevel]
  cases r.severity with
  | none => cases s <;> simp [Severity.level]
  | some t => simp [Severity.level_inj]

variable (o : Outcome)

theorem withSeverity_eq (s : Severity) :
    o.withSeverity s = o.bySeverity.filter fun r ↦ r.severityLevel == s.level := by
  rw [Outcome.bySeverity, filter_gravestFirst]
  refine List.filter_congr fun r _ ↦ ?_
  rw [Bool.eq_iff_iff, beq_iff_eq, beq_iff_eq, severityLevel_eq_level_iff]

theorem severityLevel_mem_levels {r : Result} (hr : r ∈ o.bySeverity) :
    r.severityLevel ∈ Severity.all.reverse.map Severity.level := by
  have hdetected : r.detected = true := (List.mem_filter.mp ((gravestFirst_perm _).mem_iff.mp hr)).2
  rw [r.detected_eq, Option.isSome_iff_exists] at hdetected
  obtain ⟨s, hs⟩ := hdetected
  rw [severityLevel_eq_level_iff.mpr hs]
  cases s <;> decide

/-- The severities from the gravest down take the detected smells in order of severity. -/
theorem flatMap_withSeverity : Severity.all.reverse.flatMap o.withSeverity = o.bySeverity := by
  calc Severity.all.reverse.flatMap o.withSeverity
      = (Severity.all.reverse.map Severity.level).flatMap fun level ↦
          o.bySeverity.filter fun r ↦ r.severityLevel == level := by
        rw [List.flatMap_map]
        exact List.flatMap_congr fun s _ ↦ withSeverity_eq o s
    _ = o.bySeverity := flatMap_filter_of_descending (by decide)
        (gravestFirst_pairwise o.detected) fun _ hr ↦ severityLevel_mem_levels o hr

/-- The sections by severity, one after the other, are the detected smells in order of severity. -/
theorem flatMap_severitySections : (severitySections o).flatMap (·.smells) = o.bySeverity := by
  rw [← flatMap_withSeverity, severitySections]
  -- A severity without smells gets no section, and it adds nothing to the joined list either.
  generalize Severity.all.reverse = severities
  induction severities with
  | nil => rfl
  | cons s severities ih =>
    rw [List.filterMap_cons, List.flatMap_cons, ← ih]
    cases o.withSeverity s <;> rfl

/-- The sections by file, one after the other, are a rearrangement of the detected smells. -/
theorem flatMap_fileSections_perm : ((fileSections o).flatMap (·.smells)).Perm o.detected := by
  have hgroups : ((fileSections o).flatMap (·.smells)).Perm (o.byFile.flatMap (·.2)) := by
    rw [fileSections, List.flatMap_map]
    exact List.Perm.flatMap_left _ fun g _ ↦ gravestFirst_perm g.2
  exact hgroups.trans (flatMap_groupBy_perm Result.fileKey o.detected)

/-! ### Counts -/

/-- The sum of the counts in a table of counts. -/
def tableTally? : Entries → Option ℤ
  | [] => some 0
  | (_, .whole n) :: rest => (tableTally? rest).map (n + ·)
  | _ => none

/-- The sum of the counts in a value: of a count itself, or of a table of counts. -/
def tally? : Value → Option ℤ
  | .whole n => some n
  | .table entries => tableTally? entries
  | _ => none

theorem tally?_countTable (counts : List (String × ℕ)) :
    tally? (Outcome.countTable counts) = some (total (counts.map (·.2)) : ℤ) := by
  induction counts with
  | nil => rfl
  | cons c counts ih =>
    have hrest : tableTally? (counts.map fun e ↦ (e.1, Value.count e.2)) =
        some (total (counts.map (·.2)) : ℤ) := ih
    rw [List.map_cons, total_cons, Int.natCast_add]
    exact congrArg (Option.map ((c.2 : ℤ) + ·)) hrest

/-- Counting some results adds to each severity the number of those that have it. -/
theorem foldl_countSeverity (rs : List Result) (counts : List (Severity × ℕ)) :
    rs.foldl Outcome.countSeverity counts =
      counts.map fun c ↦ (c.1, c.2 + rs.countP fun r ↦ r.severity == some c.1) := by
  induction rs generalizing counts with
  | nil => exact (List.map_id counts).symm
  | cons r rs ih =>
    rw [List.foldl_cons, ih, Outcome.countSeverity, List.map_map]
    refine List.map_congr_left fun ⟨s, n⟩ _ ↦ ?_
    simp only [Function.comp_apply, List.countP_cons]
    split
    · rw [Nat.add_right_comm, Nat.add_assoc]
    · rfl

/-- The pass over the detected smells counts for each severity the smells of its section. -/
theorem severityCounts_eq :
    o.severityCounts = Severity.all.reverse.map fun s ↦ (s, (o.withSeverity s).length) := by
  rw [Outcome.severityCounts, foldl_countSeverity, List.map_map]
  refine List.map_congr_left fun s _ ↦ ?_
  rw [Function.comp_apply, Nat.zero_add, List.countP_eq_length_filter, Outcome.withSeverity]

theorem map_fst_severityCounts : o.severityCounts.map (·.1) = Severity.all.reverse := by
  rw [severityCounts_eq, List.map_map]
  exact List.map_id _

/-- The counts by severity count every detected smell once. -/
theorem total_severityCounts : total (o.severityCounts.map (·.2)) = o.detected.length := by
  have hcounts : o.severityCounts.map (·.2) =
      Severity.all.reverse.map fun s ↦ (o.withSeverity s).length := by
    rw [severityCounts_eq, List.map_map]
    rfl
  rw [hcounts, total_map_length, flatMap_withSeverity]
  exact (gravestFirst_perm o.detected).length_eq

/-- The counts by kind count every detected smell once. -/
theorem total_typeCounts : total (o.typeCounts.map (·.2)) = o.detected.length := by
  have hcounts : o.typeCounts.map (·.2) = o.byType.map fun g ↦ g.2.length := List.map_map
  rw [hcounts]
  exact total_length_groupBy Result.smell o.detected

/-- Every view of an outcome shows the detected smells, all of them and each once: the groups by
file and by kind are partitions, the order of severity is a stable rearrangement, the sections by
severity are that order cut in pieces and the sections by file a rearrangement of it, and each of
the three counts of the summary adds up to the number of results at which a smell was detected. -/
theorem aggregation_complete (includeDetails : Bool) :
    Partitions Result.fileKey o.detected o.byFile ∧
    Partitions Result.smell o.detected o.byType ∧
    IsGravestFirst o.detected o.bySeverity ∧
    (sections o ⟨includeDetails, true⟩).flatMap (·.smells) = o.bySeverity ∧
    ((sections o ⟨includeDetails, false⟩).flatMap (·.smells)).Perm o.bySeverity ∧
    ∀ key ∈ ["total_smells", "by_severity", "by_type"],
      (o.summary.get? key).bind tally? = some (o.results.countP (·.detected) : ℤ) := by
  rw [List.countP_eq_length_filter]
  refine ⟨groupBy_partitions _ _, groupBy_partitions _ _, gravestFirst_isGravestFirst _,
    flatMap_severitySections o, ?_, ?_⟩
  · exact (flatMap_fileSections_perm o).trans (gravestFirst_perm o.detected).symm
  · have htotal : o.summary.get? "total_smells" = some (.count o.detected.length) := rfl
    have hseverity : o.summary.get? "by_severity" = some (Outcome.countTable
      (o.severityCounts.map fun c ↦ (c.1.name, c.2))) := rfl
    have htype : o.summary.get? "by_type" = some (Outcome.countTable o.typeCounts) := rfl
    simp only [List.forall_mem_cons, List.not_mem_nil, false_imp_iff, implies_true, and_true]
    refine ⟨?_, ?_, ?_⟩
    · rw [htotal]
      rfl
    · rw [hseverity, Option.bind_some, tally?_countTable, List.map_map]
      exact congrArg (fun n : ℕ ↦ some (n : ℤ)) (total_severityCounts o)
    · rw [htype, Option.bind_some, tally?_countTable, total_typeCounts]
      rfl

end CodeSmells.Report
