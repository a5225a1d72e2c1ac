import CodeSmells.Proofs.Detector.ClassOrder

/-!
# Clumps without an order

Triples of names are recorded against methods, class by class, and triples that are recorded against
the same methods merge into a clump. The methods of a triple are listed in the order of the classes,
and it is by these lists that triples are merged, so another order of the classes gives other lists.
It merges the same triples all the same: where labels are distinct, a method stands once in the list
of a triple, and the list is the one selection from all labels that has its members
(`labelsOf_sublist`). So two triples have the same list exactly when their methods are the same as a
set (`labelsOf_eq_of_sortedSet_eq`), and sets do not depend on the order of the classes.

`merge_view` says what the clumps of some records are, when their methods are read as sets, and
`findings_reordered` that the clumps that are found are the same in this reading.
-/

set_option autoImplicit false
set_option relaxedAutoImplicit false

namespace CodeSmells.DataClumps

/-! ### Records and their triples -/

/-- The labels of the methods that a triple is recorded against, in order. -/
def labelsOf (recorded : List (Triple × String)) (triple : Triple) : List String :=
  (recorded.filter fun e ↦ e.1 == triple).map (·.2)

/-- The triples that are recorded, each once. -/
def triplesIn (recorded : List (Triple × String)) : List Triple :=
  (recorded.map (·.1)).eraseDups

theorem holders_eq (recorded : List (Triple × String)) :
    holders recorded =
      (triplesIn recorded).map fun triple ↦ (triple, labelsOf recorded triple) := by
  rw [holders, groupBy_eq, List.map_map]
  rfl

/-- Clumps are the triples with the same labels, one clump for each list of labels. -/
theorem merge_eq (kind : Kind) (recorded : List (Triple × String)) :
    merge kind recorded =
      ((triplesIn recorded).map (labelsOf recorded)).eraseDups.map fun labels ↦
        ⟨sortedSet (((triplesIn recorded).filter fun triple ↦
          labelsOf recorded triple == labels).flatMap Triple.toNames), kind, labels⟩ := by
  rw [merge, groupBy_eq, holders_eq]
  simp only [List.map_map, List.filter_map, List.flatMap_map, Function.comp_def]

/-! ### One method stands once in the list of a triple -/

section Labels

variable {p : Project} {names : Class → Method → List String}

/-- The labels of a triple are a selection from the labels of all methods. -/
theorem labelsOf_sublist (p : Project) (names : Class → Method → List String) (triple : Triple) :
    (labelsOf (records p names) triple).Sublist p.methodLabels := by
  have hpiece : ∀ (k : Class) (m : Method), ((((triplesOf (names k m)).map (·, label k m)).filter
      fun e ↦ e.1 == triple).map (·.2)).Sublist [label k m] := by
    intro k m
    have honce : (triplesOf (names k m)).count triple ≤ 1 :=
      List.nodup_iff_count_le_one.mp (triples_nodup (sortedSet_nodup _)) triple
    simp only [List.filter_map, Function.comp_def, List.filter_beq, List.map_replicate]
    exact List.replicate_sublist_replicate (n := 1) _ |>.mpr honce
  simp only [labelsOf, records, Project.methodLabels, List.filter_flatMap, List.map_flatMap]
  refine List.Sublist.flatMap_right _ fun k _ ↦ ?_
  rw [List.map_eq_flatMap]
  exact List.Sublist.flatMap_right _ fun m _ ↦ hpiece k m

theorem labelsOf_nodup (hlabels : p.methodLabels.Nodup) (triple : Triple) :
    (labelsOf (records p names) triple).Nodup :=
  hlabels.sublist (labelsOf_sublist p names triple)

/-- Triples with the same methods as a set have the same methods as a list. -/
theorem labelsOf_eq_of_sortedSet_eq (hlabels : p.methodLabels.Nodup) {triple other : Triple}
    (h : sortedSet (labelsOf (records p names) triple) =
      sortedSet (labelsOf (records p names) other)) :
    labelsOf (records p names) triple = labelsOf (records p names) other := by
  refine (hlabels.perm_iff_eq_of_sublist (labelsOf_sublist p names triple)
    (labelsOf_sublist p names other)).mp ?_
  exact ((sortedSet_perm (labelsOf_nodup hlabels triple)).symm.trans (.of_eq h)).trans
    (sortedSet_perm (labelsOf_nodup hlabels other))

end Labels

/-! ### Clumps with their methods as a set -/

/-- The names of a clump, and its methods as a set. -/
def Clump.view (c : Clump) : List String × List String :=
  (c.members, sortedSet c.methods)

/-- The clump of the triples that have some set of methods. -/
def clumpOf (triples : List Triple) (methods : Triple → List String) (set : List String) :
    List String × List String :=
  (sortedSet ((triples.filter fun triple ↦ methods triple == set).flatMap Triple.toNames), set)

/-- The clumps of a project: one for each set of methods that some triple has. -/
theorem merge_view {p : Project} (hlabels : p.methodLabels.Nodup) (kind : Kind)
    (names : Class → Method → List String) :
    let recorded := records p names
    let methods := fun triple ↦ sortedSet (labelsOf recorded triple)
    (merge kind recorded).map Clump.view =
      ((triplesIn recorded).map methods).eraseDups.map (clumpOf (triplesIn recorded) methods) := by
  intro recorded methods
  have hapart : ∀ ls ∈ (triplesIn recorded).map (labelsOf recorded),
      ∀ ls' ∈ (triplesIn recorded).map (labelsOf recorded), sortedSet ls = sortedSet ls' →
        ls = ls' := by
    rintro _ hls _ hls' heq
    obtain ⟨triple, -, rfl⟩ := List.mem_map.mp hls
    obtain ⟨other, -, rfl⟩ := List.mem_map.mp hls'
    exact labelsOf_eq_of_sortedSet_eq hlabels heq
  have hsets : ((triplesIn recorded).map methods).eraseDups =
      ((triplesIn recorded).map (labelsOf recorded)).eraseDups.map sortedSet := by
    rw [← eraseDups_map_of_injOn hapart, List.map_map]
    rfl
  rw [hsets, merge_eq, List.map_map, List.map_map]
  refine List.map_congr_left fun ls hls ↦ ?_
  obtain ⟨other, -, rfl⟩ := List.mem_map.mp (List.mem_eraseDups.mp hls)
  have hsame : ∀ triple, (labelsOf recorded triple == labelsOf recorded other) =
      (methods triple == methods other) := by
    intro triple
    rw [Bool.eq_iff_iff, beq_iff_eq, beq_iff_eq]
    exact ⟨congrArg sortedSet, labelsOf_eq_of_sortedSet_eq hlabels⟩
  simp only [Function.comp_apply, Clump.view, clumpOf, hsame]
  rfl

/-- A clump depends on the triples that there are, and not on their order. -/
theorem clumpOf_perm {triples triples' : List Triple} (h : triples.Perm triples')
    (methods : Triple → List String) : clumpOf triples methods = clumpOf triples' methods := by
  funext set
  simp only [clumpOf, sortedSet_eq_of_perm ((h.filter _).flatMap_right _)]

section Reordered

variable {q p : Project}

theorem records_reordered (h : q.Reorders p) (names : Class → Method → List String) :
    (records q names).Perm (records p names) :=
  h.classes.flatMap_right _

/-- The clumps of a project in another order are the same, with their methods as a set. -/
theorem merge_reordered (h : q.Reorders p) (kind : Kind) (names : Class → Method → List String) :
    ((merge kind (records q names)).map Clump.view).Perm
      ((merge kind (records p names)).map Clump.view) := by
  have hlabels' : q.methodLabels.Nodup := h.methodLabels.nodup_iff.mpr h.distinctLabels
  have hrecords := records_reordered h names
  have htriples : (triplesIn (records q names)).Perm (triplesIn (records p names)) :=
    eraseDups_perm (hrecords.map _)
  have hmethods : (fun triple ↦ sortedSet (labelsOf (records q names) triple)) =
      fun triple ↦ sortedSet (labelsOf (records p names) triple) :=
    funext fun _ ↦ sortedSet_eq_of_perm ((hrecords.filter _).map _)
  rw [merge_view hlabels', merge_view h.distinctLabels, hmethods, clumpOf_perm htriples]
  exact (eraseDups_perm (htriples.map _)).map _

theorem allClumps_reordered (h : q.Reorders p) :
    ((allClumps q).map Clump.view).Perm ((allClumps p).map Clump.view) := by
  simp only [allClumps, List.map_append]
  exact (merge_reordered h .parameters _).append (merge_reordered h .fields _)

end Reordered

/-- A clump lists no method twice. -/
theorem methods_nodup {p : Project} (hlabels : p.methodLabels.Nodup) {c : Clump}
    (hc : c ∈ allClumps p) : c.methods.Nodup := by
  have hmerge : ∀ kind names, c ∈ merge kind (records p names) → c.methods.Nodup := by
    intro kind names hin
    rw [merge_eq] at hin
    obtain ⟨ls, hls, rfl⟩ := List.mem_map.mp hin
    obtain ⟨triple, -, rfl⟩ := List.mem_map.mp (List.mem_eraseDups.mp hls)
    exact labelsOf_nodup hlabels triple
  rcases List.mem_append.mp hc with hin | hin
  · exact hmerge _ _ hin
  · exact hmerge _ _ hin

/-! ### Clumps that are large enough -/

/-- Whether a clump with these names and methods reaches both limits. -/
def reachesLimits (t : Thresholds) (view : List String × List String) : Except Fault Bool := do
  if ← Measured.atLeast (view.2.length : Nat) (← t.get "min_occurrences") then
    Measured.atLeast (view.1.length : Nat) (← t.get "min_clump_size")
  else return false

theorem oneFault_reachesLimits (t : Thresholds) : OneFault (reachesLimits t) :=
  OneFault.bind_left fun occurrences ↦ OneFault.guarded (allOrNone_atLeast _ occurrences)
    (OneFault.bind_left fun size ↦ (allOrNone_atLeast _ size).oneFault)

theorem isLarge_eq (t : Thresholds) {c : Clump} (hc : c.methods.Nodup) :
    isLarge t c = reachesLimits t c.view := by
  simp only [isLarge, reachesLimits, Clump.view, length_sortedSet hc]

/-- The clumps found in a project in another order are the same, with their methods as a set. -/
theorem findings_reordered {q p : Project} (h : q.Reorders p) (t : Thresholds) :
    SameEnding (fun f g ↦ (f.clumps.map Clump.view).Perm (g.clumps.map Clump.view))
      (findings q t) (findings p t) := by
  have hlabels' : q.methodLabels.Nodup := h.methodLabels.nodup_iff.mpr h.distinctLabels
  exact SameEnding.bind (filterM_sameEnding (oneFault_reachesLimits t)
    (fun c hc ↦ isLarge_eq t (methods_nodup hlabels' hc))
    (fun c hc ↦ isLarge_eq t (methods_nodup h.distinctLabels hc)) (allClumps_reordered h))
    fun _ _ hclumps ↦ .answer hclumps

theorem detector_ignoresClassOrder : detector.IgnoresClassOrder where
  perClass _ _ _ _ _ _ := .of_eq rfl
  perProject q p t h := by
    refine SameEnding.bind (findings_reordered h t) fun f g hfg ↦ .answer ?_
    have hlength : f.clumps.length = g.clumps.length := by
      simpa only [List.length_map] using hfg.length_eq
    have hempty : f.clumps.isEmpty = g.clumps.isEmpty := by
      simpa only [List.isEmpty_map] using hfg.isEmpty_eq
    have hlargest : greatest (f.clumps.map (·.members.length)) =
        greatest (g.clumps.map (·.members.length)) := by
      have hsizes := hfg.map (·.1.length)
      rw [List.map_map, List.map_map] at hsizes
      exact greatest_perm hsizes
    simp only [Option.map_some, Verdict.mark, Findings.severity, hempty, hlength, hlargest,
      Scope.location, h.name]

end CodeSmells.DataClumps
