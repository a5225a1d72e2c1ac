import CodeSmells.Proofs.Detector.Comparison

/-!
# Code that grows does not smell less

For ten detectors the code can grow in ways that never lower the severity: lines, methods, fields
and classes that are added, or calls and field accesses that are found in methods. `Grows` says for
each detector which ways these are, and `severity_of_grown` that none of them lowers the severity.

Every detector has its own argument. Counts do not fall. Findings that were selected are selected
again, or have others in their place that are at least as grave. An envy ratio does not fall because
the own fields stay the same while the foreign ones become more (`FeatureEnvy.envyRatio_atMost`).
The one reason of a class without any group of methods is lost when a group comes up, but then the
group is a reason (`DivergentChange.changeReasons_length_le`). All of this is shown for thresholds
that may ease at the same time, which says at once how verdicts depend on thresholds.
-/

set_option autoImplicit false
set_option relaxedAutoImplicit false

namespace CodeSmells

open List (SublistForall₂ Forall₂)

variable {t t' : Thresholds}

/-! ### Long methods -/

namespace LongMethod

theorem severity_le {f f' : Findings} (hlines : f.linesOfCode ≤ f'.linesOfCode)
    (hcomplexity : f.complexity ≤ f'.complexity) : f.severity.level ≤ f'.severity.level := by
  have htier := exceeds_or_le hlines hcomplexity
  exact Severity.grade_le (by simp [Severity.level])
    (.cons ⟨htier _ _, rfl⟩ (.cons ⟨htier _ _, rfl⟩ (.cons ⟨htier _ _, rfl⟩ .nil)))

theorem noGraver (ht : t.Eases t') {m m' : Method} (h : m.GainsLines m') (k k' : Class)
    (path path' : Option String) :
    NoGraver (detector.evaluate (.ofMethod m k path) t)
      (detector.evaluate (.ofMethod m' k' path') t') := by
  have hlines : (findings m).linesOfCode ≤ (findings m').linesOfCode :=
    length_le_of_sublistForall₂ h.lines
  have hcomplexity : (findings m).complexity ≤ (findings m').complexity :=
    cyclomaticComplexity_le h.lines
  refine noGraver_of_detected (anyAbove_le ht ?_) (severity_le hlines hcomplexity)
  exact .cons (rises_count hlines (by decide)) (.cons (rises_count hcomplexity (by decide))
    (.cons (rises_count (suspensionCount_le h.lines) (by decide)) .nil))

end LongMethod

/-! ### Message chains -/

namespace MessageChains

/-- Two chains with the same links. -/
def Chain.SameLinks (c c' : Chain) : Prop :=
  c.segments = c'.segments

theorem chainsOf_sameLinks (name name' : String) {l l' : SourceLine} (hl : l.SameText l') :
    ∀ c ∈ chainsOf name l, ∃ c' ∈ chainsOf name' l', c.SameLinks c' := by
  have hcontent : l'.content = l.content :=
    (hl.apply_eq (f := SourceLine.content) fun _ _ _ ↦ rfl).symm
  rintro ⟨kind, segments, method, line⟩ hc
  refine ⟨⟨kind, segments, name', l'.number⟩, ?_, rfl⟩
  simp only [chainsOf, hcontent, List.mem_filter, List.mem_append, List.mem_map,
    Chain.mk.injEq] at hc ⊢
  obtain ⟨(⟨path, hpath, rfl, rfl, -⟩ | ⟨calls, hcalls, rfl, rfl, -⟩), hlength⟩ := hc
  · exact ⟨Or.inl ⟨path, hpath, rfl, rfl, trivial, trivial⟩, hlength⟩
  · exact ⟨Or.inr ⟨calls, hcalls, rfl, rfl, trivial, trivial⟩, hlength⟩

theorem messageChains_sameLinks {ms ms' : List Method}
    (h : SublistForall₂ Method.GainsLines ms ms') :
    ∀ c ∈ ms.flatMap messageChains, ∃ c' ∈ ms'.flatMap messageChains, c.SameLinks c' := by
  intro c hc
  obtain ⟨m, hm, hc⟩ := List.mem_flatMap.mp hc
  obtain ⟨l, hl, hc⟩ := List.mem_flatMap.mp hc
  obtain ⟨m', hm', hgains⟩ := exists_mem_of_sublistForall₂ h hm
  obtain ⟨l', hl', hsame⟩ := exists_mem_of_sublistForall₂ hgains.codeLines hl
  obtain ⟨c', hc', hlinks⟩ := chainsOf_sameLinks m.name m'.name hsame c hc
  exact ⟨c', List.mem_flatMap.mpr ⟨m', hm', List.mem_flatMap.mpr ⟨l', hl', hc'⟩⟩, hlinks⟩

/-- Every chain that is found is still found. -/
theorem findings_le (ht : t.Eases t') {ms ms' : List Method}
    (h : SublistForall₂ Method.GainsLines ms ms') :
    WhenBoth (fun f f' ↦ ∀ c ∈ f.chains, ∃ c' ∈ f'.chains, c.SameLinks c') (findings ms t)
      (findings ms' t') := by
  refine WhenBoth.bind (ht.limit "max_chain_length" (by decide)) fun v v' hv ↦ ?_
  refine WhenBoth.bind (filterM_covers (messageChains_sameLinks h) fun c c' hlinks ↦ ?_)
    fun cs cs' hcs ↦ WhenBoth.ok hcs
  have hlength : c.length = c'.length := congrArg List.length hlinks
  exact above_le (Quantity.ofNat_atMost hlength.le) hv

theorem severity_le {f f' : Findings} (h : f.deepest ≤ f'.deepest) :
    f.severity.level ≤ f'.severity.level :=
  Severity.grade_le (by simp [Severity.level])
    (.cons ⟨exceeds_le h _, rfl⟩ (.cons ⟨exceeds_le h _, rfl⟩ .nil))

theorem noGraver (ht : t.Eases t') {scope scope' : Scope}
    (h : SublistForall₂ Method.GainsLines (methodsOf scope) (methodsOf scope')) :
    NoGraver (detector.evaluate scope t) (detector.evaluate scope' t') := by
  refine WhenBoth.bind (findings_le ht h) fun f f' hf ↦ WhenBoth.ok (.some ?_)
  have hdeepest : f.deepest ≤ f'.deepest := greatest_map_le fun c hc ↦ by
    obtain ⟨c', hc', hlinks⟩ := hf c hc
    exact ⟨c', hc', (congrArg List.length hlinks).le⟩
  exact Verdict.level_le (not_isEmpty_le hf) (severity_le hdeepest)

end MessageChains

/-! ### Large classes -/

namespace LargeClass

theorem severity_le {f f' : Findings} (hloc : f.totalLoc ≤ f'.totalLoc)
    (hmethods : f.methodCount ≤ f'.methodCount) : f.severity.level ≤ f'.severity.level := by
  have htier := exceeds_or_le hloc hmethods
  exact Severity.grade_le (by simp [Severity.level])
    (.cons ⟨htier _ _, rfl⟩ (.cons ⟨htier _ _, rfl⟩ (.cons ⟨htier _ _, rfl⟩ .nil)))

theorem noGraver (ht : t.Eases t') {k k' : Class}
    (hmethods : SublistForall₂ Method.GainsLines k.methods k'.methods)
    (hfields : k.fields.Subperm k'.fields)
    (hexported : k.exportedFields.Subperm k'.exportedFields) (p p' : Project)
    (path path' : Option String) :
    NoGraver (detector.evaluate (.ofClass k p path) t)
      (detector.evaluate (.ofClass k' p' path') t') := by
  have hcount : k.methodCount ≤ k'.methodCount := length_le_of_sublistForall₂ hmethods
  have hloc : k.totalLoc ≤ k'.totalLoc := Class.totalLoc_le hmethods
  refine noGraver_of_detected (anyAbove_le ht ?_) (severity_le hloc hcount)
  exact .cons (rises_count hfields.length_le (by decide)) (.cons (rises_count hcount (by decide))
    (.cons (rises_count hloc (by decide))
      (.cons (rises_count hexported.length_le (by decide)) .nil)))

end LargeClass

/-! ### Primitive obsession -/

namespace PrimitiveObsession

/-- Every primitive that is found is still found, in its place among the others. -/
theorem examples_sublist {k k' : Class}
    (h : SublistForall₂ Method.GainsLines k.methods k'.methods) :
    WhenBoth List.Sublist (examples k) (examples k') := by
  have hlines : SublistForall₂ SourceLine.SameText (k.methods.flatMap Method.codeLines)
      (k'.methods.flatMap Method.codeLines) :=
    sublistForall₂_flatMap (fun _ _ hm ↦ hm.codeLines) h
  have hfound : WhenBoth (SublistForall₂ Eq) ((k.methods.flatMap Method.codeLines).mapM examplesOf)
      ((k'.methods.flatMap Method.codeLines).mapM examplesOf) := by
    refine mapM_grows hlines fun l l' hl ↦ ?_
    rw [hl.apply_eq (f := examplesOf) fun _ _ _ ↦ rfl]
    exact WhenBoth.refl (fun _ ↦ rfl) _
  refine WhenBoth.bind hfound fun es es' hes ↦ WhenBoth.ok ?_
  rw [List.flatten_eq_flatMap, List.flatten_eq_flatMap]
  refine flatMap_sublist (R := Eq) ?_ hes
  rintro e _ rfl
  exact List.Sublist.refl _

theorem mem_untypedFields {k : Class} {f : String} :
    f ∈ k.untypedFields ↔ f ∈ k.fields ∧ f ∉ k.typedFields := by
  simp [Class.untypedFields, Class.fieldNames, mem_sortedSet]

theorem length_untypedFields_le {k k' : Class} (hfields : k.fields ⊆ k'.fields)
    (htyped : k'.typedFields ⊆ k.typedFields) :
    k.untypedFields.length ≤ k'.untypedFields.length := by
  have hsubset : k.untypedFields ⊆ k'.untypedFields := by
    intro f hf
    rw [mem_untypedFields] at hf ⊢
    exact ⟨hfields hf.1, fun hin ↦ hf.2 (htyped hin)⟩
  have hnodup : k.untypedFields.Nodup := (sortedSet_nodup k.fields).filter _
  exact (List.subperm_of_subset hnodup hsubset).length_le

/-- No count of the first findings is greater than that of the second. -/
structure Findings.Fewer (f f' : Findings) : Prop where
  numbers : f.magicNumbers ≤ f'.magicNumbers
  strings : f.magicStrings ≤ f'.magicStrings
  lookups : f.nodeLookups ≤ f'.nodeLookups
  untyped : f.untypedFields ≤ f'.untypedFields

theorem findings_le {k k' : Class}
    (hmethods : SublistForall₂ Method.GainsLines k.methods k'.methods)
    (hfields : k.fields ⊆ k'.fields) (htyped : k'.typedFields ⊆ k.typedFields) :
    WhenBoth Findings.Fewer (findings k) (findings k') := by
  refine WhenBoth.bind (examples_sublist hmethods) fun es es' hes ↦ WhenBoth.ok ?_
  exact ⟨hes.countP_le, hes.countP_le, hes.countP_le, length_untypedFields_le hfields htyped⟩

theorem severity_le {f f' : Findings} (h : f.Fewer f') : f.severity.level ≤ f'.severity.level :=
  Severity.grade_le (by simp [Severity.level])
    (.cons ⟨exceeds_or_le h.numbers h.untyped _ _, rfl⟩
      (.cons ⟨exceeds_or_le h.numbers h.lookups _ _, rfl⟩ .nil))

theorem noGraver (ht : t.Eases t') {k k' : Class}
    (hmethods : SublistForall₂ Method.GainsLines k.methods k'.methods)
    (hfields : k.fields ⊆ k'.fields) (htyped : k'.typedFields ⊆ k.typedFields) (p p' : Project)
    (path path' : Option String) :
    NoGraver (detector.evaluate (.ofClass k p path) t)
      (detector.evaluate (.ofClass k' p' path') t') := by
  refine WhenBoth.bind (findings_le hmethods hfields htyped) fun f f' hf ↦ ?_
  refine noGraver_of_detected (anyAbove_le ht ?_) (severity_le hf)
  exact .cons (rises_count hf.numbers (by decide)) (.cons (rises_count hf.strings (by decide))
    (.cons (rises_count hf.lookups (by decide)) (.cons (rises_count hf.untyped (by decide)) .nil)))

end PrimitiveObsession

/-! ### Feature envy -/

namespace FeatureEnvy

/-- The accesses of a method to other classes, each once. -/
def foreignAccesses (m : Method) (own : String) : List FieldAccess :=
  (sortedSet m.accesses).filter fun a ↦ !isLocal own a

/-- Accesses to one class are told apart by their fields. -/
theorem fields_nodup {accesses : List FieldAccess} (h : accesses.Nodup) (owner : String) :
    ((accesses.filter fun a ↦ a.owner == owner).map FieldAccess.field).Nodup := by
  refine (h.filter _).map_on ?_
  rintro ⟨o, field⟩ ha ⟨o', field'⟩ hb hfield
  rw [List.mem_filter, beq_iff_eq] at ha hb
  obtain rfl : o = owner := ha.2
  obtain rfl : o' = o := hb.2
  exact congrArg (FieldAccess.mk o') hfield

/-- The fields that are counted by class are counted as accesses. -/
theorem foreignCount_eq (m : Method) (k : Class) :
    (findings m k).foreignCount = (foreignAccesses m k.name).length := by
  have hnodup : (foreignAccesses m k.name).Nodup := (sortedSet_nodup _).filter _
  have hsizes : (groupBy FieldAccess.owner (foreignAccesses m k.name)).map
      (fun g ↦ (sortedSet (g.2.map FieldAccess.field)).length) =
      (groupBy FieldAccess.owner (foreignAccesses m k.name)).map fun g ↦ g.2.length := by
    refine List.map_congr_left fun ⟨owner, members⟩ hg ↦ ?_
    have hfields : (members.map FieldAccess.field).Nodup := by
      rw [members_of_mem_groupBy hg]
      exact fields_nodup hnodup owner
    rw [length_sortedSet hfields, List.length_map]
  rw [Findings.foreignCount, findings, List.map_map]
  exact (congrArg total hsizes).trans (total_length_groupBy _ _)

/-- A method with further accesses to other classes than its own. -/
structure Envies (m m' : Method) (own : String) : Prop where
  accesses : m.accesses ⊆ m'.accesses
  foreign : ∀ a ∈ m'.accesses, a ∉ m.accesses → a.owner ≠ own ∧ a.owner ≠ "self"

theorem isLocal_iff {own : String} {a : FieldAccess} :
    isLocal own a = true ↔ a.owner = own ∨ a.owner = "self" := by
  simp [isLocal]

variable {m m' : Method} {k k' : Class}

theorem localFields_eq (h : Envies m m' k.name) (hname : k'.name = k.name) :
    (findings m' k').localFields = (findings m k).localFields := by
  have hlocal : ∀ a, a ∈ m'.accesses.filter (isLocal k.name) ↔
      a ∈ m.accesses.filter (isLocal k.name) := by
    intro a
    rw [List.mem_filter, List.mem_filter]
    constructor
    · rintro ⟨ha, hown⟩
      refine ⟨?_, hown⟩
      -- An own access that is new would be one to another class.
      by_contra hnew
      obtain ⟨howner, hself⟩ := h.foreign a ha hnew
      exact (isLocal_iff.mp hown).elim howner hself
    · exact fun ha ↦ ⟨h.accesses ha.1, ha.2⟩
  rw [findings, findings, hname]
  refine sortedSet_eq_of_mem_iff fun field ↦ ?_
  simp only [List.mem_map, hlocal]

theorem foreignCount_le (h : Envies m m' k.name) (hname : k'.name = k.name) :
    (findings m k).foreignCount ≤ (findings m' k').foreignCount := by
  have hsubset : sortedSet m.accesses ⊆ sortedSet m'.accesses := fun a ha ↦
    mem_sortedSet.mpr (h.accesses (mem_sortedSet.mp ha))
  have hnodup : (foreignAccesses m k.name).Nodup := (sortedSet_nodup _).filter _
  rw [foreignCount_eq, foreignCount_eq, hname]
  exact (List.subperm_of_subset hnodup (List.filter_subset _ hsubset)).length_le

theorem envyRatio_atMost (h : Envies m m' k.name) (hname : k'.name = k.name) :
    (findings m k).envyRatio.AtMost (findings m' k').envyRatio := by
  have hlocal : (findings m' k').localCount = (findings m k).localCount :=
    congrArg List.length (localFields_eq h hname)
  rw [Findings.envyRatio, Findings.envyRatio, hlocal]
  exact Quantity.ratio_atMost (foreignCount_le h hname) _

theorem severity_le {f f' : Findings} (h : f.envyRatio.AtMost f'.envyRatio) :
    f.severity.level ≤ f'.severity.level :=
  Severity.grade_le (by simp [Severity.level]) (.cons ⟨quantity_lt_le h _, rfl⟩
    (.cons ⟨quantity_lt_le h _, rfl⟩ (.cons ⟨quantity_lt_le h _, rfl⟩ .nil)))

theorem noGraver (ht : t.Eases t') (h : Envies m m' k.name) (hname : k'.name = k.name)
    (path path' : Option String) :
    NoGraver (detector.evaluate (.ofMethod m k path) t)
      (detector.evaluate (.ofMethod m' k' path') t') := by
  have hratio := envyRatio_atMost h hname
  have hcount := Quantity.ofNat_atMost (foreignCount_le h hname)
  refine noGraver_of_detected ?_ (severity_le hratio)
  refine WhenBoth.bind (ht.limit "envy_ratio" (by decide)) fun v v' hv ↦ ?_
  refine WhenBoth.both (above_le hratio hv) ?_
  exact WhenBoth.bind (ht.limit "min_foreign_accesses" (by decide)) fun w w' hw ↦ above_le hcount hw

end FeatureEnvy

/-! ### Inappropriate intimacy -/

namespace InappropriateIntimacy

theorem length_privateAccesses_le {k k' : Class} (h : k.GainsEdges k') (target : String) :
    (privateAccesses k target).length ≤ (privateAccesses k' target).length := by
  refine length_flatMap_le (fun m m' hm ↦ ?_) h.methods
  rw [List.length_map, List.length_map]
  exact (hm.accesses.filter _).length_le

/-- The second pair is as intimate as the first, or more so. -/
structure IntimatePair.Closer (p q : IntimatePair) : Prop where
  bidirectional : p.bidirectional ≤ q.bidirectional
  shared : p.sharedIntimacy ≤ q.sharedIntimacy

theorem intimacy_closer {a a' b b' : Class} (ha : a.GainsEdges a') (hb : b.GainsEdges b') :
    (intimacy a b).Closer (intimacy a' b') where
  bidirectional := by
    intro h
    simp only [intimacy, Bool.and_eq_true] at h ⊢
    rw [ha.name, hb.name]
    exact ⟨ha.references_le h.1, hb.references_le h.2⟩
  shared := by
    simp only [intimacy, List.length_append]
    rw [ha.name, hb.name]
    exact Nat.add_le_add (length_privateAccesses_le ha _) (length_privateAccesses_le hb _)

theorem isIntimate_le (ht : t.Eases t') {p q : IntimatePair} (h : p.Closer q) :
    WhenBoth (· ≤ ·) (isIntimate t p) (isIntimate t' q) := by
  refine WhenBoth.bind (ht.limit "max_shared_intimacy" (by decide)) fun v v' hv ↦ ?_
  refine WhenBoth.bind (ht.switch "require_bidirectional" (by decide)) fun both _ hboth ↦ ?_
  subst hboth
  exact WhenBoth.guard (or_le_or h.bidirectional le_rfl)
    (above_le (Quantity.ofNat_atMost h.shared) hv)

theorem candidates_of_class {k k' : Class} {p p' : Project} (hk : k.GainsEdges k')
    (hp : p.GainsEdges p') (path path' : Option String) :
    ∀ pair ∈ candidates (.ofClass k p path), ∃ pair' ∈ candidates (.ofClass k' p' path'),
      pair.Closer pair' := by
  intro pair hpair
  obtain ⟨other, hother, rfl⟩ := List.mem_map.mp hpair
  obtain ⟨hother, hne⟩ := List.mem_filter.mp hother
  obtain ⟨other', hother', hgains⟩ := hp.exists_class hother
  have hkept : other' ∈ p'.classes.filter fun other ↦ other.name != k'.name := by
    refine List.mem_filter.mpr ⟨hother', ?_⟩
    rw [hgains.name, hk.name]
    exact hne
  exact ⟨intimacy k' other', List.mem_map_of_mem hkept, intimacy_closer hk hgains⟩

theorem candidates_of_project {p p' : Project} (hp : p.GainsEdges p') :
    ∀ pair ∈ candidates (.ofProject p), ∃ pair' ∈ candidates (.ofProject p'),
      pair.Closer pair' := by
  intro pair hpair
  obtain ⟨⟨a, b⟩, hab, rfl⟩ := List.mem_map.mp hpair
  have hpairs := sublistForall₂_pairs (sublistForall₂_of_forall₂ hp)
  obtain ⟨⟨a', b'⟩, hab', ha, hb⟩ := exists_mem_of_sublistForall₂ hpairs hab
  exact ⟨intimacy a' b', List.mem_map.mpr ⟨(a', b'), hab', rfl⟩, intimacy_closer ha hb⟩

theorem severity_le {f f' : Findings} (h : f.worst ≤ f'.worst) :
    f.severity.level ≤ f'.severity.level :=
  Severity.grade_le (by simp [Severity.level])
    (.cons ⟨exceeds_le h _, rfl⟩ (.cons ⟨exceeds_le h _, rfl⟩ .nil))

theorem noGraver (ht : t.Eases t') {scope scope' : Scope}
    (h : ∀ pair ∈ candidates scope, ∃ pair' ∈ candidates scope', pair.Closer pair') :
    NoGraver (detector.evaluate scope t) (detector.evaluate scope' t') := by
  have hfindings : WhenBoth (fun f f' ↦ ∀ pair ∈ f.pairs, ∃ pair' ∈ f'.pairs, pair.Closer pair')
      (findings scope t) (findings scope' t') :=
    WhenBoth.bind (filterM_covers h fun _ _ hclose ↦ isIntimate_le ht hclose) fun _ _ hpairs ↦
      WhenBoth.ok hpairs
  refine WhenBoth.bind hfindings fun f f' hf ↦ WhenBoth.ok (.some ?_)
  have hworst : f.worst ≤ f'.worst := greatest_map_le fun pair hpair ↦ by
    obtain ⟨pair', hpair', hclose⟩ := hf pair hpair
    exact ⟨pair', hpair', hclose.shared⟩
  exact Verdict.level_le (not_isEmpty_le hf) (severity_le hworst)

end InappropriateIntimacy

/-! ### Shotgun surgery -/

namespace ShotgunSurgery

variable {p p' : Project}

theorem foreignCallees_subset (hp : p.GainsEdges p') {k k' : Class} (hk : k.GainsEdges k') :
    foreignCallees p k ⊆ foreignCallees p' k' := by
  have hcalls : k.methods.flatMap (·.calls) ⊆ k'.methods.flatMap (·.calls) := by
    intro e he
    obtain ⟨m, hm, he⟩ := List.mem_flatMap.mp he
    obtain ⟨m', hm', hgains⟩ := hk.exists_method hm
    exact List.mem_flatMap.mpr ⟨m', hm', hgains.calls he⟩
  simp only [foreignCallees, hp.resolveCallee_eq, hk.name]
  exact List.filterMap_subset _ hcalls

theorem callPairs_subset (hp : p.GainsEdges p') : callPairs p ⊆ callPairs p' := by
  intro call hcall
  obtain ⟨k, hk, hcall⟩ := List.mem_flatMap.mp hcall
  obtain ⟨k', hk', hgains⟩ := hp.exists_class hk
  refine List.mem_flatMap.mpr ⟨k', hk', ?_⟩
  rw [hgains.name]
  exact List.map_subset _ (foreignCallees_subset hp hgains) hcall

/-- The second surgery affects as many classes as the first, or more. -/
def Surgery.Wider (s s' : Surgery) : Prop :=
  s.affected.length ≤ s'.affected.length

theorem classCandidates_wider (hp : p.GainsEdges p') :
    ∀ s ∈ classCandidates p, ∃ s' ∈ classCandidates p', s.Wider s' := by
  intro s hs
  obtain ⟨k, hk, rfl⟩ := List.mem_map.mp hs
  obtain ⟨k', hk', hgains⟩ := hp.exists_class hk
  exact ⟨_, List.mem_map_of_mem hk', Class.length_dependencies_le hgains hp⟩

theorem methodCandidates_wider (hp : p.GainsEdges p') :
    ∀ s ∈ methodCandidates p, ∃ s' ∈ methodCandidates p', s.Wider s' := by
  intro s hs
  obtain ⟨ref, href, rfl⟩ := List.mem_map.mp hs
  have hcalls := callPairs_subset hp
  have href' : ref ∈ sortedSet ((callPairs p').map (·.1)) :=
    mem_sortedSet.mpr (List.map_subset _ hcalls (mem_sortedSet.mp href))
  refine ⟨_, List.mem_map_of_mem href', ?_⟩
  exact length_sortedSet_le (List.map_subset _ (List.filter_subset _ hcalls))

theorem findings_wider (ht : t.Eases t') (hp : p.GainsEdges p') :
    WhenBoth (fun f f' ↦ ∀ s ∈ f.surgeries, ∃ s' ∈ f'.surgeries, s.Wider s') (findings p t)
      (findings p' t') := by
  have htest {limit limit' : Value} (hlimit : limit'.AtMost limit) (s s' : Surgery)
      (h : s.Wider s') : WhenBoth (· ≤ ·) (Measured.above (s.affected.length : ℕ) limit)
        (Measured.above (s'.affected.length : ℕ) limit') :=
    above_le (Quantity.ofNat_atMost h) hlimit
  refine WhenBoth.bind (ht.limit "max_classes" (by decide)) fun v v' hv ↦ ?_
  refine WhenBoth.bind (ht.limit "max_caller_classes" (by decide)) fun w w' hw ↦ ?_
  refine WhenBoth.bind (filterM_covers (classCandidates_wider hp) (htest hv)) fun cs cs' hcs ↦ ?_
  refine WhenBoth.bind (filterM_covers (methodCandidates_wider hp) (htest hw)) fun ms ms' hms ↦ ?_
  refine WhenBoth.ok fun s hs ↦ ?_
  rcases List.mem_append.mp hs with hs | hs
  · obtain ⟨s', hs', hwider⟩ := hcs s hs
    exact ⟨s', List.mem_append_left _ hs', hwider⟩
  · obtain ⟨s', hs', hwider⟩ := hms s hs
    exact ⟨s', List.mem_append_right _ hs', hwider⟩

theorem severity_le {f f' : Findings} (h : f.worst ≤ f'.worst) :
    f.severity.level ≤ f'.severity.level :=
  Severity.grade_le (by simp [Severity.level]) (.cons ⟨exceeds_le h _, rfl⟩
    (.cons ⟨exceeds_le h _, rfl⟩ (.cons ⟨exceeds_le h _, rfl⟩ .nil)))

theorem noGraver (ht : t.Eases t') (hp : p.GainsEdges p') :
    NoGraver (detector.evaluate (.ofProject p) t) (detector.evaluate (.ofProject p') t') := by
  refine WhenBoth.bind (findings_wider ht hp) fun f f' hf ↦ WhenBoth.ok (.some ?_)
  exact Verdict.level_le (not_isEmpty_le hf) (severity_le (greatest_map_le hf))

end ShotgunSurgery

/-! ### Global state -/

namespace GlobalState

/-- A class with further fields, and with further methods or lines in its methods. -/
structure Gains (k k' : Class) : Prop where
  fields : k.fields.Subperm k'.fields
  methods : SublistForall₂ Method.GainsLines k.methods k'.methods

instance : Std.Refl Gains :=
  ⟨fun _ ↦ ⟨List.Subperm.refl _, refl_of _ _⟩⟩

/-- The second autoload has as many fields as the first, and does everything if the first does. -/
structure Summary.Smaller (s s' : Summary) : Prop where
  fields : s.fieldCount ≤ s'.fieldCount
  god : s.isGod ≤ s'.isGod

theorem summary_smaller (ht : t.Eases t') {k k' : Class} (h : Gains k k') :
    WhenBoth Summary.Smaller (summary t k) (summary t' k') := by
  have hgod : WhenBoth (· ≤ ·)
      (anyAbove t [(k.totalLoc, "god_autoload_loc"), (k.methodCount, "god_autoload_methods")])
      (anyAbove t' [(k'.totalLoc, "god_autoload_loc"),
        (k'.methodCount, "god_autoload_methods")]) :=
    anyAbove_le ht (.cons (rises_count (Class.totalLoc_le h.methods) (by decide))
      (.cons (rises_count (length_le_of_sublistForall₂ h.methods) (by decide)) .nil))
  exact WhenBoth.bind hgod fun _ _ hle ↦ WhenBoth.ok ⟨h.fields.length_le, hle⟩

variable {f f' : Findings}

theorem globalVars_le (h : SublistForall₂ Summary.Smaller f.autoloads f'.autoloads) :
    f.globalVars ≤ f'.globalVars := by
  refine total_le ?_
  rw [List.sublistForall₂_map_left_iff, List.sublistForall₂_map_right_iff]
  exact sublistForall₂_imp (fun _ _ hs ↦ hs.fields) h

theorem gods_le (h : SublistForall₂ Summary.Smaller f.autoloads f'.autoloads) :
    (!f.gods.isEmpty) ≤ (!f'.gods.isEmpty) := by
  have hgods := sublistForall₂_filter (fun _ _ _ hs ↦ hs.god) h
  rw [Findings.gods, Findings.gods, List.isEmpty_map, List.isEmpty_map]
  exact not_isEmpty_le fun s hs ↦ exists_mem_of_sublistForall₂ hgods hs

theorem severity_le (h : SublistForall₂ Summary.Smaller f.autoloads f'.autoloads) :
    f.severity.level ≤ f'.severity.level := by
  have hcount : f.count ≤ f'.count := length_le_of_sublistForall₂ h
  have htier := exceeds_or_le hcount (globalVars_le h)
  exact Severity.grade_le (by simp [Severity.level])
    (.cons ⟨gods_le h, rfl⟩ (.cons ⟨htier _ _, rfl⟩ (.cons ⟨htier _ _, rfl⟩ .nil)))

theorem noGraver (ht : t.Eases t') {p p' : Project}
    (h : SublistForall₂ Gains p.autoloads p'.autoloads) :
    NoGraver (detector.evaluate (.ofProject p) t) (detector.evaluate (.ofProject p') t') := by
  have hfindings : WhenBoth (fun f f' ↦ SublistForall₂ Summary.Smaller f.autoloads f'.autoloads)
      (findings p t) (findings p' t') :=
    WhenBoth.bind (mapM_grows h fun _ _ hk ↦ summary_smaller ht hk) fun _ _ hs ↦ WhenBoth.ok hs
  refine WhenBoth.bind hfindings fun f f' hf ↦ noGraver_of_detected ?_ (severity_le hf)
  have hcount : f.count ≤ f'.count := length_le_of_sublistForall₂ hf
  refine WhenBoth.either (anyAbove_le ht ?_) (WhenBoth.ok (gods_le hf))
  exact .cons (rises_count hcount (by decide)) (.cons (rises_count (globalVars_le hf) (by decide))
    .nil)

end GlobalState

/-! ### Duplicate code -/

namespace DuplicateCode

/-- Two blocks with the same lines. -/
def Block.SameLines (b b' : Block) : Prop :=
  b.lines = b'.lines

/-- Two duplicates that are equally alike. -/
def Duplicate.AsAlike (d d' : Duplicate) : Prop :=
  d.similarity = d'.similarity

/-- A class with further methods. -/
def Gains (k k' : Class) : Prop :=
  SublistForall₂ Method.Moves k.methods k'.methods

instance : Std.Refl Gains :=
  ⟨fun k ↦ refl_of (SublistForall₂ Method.Moves) k.methods⟩

theorem blocks_grow {p p' : Project} (h : SublistForall₂ Gains p.classes p'.classes) :
    SublistForall₂ Block.SameLines (blocks p) (blocks p') := by
  refine sublistForall₂_flatMap (fun k k' hmethods ↦ ?_) h
  rw [List.sublistForall₂_map_left_iff, List.sublistForall₂_map_right_iff]
  refine sublistForall₂_imp (fun m m' hm ↦ ?_) hmethods
  refine map_eq_of_forall₂ hm.lines fun l l' hl ↦ ?_
  rw [hl.apply_eq (f := SourceLine.content) fun _ _ _ ↦ rfl]

theorem isDuplicate_le {limit limit' : Value} (hlimit : limit'.AtMost limit) {d d' : Duplicate}
    (h : d.AsAlike d') :
    WhenBoth (· ≤ ·) (isDuplicate limit d) (isDuplicate limit' d') := by
  rw [isDuplicate, isDuplicate, ← h]
  exact WhenBoth.guard le_rfl (atLeast_le (.refl _) hlimit)

theorem findings_grow (ht : t.Eases t') {p p' : Project}
    (h : SublistForall₂ Gains p.classes p'.classes) :
    WhenBoth (fun f f' ↦ SublistForall₂ Duplicate.AsAlike f.duplicates f'.duplicates)
      (findings p t) (findings p' t') := by
  refine WhenBoth.bind (ht.limit "min_lines" (by decide)) fun v v' hv ↦ ?_
  refine WhenBoth.bind (ht.limit "min_similarity" (by decide)) fun w w' hw ↦ ?_
  refine WhenBoth.bind (filterM_grows (blocks_grow h) fun b b' hb ↦ ?_) fun bs bs' hbs ↦ ?_
  · have hlength : b.lines.length = b'.lines.length := congrArg List.length hb
    exact atLeast_le (Quantity.ofNat_atMost hlength.le) hv
  refine WhenBoth.bind (filterM_grows ?_ fun d d' hd ↦ isDuplicate_le hw hd) fun ds ds' hds ↦
    WhenBoth.ok hds
  rw [List.sublistForall₂_map_left_iff, List.sublistForall₂_map_right_iff]
  refine sublistForall₂_imp ?_ (sublistForall₂_pairs hbs)
  rintro ⟨a, b⟩ ⟨a', b'⟩ ⟨hfirst, hsecond⟩
  exact congrArg₂ blockSimilarity hfirst hsecond

theorem severity_le {f f' : Findings} (h : f.duplicates.length ≤ f'.duplicates.length) :
    f.severity.level ≤ f'.severity.level :=
  Severity.grade_le (by simp [Severity.level]) (.cons ⟨exceeds_le h _, rfl⟩
    (.cons ⟨exceeds_le h _, rfl⟩ (.cons ⟨exceeds_le h _, rfl⟩ .nil)))

theorem noGraver (ht : t.Eases t') {p p' : Project}
    (h : SublistForall₂ Gains p.classes p'.classes) :
    NoGraver (detector.evaluate (.ofProject p) t) (detector.evaluate (.ofProject p') t') := by
  refine WhenBoth.bind (findings_grow ht h) fun f f' hf ↦ WhenBoth.ok (.some ?_)
  exact Verdict.level_le (not_isEmpty_le fun d hd ↦ exists_mem_of_sublistForall₂ hf hd)
    (severity_le (length_le_of_sublistForall₂ hf))

end DuplicateCode

/-! ### Divergent change -/

namespace DivergentChange

variable {k k' : Class}

theorem groupedReasons_length_le (h : SublistForall₂ Method.Moves k.methods k'.methods) :
    (groupedReasons k).length ≤ (groupedReasons k').length := by
  have hmembers (g : Group) : (groupMethods k g).length ≤ (groupMethods k' g).length := by
    refine length_le_of_sublistForall₂ (sublistForall₂_filter (fun m m' _ hm hkept ↦ ?_) h)
    rwa [hm.name]
  have hgroups : (Group.all.filter fun g ↦ (groupMethods k g).length ≥ 2).Sublist
      (Group.all.filter fun g ↦ (groupMethods k' g).length ≥ 2) := by
    refine List.monotone_filter_right _ fun g hg ↦ ?_
    rw [decide_eq_true_eq] at hg ⊢
    exact hg.trans (hmembers g)
  rw [groupedReasons, groupedReasons, List.length_map, List.length_map]
  exact hgroups.length_le

theorem changeReasons_length (k : Class) : (changeReasons k).length =
    if (groupedReasons k).length = 0 ∧ k.methodCount > 5 then 1
    else (groupedReasons k).length := by
  simp only [changeReasons, Bool.and_eq_true, List.isEmpty_iff_length_eq_zero, decide_eq_true_eq]
  split <;> rfl

/-- The reason of a class without groups is lost when methods come to form one, which is then a
reason itself. -/
theorem changeReasons_length_le (h : SublistForall₂ Method.Moves k.methods k'.methods) :
    (changeReasons k).length ≤ (changeReasons k').length := by
  have hgrouped := groupedReasons_length_le h
  have hmethods : k.methodCount ≤ k'.methodCount := length_le_of_sublistForall₂ h
  -- The class is one unorganized whole before, after, at both times or never.
  rw [changeReasons_length, changeReasons_length]
  split_ifs <;> omega

theorem severity_le {f f' : Findings} (h : f.reasons.length ≤ f'.reasons.length) :
    f.severity.level ≤ f'.severity.level :=
  Severity.grade_le (by simp [Severity.level]) (.cons ⟨exceeds_le h _, rfl⟩
    (.cons ⟨exceeds_le h _, rfl⟩ (.cons ⟨exceeds_le h _, rfl⟩ .nil)))

theorem noGraver (ht : t.Eases t') (h : SublistForall₂ Method.Moves k.methods k'.methods)
    (p p' : Project) (path path' : Option String) :
    NoGraver (detector.evaluate (.ofClass k p path) t)
      (detector.evaluate (.ofClass k' p' path') t') := by
  have hreasons := changeReasons_length_le h
  refine noGraver_of_detected (anyAbove_le ht ?_) (severity_le hreasons)
  exact .cons (rises_count hreasons (by decide)) .nil

end DivergentChange

/-! ### Growth in general -/

/-- How the code that a detector looks at grows. What a detector does not look at is left open, such
as the project around a class. -/
inductive Grows : Detector → Scope → Scope → Prop
  /-- Lines inserted anywhere in a method. -/
  | longMethod {m m' : Method} {k k' : Class} {path path' : Option String} (h : m.GainsLines m') :
    Grows LongMethod.detector (.ofMethod m k path) (.ofMethod m' k' path')
  /-- Lines inserted anywhere in a method. -/
  | messageChains {m m' : Method} {k k' : Class} {path path' : Option String}
    (h : m.GainsLines m') :
    Grows MessageChains.detector (.ofMethod m k path) (.ofMethod m' k' path')
  /-- Lines inserted anywhere in the methods of a class. -/
  | messageChainsOfClass {k k' : Class} {p p' : Project} {path path' : Option String}
    (h : SublistForall₂ Method.GainsLines k.methods k'.methods) :
    Grows MessageChains.detector (.ofClass k p path) (.ofClass k' p' path')
  /-- Methods, lines, fields or exported fields added to a class. -/
  | largeClass {k k' : Class} {p p' : Project} {path path' : Option String}
    (hmethods : SublistForall₂ Method.GainsLines k.methods k'.methods)
    (hfields : k.fields.Subperm k'.fields)
    (hexported : k.exportedFields.Subperm k'.exportedFields) :
    Grows LargeClass.detector (.ofClass k p path) (.ofClass k' p' path')
  /-- Lines, methods or untyped fields added to a class. -/
  | primitiveObsession {k k' : Class} {p p' : Project} {path path' : Option String}
    (hmethods : SublistForall₂ Method.GainsLines k.methods k'.methods)
    (hfields : k.fields ⊆ k'.fields) (htyped : k'.typedFields ⊆ k.typedFields) :
    Grows PrimitiveObsession.detector (.ofClass k p path) (.ofClass k' p' path')
  /-- Accesses to fields of other classes added to a method. -/
  | featureEnvy {m m' : Method} {k k' : Class} {path path' : Option String}
    (h : FeatureEnvy.Envies m m' k.name) (hname : k'.name = k.name) :
    Grows FeatureEnvy.detector (.ofMethod m k path) (.ofMethod m' k' path')
  /-- Calls or field accesses added to the methods of a class and of the project around it. -/
  | intimacyOfClass {k k' : Class} {p p' : Project} {path path' : Option String}
    (hk : k.GainsEdges k') (hp : p.GainsEdges p') :
    Grows InappropriateIntimacy.detector (.ofClass k p path) (.ofClass k' p' path')
  /-- Calls or field accesses added to the methods of a project. -/
  | intimacy {p p' : Project} (h : p.GainsEdges p') :
    Grows InappropriateIntimacy.detector (.ofProject p) (.ofProject p')
  /-- Calls or field accesses added to the methods of a project. -/
  | shotgunSurgery {p p' : Project} (h : p.GainsEdges p') :
    Grows ShotgunSurgery.detector (.ofProject p) (.ofProject p')
  /-- Autoloads added to a project, or fields, methods or lines to its autoloads. -/
  | globalState {p p' : Project} (h : SublistForall₂ GlobalState.Gains p.autoloads p'.autoloads) :
    Grows GlobalState.detector (.ofProject p) (.ofProject p')
  /-- Classes added to a project, or methods to its classes. -/
  | duplicateCode {p p' : Project} (h : SublistForall₂ DuplicateCode.Gains p.classes p'.classes) :
    Grows DuplicateCode.detector (.ofProject p) (.ofProject p')
  /-- Methods added to a class. -/
  | divergentChange {k k' : Class} {p p' : Project} {path path' : Option String}
    (h : SublistForall₂ Method.Moves k.methods k'.methods) :
    Grows DivergentChange.detector (.ofClass k p path) (.ofClass k' p' path')

namespace Grows

variable {d : Detector} {scope scope' : Scope}

/-- Growth does not lower a verdict. -/
theorem noGraver (h : Grows d scope scope') (ht : t.Eases t') :
    NoGraver (d.evaluate scope t) (d.evaluate scope' t') := by
  cases h with
  | longMethod h => exact LongMethod.noGraver ht h _ _ _ _
  | messageChains h => exact MessageChains.noGraver ht (.cons h .nil)
  | messageChainsOfClass h => exact MessageChains.noGraver ht h
  | largeClass hmethods hfields hexported =>
    exact LargeClass.noGraver ht hmethods hfields hexported _ _ _ _
  | primitiveObsession hmethods hfields htyped =>
    exact PrimitiveObsession.noGraver ht hmethods hfields htyped _ _ _ _
  | featureEnvy h hname => exact FeatureEnvy.noGraver ht h hname _ _
  | intimacyOfClass hk hp =>
    exact InappropriateIntimacy.noGraver ht
      (InappropriateIntimacy.candidates_of_class hk hp _ _)
  | intimacy h =>
    exact InappropriateIntimacy.noGraver ht (InappropriateIntimacy.candidates_of_project h)
  | shotgunSurgery h => exact ShotgunSurgery.noGraver ht h
  | globalState h => exact GlobalState.noGraver ht h
  | duplicateCode h => exact DuplicateCode.noGraver ht h
  | divergentChange h => exact DivergentChange.noGraver ht h _ _ _ _

theorem mem_catalog (h : Grows d scope scope') : d ∈ Catalog.detectors := by
  cases h <;> simp [Catalog.detectors]

theorem supports (h : Grows d scope scope') :
    d.supports scope.kind = true ∧ d.supports scope'.kind = true := by
  cases h <;> exact ⟨rfl, rfl⟩

/-- A detector applies to the code whose growth it looks at, before and after. -/
theorem applies (h : Grows d scope scope') (t : Thresholds) :
    Applies (d.evaluate scope t) ∧ Applies (d.evaluate scope' t) := by
  cases h with
  | primitiveObsession _ _ _ | globalState _ =>
    exact ⟨.bind fun _ ↦ .bind fun _ ↦ applies_some _, .bind fun _ ↦ .bind fun _ ↦ applies_some _⟩
  | _ => exact ⟨.bind fun _ ↦ applies_some _, .bind fun _ ↦ applies_some _⟩

end Grows

/-- Growing code never lowers a severity. Assumes: code that grows in a way that the detector looks
at, and thresholds that can be compared with. The detector gives a result before and after, and the
level of the second is not below that of the first, where nought means that nothing was detected. -/
theorem severity_of_grown {d : Detector} {scope scope' : Scope} (h : Grows d scope scope')
    {given : Entries} (hgiven : Thresholds.Usable ⟨given, d.defaults⟩ d.keys) :
    ∃ r r', d.detect scope given = .ok (some r) ∧ d.detect scope' given = .ok (some r') ∧
      r.severityLevel ≤ r'.severityLevel := by
  have htotal : d.Total := catalog_total h.mem_catalog
  obtain ⟨hsupports, hsupports'⟩ := h.supports
  obtain ⟨happlies, happlies'⟩ := h.applies ⟨given, d.defaults⟩
  obtain ⟨r, hr⟩ := htotal.exists_result hgiven hsupports happlies
  obtain ⟨r', hr'⟩ := htotal.exists_result hgiven hsupports' happlies'
  exact ⟨r, r', hr, hr', Detector.severityLevel_le (h.noGraver (.refl _)) hr hr'⟩

/-- A class with six methods that no group admits. -/
def unsorted : Class :=
  { (default : Class) with
    methods := ["walk", "jump", "fall", "rest", "wait", "turn"].map fun name ↦
      { (default : Method) with name := name } }

/-- The same class with two getters among its methods. -/
def partlySorted : Class :=
  { unsorted with
    methods := { (default : Method) with name := "get_speed" } :: unsorted.methods ++
      [{ (default : Method) with name := "get_height" }] }

/-- Two getters make a group, so that the class is no longer one unorganized whole. Where no reason
is allowed, it smells as before. -/
theorem severity_of_grown_unsorted :
    Grows DivergentChange.detector (.ofClass unsorted default none)
      (.ofClass partlySorted default none) ∧
    ∃ r r', DivergentChange.detector.detect (.ofClass unsorted default none)
        [("max_reasons", .whole 0)] = .ok (some r) ∧
      DivergentChange.detector.detect (.ofClass partlySorted default none)
        [("max_reasons", .whole 0)] = .ok (some r') ∧
      r.severityLevel ≤ r'.severityLevel := by
  have hmethods : unsorted.methods.Sublist partlySorted.methods :=
    (List.sublist_append_left _ _).cons _
  have hgrows : Grows DivergentChange.detector (.ofClass unsorted default none)
      (.ofClass partlySorted default none) :=
    .divergentChange hmethods.sublistForall₂
  have hgiven : Thresholds.Usable ⟨[("max_reasons", .whole 0)], DivergentChange.detector.defaults⟩
      DivergentChange.detector.keys :=
    usable_of_given hgrows.mem_catalog (List.forall_mem_singleton.mpr rfl)
  exact ⟨hgrows, severity_of_grown hgrows hgiven⟩

end CodeSmells
