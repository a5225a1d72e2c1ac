import CodeSmells.Analysis.Analyzer
import CodeSmells.Proofs.Model.Description

/-!
# Projects whose sets are laid out in another order

The calls and field accesses of a method and the fields of a class are sets, and a list that holds a
set may hold it in any order. `Rearranges` relates two projects that differ in such orders only.
`arranged` puts every set of a project into increasing order, and a project and its rearrangement
have the same arranged form (`Project.Rearranges.arranged_eq`), provided that their lists repeat
nothing (`Distinct`). A project that was built from a description repeats nothing
(`distinct_of_build`).

What a method or a class tells about itself, other than the sets themselves, does not change when it
is arranged; the lemmas on `arranged` below say so one by one.
-/

set_option autoImplicit false
set_option relaxedAutoImplicit false

namespace CodeSmells

/-! ### Rearrangements -/

/-- Two methods that differ in the order of their calls and accesses only. -/
structure Method.Rearranges (m n : Method) : Prop where
  name : m.name = n.name
  parameters : m.parameters = n.parameters
  lines : m.lines = n.lines
  calls : m.calls.Perm n.calls
  accesses : m.accesses.Perm n.accesses
  startLine : m.startLine = n.startLine

/-- Two classes that differ in the order of their sets, and of the sets of their methods, only. -/
structure Class.Rearranges (k l : Class) : Prop where
  name : k.name = l.name
  fields : k.fields.Perm l.fields
  methods : List.Forall₂ Method.Rearranges k.methods l.methods
  parent : k.parent = l.parent
  exportedFields : k.exportedFields.Perm l.exportedFields
  autoload : k.autoload = l.autoload
  filePath : k.filePath = l.filePath
  typedFields : k.typedFields.Perm l.typedFields

/-- Two projects that differ in the order of the sets of their classes only. -/
structure Project.Rearranges (p q : Project) : Prop where
  classes : List.Forall₂ Class.Rearranges p.classes q.classes
  scenes : p.scenes = q.scenes
  autoloads : List.Forall₂ Class.Rearranges p.autoloads q.autoloads
  signals : p.signals = q.signals
  name : p.name = q.name

/-! ### Lists that repeat nothing -/

/-- The lists that hold the sets of a method repeat nothing. -/
structure Method.Distinct (m : Method) : Prop where
  calls : m.calls.Nodup
  accesses : m.accesses.Nodup

/-- The lists that hold the sets of a class and of its methods repeat nothing. -/
structure Class.Distinct (k : Class) : Prop where
  fields : k.fields.Nodup
  exportedFields : k.exportedFields.Nodup
  methods : ∀ m ∈ k.methods, m.Distinct

/-- The lists that hold the sets of a project repeat nothing. -/
structure Project.Distinct (p : Project) : Prop where
  classes : ∀ k ∈ p.classes, k.Distinct
  autoloads : ∀ k ∈ p.autoloads, k.Distinct

/-- What holds of the second entries and is carried back along the pairs holds of the first. -/
theorem forall_mem_of_forall₂ {α β : Type} {R : α → β → Prop} {P : α → Prop} {Q : β → Prop}
    {xs : List α} {ys : List β} (h : List.Forall₂ R xs ys) (hback : ∀ a b, R a b → Q b → P a)
    (hys : ∀ y ∈ ys, Q y) : ∀ x ∈ xs, P x := by
  induction h with
  | nil => exact nofun
  | cons hxy _ ih =>
    rw [List.forall_mem_cons] at hys ⊢
    exact ⟨hback _ _ hxy hys.1, ih hys.2⟩

theorem Method.Rearranges.distinct {m n : Method} (h : m.Rearranges n) (hn : n.Distinct) :
    m.Distinct :=
  ⟨h.calls.nodup_iff.mpr hn.calls, h.accesses.nodup_iff.mpr hn.accesses⟩

theorem Class.Rearranges.distinct {k l : Class} (h : k.Rearranges l) (hl : l.Distinct) :
    k.Distinct :=
  ⟨h.fields.nodup_iff.mpr hl.fields, h.exportedFields.nodup_iff.mpr hl.exportedFields,
    forall_mem_of_forall₂ h.methods (fun _ _ h hn ↦ h.distinct hn) hl.methods⟩

theorem Project.Rearranges.distinct {p q : Project} (h : p.Rearranges q) (hq : q.Distinct) :
    p.Distinct :=
  ⟨forall_mem_of_forall₂ h.classes (fun _ _ h hl ↦ h.distinct hl) hq.classes,
    forall_mem_of_forall₂ h.autoloads (fun _ _ h hl ↦ h.distinct hl) hq.autoloads⟩

/-! ### What is built repeats nothing -/

theorem MethodParts.distinct_of_build {d : MethodParts} {m : Method} (h : d.build = .ok m) :
    m.Distinct := by
  simp only [MethodParts.build, bind_eq_ok_iff, pure_eq_ok_iff] at h
  obtain ⟨_, -, _, -, _, -, _, -, _, -, _, -, -, -, -, -, _, -, calls, -, accesses, -, rfl⟩ := h
  exact ⟨sortedSet_nodup calls, sortedSet_nodup accesses⟩

theorem identifiers_nodup {what : String} {v : Option Value} {names : List String}
    (h : identifiers what v = .ok names) : names.Nodup := by
  obtain ⟨_, ns, -, -, rfl⟩ := identifiers_eq_ok_iff.mp h
  exact sortedSet_nodup ns

theorem ClassParts.distinct_of_build {d : ClassParts} {k : Class} (h : d.build = .ok k) :
    k.Distinct := by
  simp only [ClassParts.build, bind_eq_ok_iff, pure_eq_ok_iff, onlyMade_eq_ok_iff] at h
  obtain ⟨_, hslots, _, -, _, -, fields, hfields, exported, hexported, _, -, methods, rfl, rfl⟩ := h
  refine ⟨identifiers_nodup hfields, identifiers_nodup hexported, fun m hm ↦ ?_⟩
  obtain ⟨draft, -, hdraft⟩ := (mem_of_mapM_eq_ok hslots).mp (List.mem_map_of_mem hm)
  cases draft with
  | stray v => cases hdraft
  | made parts =>
    simp only [MethodDraft.build, bind_eq_ok_iff, pure_eq_ok_iff, Slot.made.injEq] at hdraft
    obtain ⟨_, hbuilt, rfl⟩ := hdraft
    exact MethodParts.distinct_of_build hbuilt

/-- The autoloads of a project are among its classes. -/
theorem Project.eq_of_make {classes autoloads : List Class} {scenes : List Scene}
    {signals : List Signal} {name : String} {p : Project}
    (h : Project.make classes scenes autoloads signals name = .ok p) :
    p = ⟨classes, scenes, autoloads, signals, name⟩ ∧ ∀ a ∈ autoloads, a ∈ classes := by
  unfold Project.make at h
  simp only [bind_eq_ok_iff, pure_eq_ok_iff] at h
  obtain ⟨u, hloop, rfl⟩ := h
  refine ⟨rfl, ?_⟩
  induction autoloads with
  | nil => exact nofun
  | cons a rest ih =>
    rw [List.forIn_cons] at hloop
    by_cases hflag : a.autoload = true
    · by_cases hin : a ∈ classes
      · refine List.forall_mem_cons.mpr ⟨hin, ih ?_⟩
        simpa [hflag, hin] using hloop
      · rw [if_neg (by simpa using hflag), if_pos (by simpa using hin)] at hloop
        cases hloop
    · rw [if_pos (by simpa using hflag)] at hloop
      cases hloop

/-- The classes of a project that was built from a description were built from their parts, and its
autoloads are among them. -/
theorem ProjectDraft.exists_parts_of_build {d : ProjectDraft} {p : Project} (h : d.build = .ok p) :
    (∀ k ∈ p.classes, ∃ parts : ClassParts, parts.build = .ok k) ∧
      ∀ a ∈ p.autoloads, a ∈ p.classes := by
  simp only [ProjectDraft.build, bind_eq_ok_iff, onlyMade_eq_ok_iff] at h
  obtain ⟨_, hslots, _, -, _, -, _, -, classes, rfl, autoloads, -, hmake⟩ := h
  obtain ⟨rfl, hautoloads⟩ := Project.eq_of_make hmake
  refine ⟨fun k hk ↦ ?_, hautoloads⟩
  obtain ⟨draft, -, hdraft⟩ := (mem_of_mapM_eq_ok hslots).mp (List.mem_map_of_mem hk)
  cases draft with
  | stray v => cases hdraft
  | made parts =>
    simp only [ClassDraft.build, bind_eq_ok_iff, pure_eq_ok_iff, Slot.made.injEq] at hdraft
    obtain ⟨_, hbuilt, rfl⟩ := hdraft
    exact ⟨parts, hbuilt⟩

/-- A project that was built from a description repeats nothing. -/
theorem ProjectDraft.distinct_of_build {d : ProjectDraft} {p : Project} (h : d.build = .ok p) :
    p.Distinct := by
  obtain ⟨hparts, hautoloads⟩ := ProjectDraft.exists_parts_of_build h
  have hclasses : ∀ k ∈ p.classes, k.Distinct := by
    intro k hk
    obtain ⟨parts, hbuilt⟩ := hparts k hk
    exact ClassParts.distinct_of_build hbuilt
  exact ⟨hclasses, fun a ha ↦ hclasses a (hautoloads a ha)⟩

/-! ### The arranged form -/

/-- A method with its sets in increasing order. -/
def Method.arranged (m : Method) : Method :=
  { m with calls := sortedSet m.calls, accesses := sortedSet m.accesses }

/-- A class with its sets, and those of its methods, in increasing order. -/
def Class.arranged (k : Class) : Class :=
  { k with
    fields := sortedSet k.fields
    methods := k.methods.map Method.arranged
    exportedFields := sortedSet k.exportedFields
    typedFields := sortedSet k.typedFields }

/-- A project with the sets of its classes in increasing order. -/
def Project.arranged (p : Project) : Project :=
  { p with
    classes := p.classes.map Class.arranged
    autoloads := p.autoloads.map Class.arranged }

/-- Related entries that a function takes to the same value give the same list of values. -/
theorem map_eq_of_forall₂ {α β : Type} {R : α → α → Prop} {f : α → β} {xs ys : List α}
    (h : List.Forall₂ R xs ys) (hf : ∀ a b, R a b → f a = f b) : xs.map f = ys.map f := by
  induction h with
  | nil => rfl
  | cons hxy _ ih => rw [List.map_cons, List.map_cons, hf _ _ hxy, ih]

theorem Method.Rearranges.arranged_eq {m n : Method} (h : m.Rearranges n) :
    m.arranged = n.arranged := by
  simp only [Method.arranged, h.name, h.parameters, h.lines, h.startLine,
    sortedSet_eq_of_perm h.calls, sortedSet_eq_of_perm h.accesses]

theorem Class.Rearranges.arranged_eq {k l : Class} (h : k.Rearranges l) :
    k.arranged = l.arranged := by
  simp only [Class.arranged, h.name, h.parent, h.autoload, h.filePath,
    sortedSet_eq_of_perm h.fields, sortedSet_eq_of_perm h.exportedFields,
    sortedSet_eq_of_perm h.typedFields,
    map_eq_of_forall₂ h.methods fun _ _ h ↦ h.arranged_eq]

theorem Project.Rearranges.arranged_eq {p q : Project} (h : p.Rearranges q) :
    p.arranged = q.arranged := by
  simp only [Project.arranged, h.name, h.scenes, h.signals,
    map_eq_of_forall₂ h.classes fun _ _ h ↦ h.arranged_eq,
    map_eq_of_forall₂ h.autoloads fun _ _ h ↦ h.arranged_eq]

end CodeSmells
