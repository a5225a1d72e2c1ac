import CodeSmells.Model.Draft
import CodeSmells.Proofs.Model.NameSet
import Mathlib.Data.List.Forall2

/-!
# The entries that sets are built from

A description lists the calls and field accesses of a method and the fields of a class. They are
taken up as sets, so `SameEntries` relates two descriptions that list the same entries in other
orders and with other repetitions, where names are compared without the blanks around them; in
everything else the descriptions are the same. `build_of_sameEntries` shows that the two describe
one project: where the first is accepted, the second is, and what is built is equal.

Lists are checked entry by entry (`exists_mapM_eq_ok_iff`), and what comes out of the check has the
entries that went in (`mem_of_mapM_eq_ok`). So a list is accepted, and taken up as a set, by its
members alone (`edges_of_sameMembers`, `identifiers_of_sameNames`); from there the argument follows
the parts of a description upwards.
-/

set_option autoImplicit false
set_option relaxedAutoImplicit false

namespace CodeSmells

/-! ### Checks of lists -/

section Checks

variable {ε α β : Type}

theorem bind_eq_ok_iff {x : Except ε α} {f : α → Except ε β} {b : β} :
    (x >>= f) = .ok b ↔ ∃ a, x = .ok a ∧ f a = .ok b := by
  cases x with
  | error e => exact ⟨nofun, nofun⟩
  | ok a => exact ⟨fun h ↦ ⟨a, rfl, h⟩, fun ⟨_, ha, h⟩ ↦ by cases ha; exact h⟩

theorem pure_eq_ok_iff {a b : α} : (pure a : Except ε α) = .ok b ↔ a = b :=
  ⟨fun h ↦ by cases h; rfl, congrArg Except.ok⟩

theorem mapError_eq_ok_iff {ε' : Type} {f : ε → ε'} {x : Except ε α} {a : α} :
    x.mapError f = .ok a ↔ x = .ok a := by
  cases x with
  | error e => exact ⟨nofun, nofun⟩
  | ok b => exact ⟨fun h ↦ by cases h; rfl, fun h ↦ by cases h; rfl⟩

theorem mapM_cons_eq_ok_iff {f : α → Except ε β} {x : α} {xs : List α} {ys : List β} :
    (x :: xs).mapM f = .ok ys ↔ ∃ y zs, f x = .ok y ∧ xs.mapM f = .ok zs ∧ ys = y :: zs := by
  simp only [List.mapM_cons, bind_eq_ok_iff, pure_eq_ok_iff]
  constructor
  · rintro ⟨y, hy, zs, hzs, rfl⟩
    exact ⟨y, zs, hy, hzs, rfl⟩
  · rintro ⟨y, zs, hy, hzs, rfl⟩
    exact ⟨y, hy, zs, hzs, rfl⟩

theorem mapM_congr {f g : α → Except ε β} {xs : List α} (h : ∀ x ∈ xs, f x = g x) :
    xs.mapM f = xs.mapM g := by
  induction xs with
  | nil => rfl
  | cons x xs ih =>
    rw [List.forall_mem_cons] at h
    rw [List.mapM_cons, List.mapM_cons, h.1, ih h.2]

/-- A list passes a check exactly when every entry does. -/
theorem exists_mapM_eq_ok_iff {f : α → Except ε β} {xs : List α} :
    (∃ ys, xs.mapM f = .ok ys) ↔ ∀ x ∈ xs, ∃ y, f x = .ok y := by
  induction xs with
  | nil => exact ⟨fun _ ↦ nofun, fun _ ↦ ⟨[], rfl⟩⟩
  | cons x xs ih =>
    simp only [mapM_cons_eq_ok_iff, List.forall_mem_cons, ← ih]
    constructor
    · rintro ⟨_, y, zs, hy, hzs, -⟩
      exact ⟨⟨y, hy⟩, zs, hzs⟩
    · rintro ⟨⟨y, hy⟩, zs, hzs⟩
      exact ⟨_, y, zs, hy, hzs, rfl⟩

/-- What comes out of a check are the results for the entries. -/
theorem mem_of_mapM_eq_ok {f : α → Except ε β} {xs : List α} {ys : List β}
    (h : xs.mapM f = .ok ys) {y : β} : y ∈ ys ↔ ∃ x ∈ xs, f x = .ok y := by
  induction xs generalizing ys with
  | nil =>
    cases h
    simp
  | cons x xs ih =>
    obtain ⟨z, zs, hz, hzs, rfl⟩ := mapM_cons_eq_ok_iff.mp h
    simp only [List.mem_cons, exists_eq_or_imp, ih hzs, hz, Except.ok.injEq, eq_comm (a := z)]

/-- Entries that pass a check with the same results pass it as lists with the same results. -/
theorem mapM_of_forall₂ {R : α → α → Prop} {f : α → Except ε β} {xs ys : List α}
    (h : List.Forall₂ R xs ys) (hstep : ∀ x y b, R x y → f x = .ok b → f y = .ok b)
    {bs : List β} (hbs : xs.mapM f = .ok bs) : ys.mapM f = .ok bs := by
  induction h generalizing bs with
  | nil => exact hbs
  | cons hxy _ ih =>
    obtain ⟨b, rest, hb, hrest, rfl⟩ := mapM_cons_eq_ok_iff.mp hbs
    exact mapM_cons_eq_ok_iff.mpr ⟨b, rest, hstep _ _ b hxy hb, ih hrest, rfl⟩

end Checks

/-! ### Edges -/

/-- Two lists with the same members, in whatever order and however often they are repeated. -/
def SameMembers {α : Type} (xs ys : List α) : Prop :=
  ∀ x, x ∈ xs ↔ x ∈ ys

section Edges

variable {α : Type}

/-- The entity in a slot. -/
def Slot.entity? : Slot α → Option α
  | .made e => some e
  | .stray _ => none

/-- A list of slots holds entities only when nothing in it is refused. -/
theorem onlyMade_eq_ok_iff {refuse : Value → ModelError} {slots : List (Slot α)} {es : List α} :
    onlyMade refuse slots = .ok es ↔ slots = es.map .made := by
  induction slots generalizing es with
  | nil => cases es <;> simp [onlyMade]
  | cons slot slots ih =>
    cases slot with
    | stray v => cases es <;> simp [onlyMade]
    | made a =>
      simp only [onlyMade, bind_eq_ok_iff, pure_eq_ok_iff, ih]
      constructor
      · rintro ⟨rest, rfl, rfl⟩
        rfl
      · intro h
        obtain ⟨a', rest, rfl, hfirst, hrest⟩ := List.map_eq_cons_iff.mp h.symm
        cases hfirst
        exact ⟨rest, hrest.symm, rfl⟩

theorem checkHashable_map_made (es : List α) : checkHashable (es.map Slot.made) = .ok () := by
  induction es with
  | nil => rfl
  | cons e es ih => exact ih

/-- Edges are accepted and gathered by the members of their list. -/
theorem edges_of_sameMembers {make : String → String → Except ModelError α}
    {ds ds' : List PairDraft} (h : SameMembers ds ds') {es : List α}
    (hes : ds.mapM (PairDraft.build make) = .ok (es.map .made)) :
    ∃ es', ds'.mapM (PairDraft.build make) = .ok (es'.map .made) ∧ SameMembers es es' := by
  have hmem : ∀ e, Slot.made e ∈ es.map Slot.made ↔ e ∈ es :=
    fun e ↦ by simp
  have haccepted : ∀ d ∈ ds', ∃ slot, d.build make = .ok slot := fun d hd ↦
    exists_mapM_eq_ok_iff.mp ⟨_, hes⟩ d ((h d).mpr hd)
  obtain ⟨slots, hslots⟩ := exists_mapM_eq_ok_iff.mpr haccepted
  have hsame : ∀ slot, slot ∈ slots ↔ slot ∈ es.map Slot.made := fun slot ↦ by
    rw [mem_of_mapM_eq_ok hslots, mem_of_mapM_eq_ok hes]
    exact exists_congr fun d ↦ and_congr_left fun _ ↦ (h d).symm
  -- Nothing but entities was accepted before, so nothing else is among the slots now.
  obtain ⟨es', rfl⟩ : ∃ es' : List α, slots = es'.map Slot.made := by
    refine ⟨slots.filterMap Slot.entity?, ?_⟩
    rw [List.map_filterMap]
    refine ((List.filterMap_congr fun slot hslot ↦ ?_).trans List.filterMap_some).symm
    obtain ⟨e, -, rfl⟩ := List.mem_map.mp ((hsame slot).mp hslot)
    rfl
  refine ⟨es', hslots, fun e ↦ ?_⟩
  rw [← hmem e, ← hsame]
  simp

end Edges

/-! ### Names -/

/-- A text without the blanks around it; other values as they are. -/
def Value.withoutBlanks : Value → Value
  | .text s => .text (Text.trimmed s)
  | v => v

theorem identifier_eq_ok_iff {v : Value} {name : String} :
    identifier v = .ok name ↔ v.withoutBlanks = .text name ∧ name ≠ "" := by
  cases v with
  | text s =>
    simp only [identifier, Value.withoutBlanks, beq_iff_eq, Value.text.injEq]
    split
    · next hblank =>
      refine ⟨fun h ↦ ?_, fun h ↦ absurd (h.1 ▸ hblank) h.2⟩
      cases h
    · next hname =>
      refine ⟨fun h ↦ ?_, fun h ↦ by rw [h.1]⟩
      cases h
      exact ⟨rfl, hname⟩
  | _ =>
    constructor <;> rintro ⟨⟩
    contradiction

/-- Two values list the same names, up to the blanks around them. -/
def SameNames (a b : Option Value) : Prop :=
  ∃ xs ys, listed a = .ok xs ∧ listed b = .ok ys ∧
    SameMembers (xs.map Value.withoutBlanks) (ys.map Value.withoutBlanks)

theorem identifiers_eq_ok_iff {what : String} {v : Option Value} {names : List String} :
    identifiers what v = .ok names ↔
      ∃ xs ns, listed v = .ok xs ∧ xs.mapM identifier = .ok ns ∧ names = sortedSet ns := by
  cases v with
  | none =>
    constructor
    · intro h
      cases h
      exact ⟨[], [], rfl, rfl, rfl⟩
    · rintro ⟨xs, ns, hxs, hns, rfl⟩
      cases hxs
      cases hns
      rfl
  | some v =>
    simp only [identifiers, listed]
    cases v.members? with
    | none => simp
    | some members =>
      simp only [bind_eq_ok_iff, pure_eq_ok_iff]
      constructor
      · rintro ⟨ns, hns, rfl⟩
        exact ⟨members, ns, rfl, hns, rfl⟩
      · rintro ⟨_, ns, hxs, hns, rfl⟩
        cases hxs
        exact ⟨ns, hns, rfl⟩

/-- Names are accepted and gathered by the names that are listed. -/
theorem identifiers_of_sameNames {what : String} {a b : Option Value} (h : SameNames a b)
    {names : List String} (ha : identifiers what a = .ok names) :
    identifiers what b = .ok names := by
  obtain ⟨xs, ys, hxs, hys, hsame⟩ := h
  obtain ⟨_, ns, hlisted, hns, rfl⟩ := identifiers_eq_ok_iff.mp ha
  cases hxs.symm.trans hlisted
  -- An entry of either list stands for the same name as an entry of the other.
  have hnamed : ∀ (zs : List Value) (name : String),
      (∃ z ∈ zs, identifier z = .ok name) ↔
        .text name ∈ zs.map Value.withoutBlanks ∧ name ≠ "" := by
    intro zs name
    simp only [identifier_eq_ok_iff, List.mem_map]
    exact ⟨fun ⟨z, hz, heq, hne⟩ ↦ ⟨⟨z, hz, heq⟩, hne⟩, fun ⟨⟨z, hz, heq⟩, hne⟩ ↦ ⟨z, hz, heq, hne⟩⟩
  have haccepted : ∀ y ∈ ys, ∃ name, identifier y = .ok name := by
    intro y hy
    obtain ⟨x, hx, heq⟩ := List.mem_map.mp ((hsame _).mpr (List.mem_map_of_mem hy))
    obtain ⟨name, hname⟩ := exists_mapM_eq_ok_iff.mp ⟨ns, hns⟩ x hx
    exact ⟨name, identifier_eq_ok_iff.mpr (heq ▸ identifier_eq_ok_iff.mp hname)⟩
  obtain ⟨ms, hms⟩ := exists_mapM_eq_ok_iff.mpr haccepted
  refine identifiers_eq_ok_iff.mpr ⟨ys, ms, hys, hms, sortedSet_eq_of_mem_iff fun name ↦ ?_⟩
  rw [mem_of_mapM_eq_ok hns, mem_of_mapM_eq_ok hms, hnamed, hnamed, hsame]

/-! ### Descriptions -/

/-- Two slots hold related entities, or the same stray value. -/
inductive Slot.Related {α : Type} (R : α → α → Prop) : Slot α → Slot α → Prop
  | made {a b : α} (h : R a b) : Slot.Related R (.made a) (.made b)
  | stray (v : Value) : Slot.Related R (.stray v) (.stray v)

/-- Two methods are described by the same calls and accesses, and alike in all else. -/
structure MethodParts.SameEntries (d d' : MethodParts) : Prop where
  name : d.name = d'.name
  parameters : d.parameters = d'.parameters
  lines : d.lines = d'.lines
  calls : SameMembers d.calls d'.calls
  accesses : SameMembers d.accesses d'.accesses
  startLine : d.startLine = d'.startLine

/-- Two classes are described by the same fields, exported fields and typed fields and by methods
with the same entries, and alike in all else. -/
structure ClassParts.SameEntries (d d' : ClassParts) : Prop where
  name : d.name = d'.name
  fields : SameNames d.fields d'.fields
  methods : List.Forall₂ (Slot.Related MethodParts.SameEntries) d.methods d'.methods
  parent : d.parent = d'.parent
  exportedFields : SameNames d.exportedFields d'.exportedFields
  autoload : d.autoload = d'.autoload
  filePath : d.filePath = d'.filePath
  typedFields : SameNames d.typedFields d'.typedFields

/-- Two autoloads are described by the same place, or by classes with the same entries. -/
inductive AutoloadDraft.SameEntries : AutoloadDraft → AutoloadDraft → Prop
  | index (n : Nat) : SameEntries (.index n) (.index n)
  | described {d d' : ClassDraft} (h : Slot.Related ClassParts.SameEntries d d') :
    SameEntries (.described d) (.described d')

/-- Two projects are described by classes with the same entries, and alike in all else. -/
structure ProjectDraft.SameEntries (d d' : ProjectDraft) : Prop where
  name : d.name = d'.name
  classes : List.Forall₂ (Slot.Related ClassParts.SameEntries) d.classes d'.classes
  scenes : d.scenes = d'.scenes
  autoloads : Option.Rel (List.Forall₂ AutoloadDraft.SameEntries) d.autoloads d'.autoloads
  signals : d.signals = d'.signals

theorem MethodParts.build_of_sameEntries {d d' : MethodParts} (h : d.SameEntries d') {m : Method}
    (hm : d.build = .ok m) : d'.build = .ok m := by
  simp only [MethodParts.build, bind_eq_ok_iff, pure_eq_ok_iff, onlyMade_eq_ok_iff] at hm ⊢
  obtain ⟨ps, hps, prepared, hprepared, cs, hcs, as, has, name, hname, lines, hlines, -, -, -, -,
    params, hparams, calls, rfl, accesses, rfl, rfl⟩ := hm
  obtain ⟨calls', hcalls, hsameCalls⟩ := edges_of_sameMembers h.calls hcs
  obtain ⟨accesses', haccesses, hsameAccesses⟩ := edges_of_sameMembers h.accesses has
  refine ⟨ps, h.parameters ▸ hps, prepared, h.lines ▸ hprepared, _, hcalls, _, haccesses, name,
    h.name ▸ hname, lines, hlines, (), checkHashable_map_made _, (), checkHashable_map_made _,
    params, hparams, calls', rfl, accesses', rfl, ?_⟩
  rw [sortedSet_eq_of_mem_iff hsameCalls, sortedSet_eq_of_mem_iff hsameAccesses, h.startLine]

theorem MethodDraft.build_of_sameEntries {d d' : MethodDraft}
    (h : Slot.Related MethodParts.SameEntries d d') {slot : Slot Method}
    (hslot : MethodDraft.build d = .ok slot) : MethodDraft.build d' = .ok slot := by
  cases h with
  | stray v => exact hslot
  | made hparts =>
    simp only [MethodDraft.build, bind_eq_ok_iff, pure_eq_ok_iff] at hslot ⊢
    obtain ⟨m, hm, rfl⟩ := hslot
    exact ⟨m, MethodParts.build_of_sameEntries hparts hm, rfl⟩

theorem ClassParts.build_of_sameEntries {d d' : ClassParts} (h : d.SameEntries d') {k : Class}
    (hk : d.build = .ok k) : d'.build = .ok k := by
  simp only [ClassParts.build, bind_eq_ok_iff, pure_eq_ok_iff] at hk ⊢
  obtain ⟨slots, hslots, name, hname, parent, hparent, fields, hfields, exported, hexported, typed,
    htyped, methods, hmethods, rfl⟩ := hk
  have hbuilt := mapM_of_forall₂ h.methods (fun _ _ _ h ↦ MethodDraft.build_of_sameEntries h) hslots
  refine ⟨slots, hbuilt, name, h.name ▸ hname, parent, h.parent ▸ hparent, fields,
    identifiers_of_sameNames h.fields hfields, exported,
    identifiers_of_sameNames h.exportedFields hexported, typed,
    identifiers_of_sameNames h.typedFields htyped, methods, hmethods, ?_⟩
  rw [h.autoload, h.filePath]

theorem ClassDraft.build_of_sameEntries {d d' : ClassDraft}
    (h : Slot.Related ClassParts.SameEntries d d') {slot : Slot Class}
    (hslot : ClassDraft.build d = .ok slot) : ClassDraft.build d' = .ok slot := by
  cases h with
  | stray v => exact hslot
  | made hparts =>
    simp only [ClassDraft.build, bind_eq_ok_iff, pure_eq_ok_iff] at hslot ⊢
    obtain ⟨k, hk, rfl⟩ := hslot
    exact ⟨k, ClassParts.build_of_sameEntries hparts hk, rfl⟩

theorem AutoloadDraft.resolve_of_sameEntries {classes : List (Slot Class)} {d d' : AutoloadDraft}
    (h : d.SameEntries d') {slot : Slot Class} (hslot : d.resolve classes = .ok slot) :
    d'.resolve classes = .ok slot := by
  cases h with
  | index n => exact hslot
  | described hclass => exact ClassDraft.build_of_sameEntries hclass hslot

/-- Descriptions with the same entries describe the same project. -/
theorem ProjectDraft.build_of_sameEntries {d d' : ProjectDraft} (h : d.SameEntries d')
    {p : Project} (hp : d.build = .ok p) : d'.build = .ok p := by
  simp only [ProjectDraft.build, bind_eq_ok_iff] at hp ⊢
  obtain ⟨classes, hclasses, autoloads, hautoloads, scenes, hscenes, signals, hsignals, made,
    hmade, loaded, hloaded, hproject⟩ := hp
  have hbuilt :=
    mapM_of_forall₂ h.classes (fun _ _ _ h ↦ ClassDraft.build_of_sameEntries h) hclasses
  refine ⟨classes, hbuilt, autoloads, ?_, scenes, h.scenes ▸ hscenes, signals, h.signals ▸ hsignals,
    made, h.name ▸ hmade, loaded, hloaded, h.name ▸ hproject⟩
  have hrefs := h.autoloads
  generalize d.autoloads = refs, d'.autoloads = refs' at hrefs hautoloads
  cases hrefs with
  | none => exact hautoloads
  | some hall =>
    exact mapM_of_forall₂ hall (fun _ _ _ h ↦ AutoloadDraft.resolve_of_sameEntries h) hautoloads

end CodeSmells
