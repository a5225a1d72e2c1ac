import CodeSmells.Proofs.Detector.Reasons

/-!
# The fields of a reason

A reason for which a class changes lists the fields that go with its methods. A field goes with a
method when, in lower case, it occurs in the method's name, or the first word of that name occurs in
the field (`GoesWith`); the words of a name are what stands between its underscores, empty parts
left out. The detector takes what precedes the first underscore instead. For most names this is the
first word. For a name that starts with an underscore it is the empty text, which occurs in every
field (`isRelated_iff`).

So the fields of a reason are those that go with one of its methods, as long as none of these is
named with an underscore in front, as callbacks often are. One such method is enough for the reason
to list every field of the class (`affected_fields_go_with_iff`).
-/

set_option autoImplicit false
set_option relaxedAutoImplicit false

namespace CodeSmells.DivergentChange

open Text (lower occursIn splitAtChars)

/-! ### Words of a name -/

/-- The first part of a name between underscores that is not empty. -/
def firstWord? (name : List Char) : Option (List Char) :=
  (splitAtChars (· == '_') name).find? fun part ↦ !part.isEmpty

/-- The first part between separators is all before the first separator. -/
theorem exists_splitOnP_eq {α : Type} (p : α → Bool) (cs : List α) :
    ∃ parts, cs.splitOnP p = (cs.takeWhile fun c ↦ !p c) :: parts := by
  induction cs with
  | nil => exact ⟨[], List.splitOnP_nil⟩
  | cons c cs ih =>
    obtain ⟨parts, hparts⟩ := ih
    rw [List.splitOnP_cons_eq_if_modifyHead, List.takeWhile_cons]
    cases p c with
    | true => exact ⟨_, rfl⟩
    | false => exact ⟨parts, by rw [hparts]; rfl⟩

theorem firstWord?_cons {c : Char} (hc : c ≠ '_') (cs : List Char) :
    firstWord? (c :: cs) = some ((c :: cs).takeWhile (· != '_')) := by
  obtain ⟨parts, hparts⟩ := exists_splitOnP_eq (· == '_') (c :: cs)
  have hfirst : (c :: cs).takeWhile (· != '_') = c :: cs.takeWhile (· != '_') :=
    List.takeWhile_cons_of_pos (by simpa using hc)
  rw [firstWord?, splitAtChars, hparts]
  refine List.find?_cons_of_pos ?_
  show (!((c :: cs).takeWhile (· != '_')).isEmpty) = true
  rw [hfirst]
  rfl

/-! ### Fields and methods -/

/-- In lower case, the field occurs in the name of the method, or the first word of that name occurs
in the field. -/
def GoesWith (field method : String) : Prop :=
  occursIn (lower field.toList) (lower method.toList) = true ∨
    ∃ word ∈ firstWord? (lower method.toList), occursIn word (lower field.toList) = true

instance (field method : String) : Decidable (GoesWith field method) :=
  inferInstanceAs (Decidable (_ ∨ ∃ word ∈ firstWord? _, _))

/-- In lower case, the name starts with an underscore. -/
def Underscored (method : String) : Prop :=
  '_' ∈ (lower method.toList).head?

instance (method : String) : Decidable (Underscored method) :=
  inferInstanceAs (Decidable (_ ∈ _))

theorem occursIn_nil (cs : List Char) : occursIn [] cs = true := by
  cases cs <;> rfl

/-- The detector relates a field to the methods that it goes with and to all methods named with an
underscore in front. -/
theorem isRelated_iff {field method : String} (hne : lower method.toList ≠ []) :
    isRelated field method = true ↔ GoesWith field method ∨ Underscored method := by
  obtain ⟨c, cs, hname⟩ := List.exists_cons_of_ne_nil hne
  rw [isRelated, GoesWith, Underscored, Bool.or_eq_true, hname]
  by_cases hc : c = '_'
  · -- nothing precedes the underscore, and nothing occurs everywhere
    subst hc
    exact iff_of_true (Or.inr (occursIn_nil _)) (Or.inr rfl)
  · have hhead : '_' ∉ (c :: cs).head? := by simpa using hc
    rw [firstWord?_cons hc]
    simp only [Option.mem_some_iff, exists_eq_left', hhead, or_false]

/-! ### The fields of a reason -/

section Reasons

variable {k : Class} {r : Reason}

/-- The reasons that groups give are all but the unorganized one. -/
theorem mem_groupedReasons_iff :
    r ∈ groupedReasons k ↔
      r ∈ changeReasons k ∧ r.description ≠ "unorganized functionality" := by
  by_cases h : Unorganized k
  · rw [changeReasons_of_unorganized h, h.1, List.mem_singleton]
    constructor
    · exact nofun
    · rintro ⟨rfl, hname⟩
      exact (hname rfl).elim
  · rw [changeReasons_of_not_unorganized h]
    exact ⟨fun hr ↦ ⟨hr, description_ne_unorganized hr⟩, And.left⟩

theorem not_admits_nil (g : Group) : g.admits [] = false := by
  cases g <;> decide

/-- No method without a name is in a group. -/
theorem lower_ne_nil_of_mem (hr : r ∈ groupedReasons k) {method : String}
    (hmethod : method ∈ r.methods) : lower method.toList ≠ [] := by
  obtain ⟨g, -, rfl⟩ := List.mem_map.mp hr
  obtain ⟨m, hm, rfl⟩ := List.mem_map.mp hmethod
  have hgroup : changeGroup m.name = some g := by
    simpa using (List.mem_filter.mp hm).2
  have hadmits : g.admits (lower m.name.toList) = true := by
    simpa using List.find?_some hgroup
  intro hempty
  rw [hempty, not_admits_nil] at hadmits
  exact Bool.false_ne_true hadmits

/-- The fields of a reason are those of the class that are related to one of its methods. -/
theorem mem_fields_iff (hr : r ∈ groupedReasons k) {field : String} :
    field ∈ r.fields ↔
      field ∈ k.fieldNames ∧ ∃ method ∈ r.methods, GoesWith field method ∨ Underscored method := by
  have hrelated : field ∈ r.fields ↔
      field ∈ k.fieldNames ∧ ∃ method ∈ r.methods, isRelated field method = true := by
    obtain ⟨g, -, rfl⟩ := List.mem_map.mp hr
    simp only [relatedFields, List.mem_filter, List.any_eq_true, List.mem_map,
      exists_exists_and_eq_and]
  rw [hrelated]
  refine and_congr_right fun _ ↦ exists_congr fun method ↦ and_congr_right fun hmethod ↦ ?_
  exact isRelated_iff (lower_ne_nil_of_mem hr hmethod)

end Reasons

/-- Assumes: a reason of a class other than the unorganized one. It lists the fields of the class
that go with one of its methods, and all fields if one of its methods is named with an underscore in
front. So each field that it lists goes with one of its methods exactly if none of these is named
so, or all fields of the class go with one anyway. -/
theorem affected_fields_go_with_iff {k : Class} {r : Reason} (hr : r ∈ changeReasons k)
    (hgroup : r.description ≠ "unorganized functionality") :
    (∀ field, field ∈ r.fields ↔ field ∈ k.fieldNames ∧
      ((∃ method ∈ r.methods, GoesWith field method) ∨ ∃ method ∈ r.methods, Underscored method)) ∧
    ((∀ field ∈ r.fields, ∃ method ∈ r.methods, GoesWith field method) ↔
      ((∃ method ∈ r.methods, Underscored method) →
        ∀ field ∈ k.fieldNames, ∃ method ∈ r.methods, GoesWith field method)) := by
  have hlisted : ∀ field, field ∈ r.fields ↔ field ∈ k.fieldNames ∧
      ((∃ method ∈ r.methods, GoesWith field method) ∨
        ∃ method ∈ r.methods, Underscored method) := by
    intro field
    simp only [mem_fields_iff (mem_groupedReasons_iff.mpr ⟨hr, hgroup⟩), and_or_left, exists_or]
  refine ⟨hlisted, fun hall hunderscored field hfield ↦ ?_, fun hall field hfield ↦ ?_⟩
  · exact hall field ((hlisted field).mpr ⟨hfield, Or.inr hunderscored⟩)
  · obtain ⟨hfield, hgoes | hunderscored⟩ := (hlisted field).mp hfield
    · exact hgoes
    · exact hall hunderscored field hfield

/-- A class with fields and methods of some names. -/
def named (fields methods : List String) : Class :=
  { (default : Class) with
    fields := fields
    methods := methods.map fun name ↦ { (default : Method) with name := name } }

/-- The reason of a class whose methods ask for its health and its armour. -/
def asking : Reason where
  description := "getters functionality"
  methods := ["get_Health", "has_armour"]
  fields := ["health", "target"]
  methodCount := 2

/-- Of three fields one occurs in the name of a method, in another a first word occurs, and the
third goes with no method and is not listed. -/
theorem affected_fields_go_with_iff_asking :
    asking ∈ changeReasons (named ["health", "mana", "target"] asking.methods) ∧
    asking.description ≠ "unorganized functionality" ∧
    (∀ field ∈ asking.fields, ∃ method ∈ asking.methods, GoesWith field method) ∧
    ¬∃ method ∈ asking.methods, GoesWith "mana" method := by
  have hr : asking ∈ changeReasons (named ["health", "mana", "target"] asking.methods) := by
    decide +kernel
  have hgroup : asking.description ≠ "unorganized functionality" := by decide
  obtain ⟨hlisted, hgoes⟩ := affected_fields_go_with_iff hr hgroup
  have hplain : ¬∃ method ∈ asking.methods, Underscored method := by decide +kernel
  refine ⟨hr, hgroup, hgoes.mpr fun hunderscored ↦ (hplain hunderscored).elim, fun hmana ↦ ?_⟩
  have hlists : "mana" ∈ asking.fields := (hlisted "mana").mpr ⟨by decide +kernel, Or.inl hmana⟩
  exact absurd hlists (by decide)

/-- The reason of two callbacks lists a field that goes with neither. -/
theorem callbacks_list_unrelated :
    ∃ r ∈ changeReasons (named ["hp"] ["_on_pressed", "_on_released"]),
      r.description = "handlers functionality" ∧
      ∃ field ∈ r.fields, ¬∃ method ∈ r.methods, GoesWith field method := by
  decide +kernel

end CodeSmells.DivergentChange
