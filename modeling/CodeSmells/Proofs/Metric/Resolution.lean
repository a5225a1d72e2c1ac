import CodeSmells.Proofs.Model.Growth
import Mathlib.Data.List.Perm.Subperm
import Mathlib.Logic.Function.Iterate

/-!
# Which method a call means

A call is resolved by names. Parents are names as well, so the parents of a class form a `line` that
may end at a name that no class has, and that may also run in a circle for ever. The search along a
line keeps the names it has passed and ends at the first name it meets again. This loses nothing:
a class that is found by its name is the first of that name, so once a name returns the whole line
repeats what was passed before (`Passed.lacks_of_mem`). Nor does the search run out of fuel, for the
names it has passed are distinct names of classes (`Passed.length_le`). So it ends with the nearest
class that declares the method, and with none exactly if the line has no such class
(`finds_lookupFrom`).

`resolveCallee_follows_order` says what a call means, whatever the project and the call: the nearest
declaration along the line that its qualifier selects, then the only declaration in the project, and
for calls on `super` the former only.
-/

set_option autoImplicit false
set_option relaxedAutoImplicit false

namespace CodeSmells

/-! ### Lines of parents -/

/-- A class is the first of a line that declares a method. -/
def Nearest (line : ℕ → Option Class) (method : String) (k : Class) : Prop :=
  ∃ n, line n = some k ∧ method ∈ k.methodNames ∧
    ∀ i < n, ∀ l, line i = some l → method ∉ l.methodNames

/-- No class of a line declares a method. -/
def Lacks (line : ℕ → Option Class) (method : String) : Prop :=
  ∀ n k, line n = some k → method ∉ k.methodNames

/-- What a search along a line ends with: the name of the nearest class that declares the method, or
nothing if none does. -/
inductive Finds (line : ℕ → Option Class) (method : String) : Option String → Prop
  | nearest (k : Class) (h : Nearest line method k) : Finds line method (some k.name)
  | nowhere (h : Lacks line method) : Finds line method none

section Line

variable {line : ℕ → Option Class} {method : String}

theorem Nearest.unique {k l : Class} (hk : Nearest line method k) (hl : Nearest line method l) :
    k = l := by
  obtain ⟨n, hn, hdeclares, hbefore⟩ := hk
  obtain ⟨m, hm, hdeclares', hbefore'⟩ := hl
  rcases Nat.lt_trichotomy n m with hlt | rfl | hlt
  · exact absurd hdeclares (hbefore' n hlt k hn)
  · exact Option.some.inj (hn.symm.trans hm)
  · exact absurd hdeclares' (hbefore m hlt l hm)

theorem Finds.eq_some {found : Option String} (h : Finds line method found) {k : Class}
    (hk : Nearest line method k) : found = some k.name := by
  cases h with
  | nearest l hl => rw [hl.unique hk]
  | nowhere hlacks =>
    obtain ⟨n, hn, hdeclares, -⟩ := hk
    exact absurd hdeclares (hlacks n k hn)

theorem Finds.eq_none {found : Option String} (h : Finds line method found)
    (hlacks : Lacks line method) : found = none := by
  cases h with
  | nearest k hk =>
    obtain ⟨n, hn, hdeclares, -⟩ := hk
    exact absurd hdeclares (hlacks n k hn)
  | nowhere => rfl

end Line

namespace Project

variable (p : Project)

/-- The class that a class names as its parent; none when it names none or one that is not there. -/
def parentClass (k : Class) : Option Class :=
  k.parent.bind p.findClass

/-- The classes from a class upwards, parent by parent; none past the last. -/
def line (start : Option Class) (n : ℕ) : Option Class :=
  (fun k ↦ k.bind p.parentClass)^[n] start

/-- The classes that declare a method, in order. -/
def declaring (method : String) : List Class :=
  p.classes.filter fun k ↦ method ∈ k.methodNames

variable {p} {start : Option Class}

theorem line_succ (n : ℕ) : p.line start (n + 1) = (p.line start n).bind p.parentClass :=
  Function.iterate_succ_apply' _ n start

theorem line_add (n d : ℕ) : p.line start (n + d) = p.line (p.line start n) d := by
  rw [Nat.add_comm, line, Function.iterate_add_apply]
  rfl

theorem line_none (d : ℕ) : p.line none d = none := by
  induction d with
  | zero => rfl
  | succ d ih => rw [line_succ, ih, Option.bind_none]

theorem name_of_findClass {name : String} {k : Class} (h : p.findClass name = some k) :
    k.name = name := by
  simpa using List.find?_some h

theorem mem_of_findClass {name : String} {k : Class} (h : p.findClass name = some k) :
    k ∈ p.classes :=
  List.mem_of_find?_eq_some h

variable (p) in
/-- A class that is found by its own name, if there is one. -/
def ByName (start : Option Class) : Prop :=
  ∀ k, start = some k → p.findClass k.name = some k

theorem byName_findClass (name : String) : p.ByName (p.findClass name) := by
  intro k hk
  rw [name_of_findClass hk, hk]

theorem byName_parentClass (k : Class) : p.ByName (p.parentClass k) := by
  intro l hl
  obtain ⟨name, -, hname⟩ := Option.bind_eq_some_iff.mp hl
  exact byName_findClass name l hname

theorem byName_bind_parentClass (start : Option Class) : p.ByName (start.bind p.parentClass) := by
  intro l hl
  obtain ⟨k, -, hk⟩ := Option.bind_eq_some_iff.mp hl
  exact byName_parentClass k l hk

theorem byName_line (hstart : p.ByName start) (n : ℕ) : p.ByName (p.line start n) := by
  cases n with
  | zero => exact hstart
  | succ n =>
    rw [line_succ]
    exact byName_bind_parentClass _

/-! ### The search along a line -/

/-- A search has passed the first classes of a line: these have the names it has seen, each once, and
none of them declares the method. -/
structure Passed (p : Project) (start : Option Class) (method : String) (seen : List String)
    (n : ℕ) : Prop where
  distinct : seen.Nodup
  met : ∀ name ∈ seen, ∃ i < n, ∃ k, p.line start i = some k ∧ k.name = name
  lacking : ∀ i < n, ∀ k, p.line start i = some k → method ∉ k.methodNames

section Search

variable {method : String} {seen : List String} {n : ℕ}

theorem Passed.nil (p : Project) (start : Option Class) (method : String) :
    Passed p start method [] 0 :=
  ⟨List.nodup_nil, fun _ h ↦ (List.not_mem_nil h).elim, fun i h ↦ (Nat.not_lt_zero i h).elim⟩

theorem Passed.cons (h : Passed p start method seen n) {k : Class}
    (hk : p.line start n = some k) (hnew : k.name ∉ seen) (hlacks : method ∉ k.methodNames) :
    Passed p start method (k.name :: seen) (n + 1) where
  distinct := List.nodup_cons.mpr ⟨hnew, h.distinct⟩
  met name hname := by
    rcases List.mem_cons.mp hname with rfl | hname
    · exact ⟨n, Nat.lt_succ_self n, k, hk, rfl⟩
    · obtain ⟨i, hi, l, hl, hlname⟩ := h.met name hname
      exact ⟨i, Nat.lt_succ_of_lt hi, l, hl, hlname⟩
  lacking i hi l hl := by
    rcases Nat.lt_succ_iff_lt_or_eq.mp hi with hi | rfl
    · exact h.lacking i hi l hl
    · rwa [← Option.some.inj (hk.symm.trans hl)]

/-- A search passes no more names than there are classes. -/
theorem Passed.length_le (h : Passed p start method seen n) (hstart : p.ByName start) :
    seen.length ≤ p.classes.length := by
  have hsubset : seen ⊆ p.classNames := by
    intro name hname
    obtain ⟨i, -, k, hk, rfl⟩ := h.met name hname
    exact List.mem_map_of_mem (mem_of_findClass (byName_line hstart i k hk))
  have hle := (List.subperm_of_subset h.distinct hsubset).length_le
  rwa [classNames, List.length_map] at hle

/-- A line that has ended has no more classes. -/
theorem Passed.lacks_of_none (h : Passed p start method seen n) (hnone : p.line start n = none) :
    Lacks (p.line start) method := by
  intro i k hk
  rcases Nat.lt_or_ge i n with hi | hi
  · exact h.lacking i hi k hk
  · obtain ⟨d, rfl⟩ := Nat.exists_eq_add_of_le hi
    rw [line_add, hnone, line_none] at hk
    cases hk

/-- A line that meets a name again repeats what was passed. -/
theorem Passed.lacks_of_mem (h : Passed p start method seen n) (hstart : p.ByName start)
    {k : Class} (hk : p.line start n = some k) (hseen : k.name ∈ seen) :
    Lacks (p.line start) method := by
  obtain ⟨j, hj, l, hl, hname⟩ := h.met k.name hseen
  have hagain : p.line start n = p.line start j := by
    rw [hk, hl, ← byName_line hstart n k hk, ← byName_line hstart j l hl, hname]
  -- Beyond the place where it closes, the circle leads back by its length.
  intro i
  induction i using Nat.strongRecOn with
  | _ i ih =>
    intro m hm
    rcases Nat.lt_or_ge i n with hi | hi
    · exact h.lacking i hi m hm
    · obtain ⟨d, rfl⟩ := Nat.exists_eq_add_of_le hi
      refine ih (j + d) (by omega) m ?_
      rw [line_add, ← hagain, ← line_add, hm]

theorem lookupFrom_none (fuel : ℕ) (seen : List String) :
    p.lookupFrom method fuel seen none = none := by
  cases fuel <;> rfl

theorem lookupFrom_some (fuel : ℕ) (seen : List String) (k : Class) :
    p.lookupFrom method (fuel + 1) seen (some k) =
      if k.name ∈ seen then none
      else if method ∈ k.methodNames then some k.name
      else p.lookupFrom method fuel (k.name :: seen) (p.parentClass k) := by
  rw [lookupFrom]
  simp only [List.contains_iff_mem, Class.hasMethod_iff, parentClass]
  cases k.parent with
  | none => simp only [Option.bind_none, lookupFrom_none]
  | some parent => simp only [Option.bind_some]

/-- From wherever it has come, and with fuel for the names that are left, a search ends with what
the line has to offer. -/
theorem Passed.finds_lookupFrom (h : Passed p start method seen n) (hstart : p.ByName start)
    {fuel : ℕ} (hfuel : p.classes.length < fuel + seen.length) :
    Finds (p.line start) method (p.lookupFrom method fuel seen (p.line start n)) := by
  induction fuel generalizing seen n with
  | zero =>
    have hle := h.length_le hstart
    omega
  | succ fuel ih =>
    cases hk : p.line start n with
    | none => exact .nowhere (h.lacks_of_none hk)
    | some k =>
      rw [lookupFrom_some]
      split_ifs with hseen hdeclares
      · exact .nowhere (h.lacks_of_mem hstart hk hseen)
      · exact .nearest k ⟨n, hk, hdeclares, h.lacking⟩
      · have hnext : p.line start (n + 1) = p.parentClass k := by
          rw [line_succ, hk, Option.bind_some]
        rw [← hnext]
        refine ih (h.cons hk hseen hdeclares) ?_
        rw [List.length_cons]
        omega

/-- A search that starts at a class found by its name ends with what its line has to offer. -/
theorem finds_lookupFrom (hstart : p.ByName start) (method : String) :
    Finds (p.line start) method (p.lookupFrom method (p.classes.length + 1) [] start) :=
  (Passed.nil p start method).finds_lookupFrom hstart (by simp)

end Search

/-! ### Calls -/

section Calls

variable {e : CallEdge}

theorem filter_hasMethod (method : String) :
    (p.classes.filter fun k ↦ k.hasMethod method) = p.declaring method :=
  List.filter_congr fun k _ ↦ by rw [Bool.eq_iff_iff, Class.hasMethod_iff, decide_eq_true_iff]

theorem uniqueOwner_eq_some_iff {method owner : String} :
    p.uniqueOwner method = some owner ↔ ∃ k, p.declaring method = [k] ∧ k.name = owner := by
  rw [uniqueOwner, filter_hasMethod]
  rcases p.declaring method with _ | ⟨k, _ | ⟨l, rest⟩⟩ <;> simp

theorem uniqueOwner_eq_none_iff {method : String} :
    p.uniqueOwner method = none ↔ (p.declaring method).length ≠ 1 := by
  rw [uniqueOwner, filter_hasMethod]
  rcases p.declaring method with _ | ⟨k, _ | ⟨l, rest⟩⟩ <;> simp

theorem resolveCallee_eq_of_super (h : e.qualifier = "super") :
    p.resolveCallee e =
      (p.lookupFrom e.target (p.classes.length + 1) []
        ((p.findClass e.caller).bind p.parentClass)).map (·, e.target) := by
  have hbare : (e.qualifier == "" || e.qualifier == "self") = false := by rw [h]; decide
  have hsuper : (e.qualifier == "super") = true := by rw [h]; decide
  simp only [resolveCallee, hbare, hsuper, Bool.false_eq_true, ↓reduceIte]
  cases p.findClass e.caller with
  | none => rfl
  | some k =>
    simp only [Option.bind_some, parentClass]
    cases k.parent with
    | none => rfl
    | some parent =>
      simp only [lookupInherited, Option.bind_some]
      cases p.lookupFrom e.target (p.classes.length + 1) [] (p.findClass parent) <;> rfl

/-- A call is looked up along a line, and in the whole project where that finds nothing. -/
def LooksUp (p : Project) (start : Option Class) (e : CallEdge) : Prop :=
  p.resolveCallee e = ((p.lookupFrom e.target (p.classes.length + 1) [] start).or
    (p.uniqueOwner e.target)).map (·, e.target)

theorem looksUp_caller (h : e.qualifier = "" ∨ e.qualifier = "self") :
    p.LooksUp (p.findClass e.caller) e := by
  have hbare : (e.qualifier == "" || e.qualifier == "self") = true := by simpa using h
  have hsuper : (e.qualifier == "super") = false := by
    rcases h with h | h <;> rw [h] <;> decide
  simp only [LooksUp, resolveCallee, hbare, hsuper, Bool.false_eq_true, ↓reduceIte, lookupInherited]
  cases p.lookupFrom e.target (p.classes.length + 1) [] (p.findClass e.caller) <;> rfl

theorem looksUp_qualifier (h : e.qualifier ∉ ["", "self", "super"]) :
    p.LooksUp (p.findClass e.qualifier) e := by
  have hbare : (e.qualifier == "" || e.qualifier == "self") = false := by simp_all
  have hsuper : (e.qualifier == "super") = false := by simp_all
  simp only [LooksUp, resolveCallee, hbare, hsuper, Bool.false_eq_true, ↓reduceIte, lookupInherited]
  cases p.lookupFrom e.target (p.classes.length + 1) [] (p.findClass e.qualifier) <;> rfl

/-- A call means the nearest declaration along a line; where the line has none, the only declaration
in the project; and nothing when there is not one only. -/
structure ResolvesAlong (p : Project) (start : Option Class) (e : CallEdge) : Prop where
  nearest : ∀ k, Nearest (p.line start) e.target k →
    p.resolveCallee e = some (k.name, e.target)
  unique : Lacks (p.line start) e.target → ∀ k, p.declaring e.target = [k] →
    p.resolveCallee e = some (k.name, e.target)
  none_iff : Lacks (p.line start) e.target →
    (p.resolveCallee e = none ↔ (p.declaring e.target).length ≠ 1)

theorem LooksUp.resolvesAlong (h : p.LooksUp start e) (hstart : p.ByName start) :
    p.ResolvesAlong start e where
  nearest k hk := by
    rw [h, (finds_lookupFrom hstart e.target).eq_some hk]
    rfl
  unique hlacks k hk := by
    rw [h, (finds_lookupFrom hstart e.target).eq_none hlacks, Option.none_or,
      uniqueOwner_eq_some_iff.mpr ⟨k, hk, rfl⟩, Option.map_some]
  none_iff hlacks := by
    rw [h, (finds_lookupFrom hstart e.target).eq_none hlacks, Option.none_or,
      Option.map_eq_none_iff, uniqueOwner_eq_none_iff]

/-- Some class of a project has a name and declares a method. -/
def Declared (p : Project) (className method : String) : Prop :=
  ∃ k ∈ p.classes, k.name = className ∧ method ∈ k.methodNames

theorem declared_of_lookupFrom (hstart : p.ByName start) {method owner : String}
    (h : p.lookupFrom method (p.classes.length + 1) [] start = some owner) :
    p.Declared owner method := by
  have hfinds := finds_lookupFrom hstart method
  rw [h] at hfinds
  cases hfinds with
  | nearest k hk =>
    obtain ⟨n, hn, hdeclares, -⟩ := hk
    exact ⟨k, mem_of_findClass (byName_line hstart n k hn), rfl, hdeclares⟩

theorem declared_of_uniqueOwner {method owner : String} (h : p.uniqueOwner method = some owner) :
    p.Declared owner method := by
  obtain ⟨k, hk, rfl⟩ := uniqueOwner_eq_some_iff.mp h
  have hmem : k ∈ p.declaring method := hk ▸ List.mem_singleton_self k
  obtain ⟨hclass, hdeclares⟩ := List.mem_filter.mp hmem
  exact ⟨k, hclass, rfl, of_decide_eq_true hdeclares⟩

theorem LooksUp.declared (h : p.LooksUp start e) (hstart : p.ByName start) {c m : String}
    (hc : p.resolveCallee e = some (c, m)) : m = e.target ∧ p.Declared c m := by
  rw [h] at hc
  obtain ⟨owner, howner, heq⟩ := Option.map_eq_some_iff.mp hc
  cases heq
  refine ⟨rfl, ?_⟩
  rcases Option.or_eq_some_iff.mp howner with hfound | ⟨-, hunique⟩
  · exact declared_of_lookupFrom hstart hfound
  · exact declared_of_uniqueOwner hunique

theorem declared_of_resolveCallee {c m : String} (hc : p.resolveCallee e = some (c, m)) :
    m = e.target ∧ p.Declared c m := by
  by_cases hbare : e.qualifier = "" ∨ e.qualifier = "self"
  · exact (looksUp_caller hbare).declared (byName_findClass _) hc
  · by_cases hsuper : e.qualifier = "super"
    · rw [resolveCallee_eq_of_super hsuper] at hc
      obtain ⟨owner, howner, heq⟩ := Option.map_eq_some_iff.mp hc
      cases heq
      exact ⟨rfl, declared_of_lookupFrom (byName_bind_parentClass _) howner⟩
    · exact (looksUp_qualifier (by simp_all)).declared (byName_findClass _) hc

/-- What a call means, whatever the project and the call, also where names of classes are repeated
and where parents are missing or run in a circle. If a call means something, this is its target in a
class of the project that declares it. A bare call and a call on `self` mean the nearest declaration
along the line of the caller, and a call on anything else but `super` the nearest along the line of
the class that has the whole qualifier as its name; where that line has none, the only declaration in
the project, and nothing exactly if there is not one only. A call on `super` means the nearest
declaration along the line of the caller's parent, and nothing where that line has none. -/
theorem resolveCallee_follows_order (p : Project) (e : CallEdge) :
    (∀ c m, p.resolveCallee e = some (c, m) →
      m = e.target ∧ ∃ k ∈ p.classes, k.name = c ∧ m ∈ k.methodNames) ∧
    (e.qualifier = "" ∨ e.qualifier = "self" → p.ResolvesAlong (p.findClass e.caller) e) ∧
    (e.qualifier ∉ ["", "self", "super"] → p.ResolvesAlong (p.findClass e.qualifier) e) ∧
    (e.qualifier = "super" →
      let above := p.line ((p.findClass e.caller).bind p.parentClass)
      (∀ k, Nearest above e.target k → p.resolveCallee e = some (k.name, e.target)) ∧
        (Lacks above e.target → p.resolveCallee e = none)) := by
  refine ⟨fun c m ↦ declared_of_resolveCallee, fun hbare ↦ ?_, fun hother ↦ ?_, fun hsuper ↦ ?_⟩
  · exact (looksUp_caller hbare).resolvesAlong (byName_findClass _)
  · exact (looksUp_qualifier hother).resolvesAlong (byName_findClass _)
  · have hfinds := finds_lookupFrom
      (byName_bind_parentClass (p := p) (p.findClass e.caller)) e.target
    rw [resolveCallee_eq_of_super hsuper]
    refine ⟨fun k hk ↦ ?_, fun hlacks ↦ ?_⟩
    · rw [hfinds.eq_some hk, Option.map_some]
    · rw [hfinds.eq_none hlacks, Option.map_none]

-- Two classes that name each other as parents declare nothing: the search ends, and the only
-- declaration in the project is taken, but not for a call on `super`.
example :
    let bare (name parent : String) : Class :=
      { (default : Class) with name := name, parent := some parent }
    let p : Project := { (default : Project) with classes := [bare "Tide" "Moon", bare "Moon" "Tide",
      { (default : Class) with
        name := "Harbour", methods := [{ (default : Method) with name := "rise" }] }] }
    p.resolveCallee ⟨"Tide", "rise"⟩ = some ("Harbour", "rise") ∧
      p.resolveCallee ⟨"Tide", "super.rise"⟩ = none := by
  decide +kernel

end Calls

end Project

end CodeSmells
