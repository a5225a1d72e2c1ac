import CodeSmells.Proofs.Metric.Resolution

/-!
# The search for a method among the parents

The search for a method goes from a class to its parent and on, and keeps the names of the classes
it has looked at. A project may name parents in a circle, and nothing else bounds the search but
those names. It is written with fuel; here it is told without. `SearchEnds` is a run of the search
to its end, one step for each class and of any length but finite, and `SearchReaches` says where a
search can come to. Each place that is reached lies on the line of parents with the names passed on
the way (`SearchReaches.passed`).

`lookupInherited_finds_nearest` says that the search always ends, and with what. The fuel is never
used up before (`searchEnds_lookupFrom`). A name that is met again ends the search, and nothing is
lost by that: a name stands for one class, the first of that name in the project, so the classes
from there on are those that have been looked at already.
-/

set_option autoImplicit false
set_option relaxedAutoImplicit false

namespace CodeSmells.Project

/-- What a search for a method ends with, when it has seen some names and stands at a class or past
the last one. -/
inductive SearchEnds (p : Project) (method : String) :
    List String → Option Class → Option String → Prop
  | past (seen : List String) : SearchEnds p method seen none none
  | again {seen : List String} {k : Class} (hseen : k.name ∈ seen) :
      SearchEnds p method seen (some k) none
  | here {seen : List String} {k : Class} (hnew : k.name ∉ seen)
      (hdeclares : method ∈ k.methodNames) : SearchEnds p method seen (some k) (some k.name)
  | above {seen : List String} {k : Class} {found : Option String} (hnew : k.name ∉ seen)
      (hlacks : method ∉ k.methodNames)
      (hends : SearchEnds p method (k.name :: seen) (p.parentClass k) found) :
      SearchEnds p method seen (some k) found

/-- A search for a method from a starting place comes to have seen some names and to stand at a
class or past the last one. -/
inductive SearchReaches (p : Project) (method : String) (start : Option Class) :
    List String → Option Class → Prop
  | start : SearchReaches p method start [] start
  | above {seen : List String} {k : Class} (hreached : SearchReaches p method start seen (some k))
      (hnew : k.name ∉ seen) (hlacks : method ∉ k.methodNames) :
      SearchReaches p method start (k.name :: seen) (p.parentClass k)

section Search

variable {p : Project} {method : String} {start current : Option Class} {seen : List String}

/-- A search ends in one way only. -/
theorem SearchEnds.unique {found found' : Option String}
    (h : p.SearchEnds method seen current found) (h' : p.SearchEnds method seen current found') :
    found = found' := by
  induction h with
  | past => cases h'; rfl
  | again hseen =>
    cases h' with
    | again => rfl
    | here hnew => exact absurd hseen hnew
    | above hnew => exact absurd hseen hnew
  | here hnew hdeclares =>
    cases h' with
    | again hseen => exact absurd hseen hnew
    | here => rfl
    | above _ hlacks => exact absurd hdeclares hlacks
  | above hnew hlacks _ ih =>
    cases h' with
    | again hseen => exact absurd hseen hnew
    | here _ hdeclares => exact absurd hdeclares hlacks
    | above _ _ hends => exact ih hends

/-- Fuel for the names that are left is enough for a search to end. -/
theorem Passed.searchEnds_lookupFrom {n : ℕ} (h : Passed p start method seen n)
    (hstart : p.ByName start) {fuel : ℕ} (hfuel : p.classes.length < fuel + seen.length) :
    p.SearchEnds method seen (p.line start n) (p.lookupFrom method fuel seen (p.line start n)) := by
  induction fuel generalizing seen n with
  | zero =>
    have hle := h.length_le hstart
    omega
  | succ fuel ih =>
    cases hk : p.line start n with
    | none =>
      rw [lookupFrom_none]
      exact .past seen
    | some k =>
      rw [lookupFrom_some]
      split_ifs with hseen hdeclares
      · exact .again hseen
      · exact .here hseen hdeclares
      · have hnext : p.line start (n + 1) = p.parentClass k := by
          rw [line_succ, hk, Option.bind_some]
        refine .above hseen hdeclares ?_
        rw [← hnext]
        refine ih (h.cons hk hseen hdeclares) ?_
        rw [List.length_cons]
        omega

/-- A search stands on the line of its start, and has passed the classes before. -/
theorem SearchReaches.passed (h : p.SearchReaches method start seen current) :
    ∃ n, p.line start n = current ∧ Passed p start method seen n := by
  induction h with
  | start => exact ⟨0, rfl, Passed.nil p start method⟩
  | above _ hnew hlacks ih =>
    obtain ⟨n, hk, hpassed⟩ := ih
    refine ⟨n + 1, ?_, hpassed.cons hk hnew hlacks⟩
    rw [line_succ, hk, Option.bind_some]

/-- A class at which a search meets a name again does not declare the method, and no class above it
does. -/
theorem SearchReaches.lacks_of_mem (hstart : p.ByName start) {k : Class}
    (h : p.SearchReaches method start seen (some k)) (hseen : k.name ∈ seen) :
    Lacks (p.line (some k)) method := by
  obtain ⟨n, hk, hpassed⟩ := h.passed
  intro d l hl
  refine hpassed.lacks_of_mem hstart hk hseen (n + d) l ?_
  rw [line_add, hk, hl]

end Search

/-- The search for a method, whatever the project, with parents that are missing or run in a circle
and names of classes that are repeated. It always ends, after no more classes than the project has,
and in one way. It finds the name of the first class on the line of parents that declares the
method, and nothing exactly if no class on that line declares it, also where the line has no end.
Where a name that is met again ends it, neither the class of that name nor any above declares the
method. -/
theorem lookupInherited_finds_nearest (p : Project) (className method : String) :
    let start := p.findClass className
    (∀ found, p.SearchEnds method [] start found ↔ p.lookupInherited className method = found) ∧
    (∀ seen current, p.SearchReaches method start seen current →
      seen.length ≤ p.classes.length) ∧
    (∀ name, p.lookupInherited className method = some name ↔
      ∃ k, k.name = name ∧ Nearest (p.line start) method k) ∧
    (p.lookupInherited className method = none ↔ Lacks (p.line start) method) ∧
    ∀ seen k, p.SearchReaches method start seen (some k) → k.name ∈ seen →
      Lacks (p.line (some k)) method := by
  have hstart : p.ByName (p.findClass className) := byName_findClass className
  have hends : p.SearchEnds method [] (p.findClass className)
      (p.lookupInherited className method) :=
    (Passed.nil p _ method).searchEnds_lookupFrom hstart (Nat.lt_succ_self _)
  have hfinds : Finds (p.line (p.findClass className)) method
      (p.lookupInherited className method) := finds_lookupFrom hstart method
  refine ⟨fun found ↦ ⟨fun h ↦ hends.unique h, fun h ↦ h ▸ hends⟩, fun seen current h ↦ ?_,
    fun name ↦ ⟨fun hfound ↦ ?_, ?_⟩, ⟨fun hfound ↦ ?_, hfinds.eq_none⟩,
    fun seen k h hseen ↦ h.lacks_of_mem hstart hseen⟩
  · obtain ⟨n, -, hpassed⟩ := h.passed
    exact hpassed.length_le hstart
  · rw [hfound] at hfinds
    cases hfinds with
    | nearest k hk => exact ⟨k, rfl, hk⟩
  · rintro ⟨k, rfl, hk⟩
    exact hfinds.eq_some hk
  · rw [hfound] at hfinds
    cases hfinds with
    | nowhere hlacks => exact hlacks

end CodeSmells.Project
