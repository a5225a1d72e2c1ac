import CodeSmells.Proofs.Detector.Selection
import CodeSmells.Proofs.Detector.Totality
import CodeSmells.Proofs.Model.Growth
import CodeSmells.Proofs.Number.Order

/-!
# Comparing two runs of a detector

How does a verdict change when the code grows or a threshold moves? Both questions compare two runs
of one detector. `WhenBoth R x y` says that the answers of two computations are related by `R` if
both end with one; its rules follow the steps that detectors are made of. A comparison with a
threshold goes on to hold when the measure rises and the limit falls (`above_le`), and then a list
of selected findings grows (`filterM_covers`, `filterM_grows`).

Thresholds are compared by `Thresholds.Eases`: what is reported under some thresholds is reported
under easier ones as well. Most thresholds are limits and ease by falling. The keys in
`invitingKeys` ease by rising, since a class is lazy, a bequest refused or a class mere data when a
measure stays below them. No detector asks for the keys in `idleKeys`.

Verdicts are compared by their level (`Verdict.level`), the rank of the severity or nought when
nothing was detected. Severities are graded by the first condition that holds, from grave to slight,
so a grade does not fall when conditions come to hold (`Severity.grade_le`). What has to be shown of
two runs of a detector is that the first is no graver than the second (`NoGraver`), and
`Detector.severityLevel_le` carries it over to the results.
-/

set_option autoImplicit false
set_option relaxedAutoImplicit false

namespace CodeSmells

open List (SublistForall₂ Forall₂)

/-! ### Two computations that both answer -/

section WhenBoth

variable {α β γ δ : Type}

/-- If both computations end with an answer, the answers are related. -/
def WhenBoth (R : α → β → Prop) (x : Except Fault α) (y : Except Fault β) : Prop :=
  ∀ a b, x = .ok a → y = .ok b → R a b

namespace WhenBoth

theorem ok {R : α → β → Prop} {a : α} {b : β} (h : R a b) : WhenBoth R (.ok a) (.ok b) := by
  rintro _ _ ⟨⟩ ⟨⟩
  exact h

theorem refl {R : α → α → Prop} (hR : ∀ a, R a a) (x : Except Fault α) : WhenBoth R x x := by
  intro a b ha hb
  cases ha.symm.trans hb
  exact hR a

theorem of_eq {R : α → α → Prop} (hR : ∀ a, R a a) {x y : Except Fault α} (h : x = y) :
    WhenBoth R x y := by
  subst h
  exact refl hR x

theorem mono {R S : α → β → Prop} {x : Except Fault α} {y : Except Fault β} (h : WhenBoth R x y)
    (hRS : ∀ a b, R a b → S a b) : WhenBoth S x y :=
  fun a b ha hb ↦ hRS a b (h a b ha hb)

theorem bind {R : α → β → Prop} {S : γ → δ → Prop} {x : Except Fault α} {y : Except Fault β}
    {f : α → Except Fault γ} {g : β → Except Fault δ} (h : WhenBoth R x y)
    (hstep : ∀ a b, R a b → WhenBoth S (f a) (g b)) : WhenBoth S (x >>= f) (y >>= g) := by
  intro c d hc hd
  obtain ⟨a, ha, hc⟩ := bind_eq_ok_iff.mp hc
  obtain ⟨b, hb, hd⟩ := bind_eq_ok_iff.mp hd
  exact hstep a b (h a b ha hb) c d hc hd

/-- A test that is made under a condition, which may come to hold. -/
theorem guard {c c' : Bool} (hc : c ≤ c') {y y' : Except Fault Bool} (hy : WhenBoth (· ≤ ·) y y') :
    WhenBoth (· ≤ ·) (if c then y else .ok false) (if c' then y' else .ok false) := by
  cases c with
  | false =>
    rintro a b ⟨⟩ -
    exact Bool.false_le b
  | true =>
    cases hc rfl
    exact hy

/-- Of two flags the second holds when the first does, and a test follows where they hold. -/
theorem both {x x' y y' : Except Fault Bool} (hx : WhenBoth (· ≤ ·) x x')
    (hy : WhenBoth (· ≤ ·) y y') :
    WhenBoth (· ≤ ·) (do if ← x then y else return false) (do if ← x' then y' else return false) :=
  bind hx fun _ _ hab ↦ guard hab hy

/-- Of two flags the second holds when the first does, and a test follows where they do not hold. -/
theorem either {x x' y y' : Except Fault Bool} (hx : WhenBoth (· ≤ ·) x x')
    (hy : WhenBoth (· ≤ ·) y y') :
    WhenBoth (· ≤ ·) (do if ← x then return true else y) (do if ← x' then return true else y') := by
  refine bind hx fun a b hab ↦ ?_
  cases b with
  | true =>
    rintro c d - ⟨⟩
    exact Bool.le_true c
  | false =>
    cases a with
    | true => cases hab rfl
    | false => exact hy

end WhenBoth

/-- Whether a test keeps a member; what the test breaks off at is not kept. -/
def keeps (test : α → Except Fault Bool) (a : α) : Bool :=
  ((test a).toOption).getD false

theorem eq_ok_true_of_keeps {test : α → Except Fault Bool} {a : α} (h : keeps test a = true) :
    test a = .ok true := by
  rw [keeps] at h
  cases htest : test a with
  | error e =>
    rw [htest] at h
    cases h
  | ok b =>
    rw [htest] at h
    exact congrArg Except.ok h

/-- A selection ends exactly when every test does, and then it is a filter. -/
theorem filterM_eq_ok_iff {test : α → Except Fault Bool} {xs as : List α} :
    xs.filterM test = .ok as ↔
      (∀ x ∈ xs, test x = .ok (keeps test x)) ∧ as = xs.filter (keeps test) := by
  constructor
  · intro h
    have hall : ∀ x ∈ xs, test x = .ok (keeps test x) := by
      induction xs generalizing as with
      | nil => exact fun x hx ↦ (List.not_mem_nil hx).elim
      | cons x xs ih =>
        rw [filterM_cons] at h
        obtain ⟨b, hb, h⟩ := bind_eq_ok_iff.mp h
        obtain ⟨rest, hrest, -⟩ := bind_eq_ok_iff.mp h
        have hx : test x = .ok (keeps test x) := by
          rw [keeps, hb]
          rfl
        exact List.forall_mem_cons.mpr ⟨hx, ih hrest⟩
    rw [filterM_eq_ok hall] at h
    exact ⟨hall, (Except.ok.inj h).symm⟩
  · rintro ⟨hall, rfl⟩
    exact filterM_eq_ok hall

theorem filterM_grows {R : α → β → Prop} {test : α → Except Fault Bool}
    {test' : β → Except Fault Bool} {xs : List α} {ys : List β} (h : SublistForall₂ R xs ys)
    (htest : ∀ a b, R a b → WhenBoth (· ≤ ·) (test a) (test' b)) :
    WhenBoth (SublistForall₂ R) (xs.filterM test) (ys.filterM test') := by
  intro as bs has hbs
  obtain ⟨-, rfl⟩ := filterM_eq_ok_iff.mp has
  obtain ⟨hys, rfl⟩ := filterM_eq_ok_iff.mp hbs
  refine sublistForall₂_filter (fun a b hb hab ha ↦ ?_) h
  exact htest a b hab true _ (eq_ok_true_of_keeps ha) (hys b hb) rfl

theorem filterM_sublist {test test' : α → Except Fault Bool} (xs : List α)
    (htest : ∀ a, WhenBoth (· ≤ ·) (test a) (test' a)) :
    WhenBoth List.Sublist (xs.filterM test) (xs.filterM test') := by
  have hgrows : WhenBoth (SublistForall₂ Eq) (xs.filterM test) (xs.filterM test') := by
    refine filterM_grows (refl_of (SublistForall₂ Eq) xs) ?_
    rintro a _ rfl
    exact htest a
  exact hgrows.mono fun _ _ ↦ sublist_of_sublistForall₂_eq

theorem filterM_covers {R : α → β → Prop} {test : α → Except Fault Bool}
    {test' : β → Except Fault Bool} {xs : List α} {ys : List β} (h : ∀ a ∈ xs, ∃ b ∈ ys, R a b)
    (htest : ∀ a b, R a b → WhenBoth (· ≤ ·) (test a) (test' b)) :
    WhenBoth (fun as bs ↦ ∀ a ∈ as, ∃ b ∈ bs, R a b) (xs.filterM test) (ys.filterM test') := by
  intro as bs has hbs a ha
  obtain ⟨-, rfl⟩ := filterM_eq_ok_iff.mp has
  obtain ⟨hys, rfl⟩ := filterM_eq_ok_iff.mp hbs
  obtain ⟨ha, hkeeps⟩ := List.mem_filter.mp ha
  obtain ⟨b, hb, hab⟩ := h a ha
  refine ⟨b, List.mem_filter.mpr ⟨hb, ?_⟩, hab⟩
  exact htest a b hab true _ (eq_ok_true_of_keeps hkeeps) (hys b hb) rfl

theorem not_isEmpty_le {R : α → β → Prop} {as : List α} {bs : List β}
    (h : ∀ a ∈ as, ∃ b ∈ bs, R a b) : (!as.isEmpty) ≤ (!bs.isEmpty) := by
  cases as with
  | nil => exact Bool.false_le _
  | cons a as =>
    obtain ⟨b, hb, -⟩ := h a List.mem_cons_self
    rw [List.isEmpty_eq_false_iff.mpr (List.ne_nil_of_mem hb)]
    exact Bool.le_true _

theorem mapM_grows {R : α → β → Prop} {S : γ → δ → Prop} {f : α → Except Fault γ}
    {g : β → Except Fault δ} {xs : List α} {ys : List β} (h : SublistForall₂ R xs ys)
    (hstep : ∀ a b, R a b → WhenBoth S (f a) (g b)) :
    WhenBoth (SublistForall₂ S) (xs.mapM f) (ys.mapM g) := by
  induction h with
  | nil =>
    rintro cs ds ⟨⟩ -
    exact .nil
  | cons hab _ ih =>
    intro _ _ hleft hright
    obtain ⟨c, cs, hc, hcs, rfl⟩ := mapM_cons_eq_ok_iff.mp hleft
    obtain ⟨d, ds, hd, hds, rfl⟩ := mapM_cons_eq_ok_iff.mp hright
    exact .cons (hstep _ _ hab c d hc hd) (ih cs ds hcs hds)
  | cons_right _ ih =>
    intro cs _ hcs hright
    obtain ⟨d, ds, -, hds, rfl⟩ := mapM_cons_eq_ok_iff.mp hright
    exact .cons_right (ih cs ds hcs hds)

end WhenBoth

/-! ### Thresholds that ease -/

/-- The first value is not greater than the second, if both are numbers. -/
def Value.AtMost (v w : Value) : Prop :=
  ∀ x ∈ v.quantity?, ∀ y ∈ w.quantity?, x.AtMost y

theorem Value.AtMost.refl (v : Value) : v.AtMost v := by
  intro x hx y hy
  rw [Option.mem_unique hx hy]
  exact Quantity.AtMost.refl y

/-- Numbers given for thresholds make them usable, since the defaults are numbers too. -/
theorem usable_of_given {d : Detector} (hd : d ∈ Catalog.detectors) {given : Entries}
    (hgiven : ∀ e ∈ given, Comparable e.2) : Thresholds.Usable ⟨given, d.defaults⟩ d.keys := by
  intro key hkey
  obtain ⟨⟨key, default⟩, hdefault, rfl⟩ := List.mem_map.mp hkey
  cases hfound : given.get? key with
  | some v =>
    refine ⟨v, ?_, hgiven (key, v) (Config.mem_of_get? hfound)⟩
    rw [Thresholds.get, hfound]
  | none =>
    have hsome : (d.defaults.get? key).isSome = true := by
      rw [Entries.get?, Option.isSome_map, List.find?_isSome]
      exact ⟨_, hdefault, beq_self_eq_true key⟩
    obtain ⟨w, hw⟩ := Option.isSome_iff_exists.mp hsome
    refine ⟨w, ?_, Catalog.defaults_comparable hd (Config.mem_of_get? hw)⟩
    rw [Thresholds.get, hfound, hw]

section Comparisons

variable {m m' : Measured} {limit limit' : Value}

theorem compareWith_le {relation : String} {test : Quantity → Quantity → Bool}
    (h : ∀ q ∈ limit.quantity?, ∀ q' ∈ limit'.quantity?,
      test m.quantity q = true → test m'.quantity q' = true) :
    WhenBoth (· ≤ ·) (compareWith relation test m limit)
      (compareWith relation test m' limit') := by
  unfold compareWith
  intro b b' hb hb'
  split at hb
  case h_2 => cases hb
  case h_1 q hq =>
    split at hb'
    case h_2 => cases hb'
    case h_1 q' hq' =>
      cases hb
      cases hb'
      exact h q hq q' hq'

theorem above_le (hm : m.quantity.AtMost m'.quantity) (hlimit : limit'.AtMost limit) :
    WhenBoth (· ≤ ·) (m.above limit) (m'.above limit') :=
  compareWith_le fun q hq q' hq' ↦ Quantity.lt_of_atMost (hlimit q' hq' q hq) hm

theorem atLeast_le (hm : m.quantity.AtMost m'.quantity) (hlimit : limit'.AtMost limit) :
    WhenBoth (· ≤ ·) (m.atLeast limit) (m'.atLeast limit') :=
  compareWith_le fun q hq q' hq' ↦ Quantity.le_of_atMost (hlimit q' hq' q hq) hm

theorem below_le (hm : m'.quantity.AtMost m.quantity) (hlimit : limit.AtMost limit') :
    WhenBoth (· ≤ ·) (m.below limit) (m'.below limit') :=
  compareWith_le fun q hq q' hq' ↦ Quantity.lt_of_atMost hm (hlimit q hq q' hq')

theorem atMost_le (hm : m'.quantity.AtMost m.quantity) (hlimit : limit.AtMost limit') :
    WhenBoth (· ≤ ·) (m.atMost limit) (m'.atMost limit') :=
  compareWith_le fun q hq q' hq' ↦ Quantity.le_of_atMost hm (hlimit q hq q' hq')

end Comparisons

/-- The thresholds that a measure has to stay below. -/
def invitingKeys : List String :=
  ["usage_ratio", "min_loc", "min_methods", "max_behavior_methods"]

/-- The thresholds that no detector asks for. -/
def idleKeys : List String :=
  ["similarity_threshold", "min_responsibilities"]

/-- The thresholds that are switched on or off. -/
def switchKeys : List String :=
  ["require_conditional_usage", "require_bidirectional"]

/-- A threshold that a measure has to exceed or to reach. -/
def IsLimit (key : String) : Prop :=
  key ∉ invitingKeys ∧ key ∉ idleKeys ∧ key ∉ switchKeys

instance (key : String) : Decidable (IsLimit key) :=
  inferInstanceAs (Decidable (_ ∧ _ ∧ _))

/-- The second thresholds are as easy to break as the first, or easier. -/
structure Thresholds.Eases (t t' : Thresholds) : Prop where
  limit : ∀ key, IsLimit key → WhenBoth (fun v v' ↦ v'.AtMost v) (t.get key) (t'.get key)
  inviting : ∀ key ∈ invitingKeys, WhenBoth Value.AtMost (t.get key) (t'.get key)
  switch : ∀ key ∈ switchKeys, WhenBoth Eq (t.get key) (t'.get key)

theorem Thresholds.Eases.refl (t : Thresholds) : t.Eases t where
  limit key _ := WhenBoth.refl (R := fun v v' ↦ v'.AtMost v) Value.AtMost.refl (t.get key)
  inviting _ _ := WhenBoth.refl Value.AtMost.refl _
  switch _ _ := WhenBoth.refl (fun _ ↦ rfl) _

/-- Two measures that are held against one limit, the second not smaller than the first. -/
structure Rises (e e' : Measured × String) : Prop where
  measure : e.1.quantity.AtMost e'.1.quantity
  key : e'.2 = e.2
  limit : IsLimit e.2

theorem rises_count {n n' : ℕ} (h : n ≤ n') {key : String} (hkey : IsLimit key) :
    Rises ((n : Measured), key) ((n' : Measured), key) :=
  ⟨Quantity.ofNat_atMost h, rfl, hkey⟩

theorem anyAbove_le {t t' : Thresholds} (ht : t.Eases t') {ms ms' : List (Measured × String)}
    (h : Forall₂ Rises ms ms') : WhenBoth (· ≤ ·) (anyAbove t ms) (anyAbove t' ms') := by
  induction h with
  | nil => exact WhenBoth.ok le_rfl
  | @cons e e' _ _ he _ ih =>
    obtain ⟨m, key⟩ := e
    obtain ⟨m', key'⟩ := e'
    obtain ⟨hm, rfl, hkey⟩ := he
    exact WhenBoth.bind (ht.limit _ hkey) fun v v' hv ↦ WhenBoth.either (above_le hm hv) ih

/-! ### Grades and verdicts -/

namespace Severity

/-- The severity of a tier is no graver than a bound when the severities of all tiers are not. -/
theorem grade_le_of_forall {tiers : List (Bool × Severity)} {s : Severity}
    (h : ∀ tier ∈ tiers, tier.2.level ≤ s.level) : (grade tiers).level ≤ s.level := by
  rw [grade, gradeOr]
  split
  case h_1 tier hfind => exact h _ (List.mem_of_find?_eq_some hfind)
  case h_2 => cases s <;> decide

/-- Severities in falling order, each with a condition; the grade does not fall when conditions come
to hold. -/
theorem grade_le {tiers tiers' : List (Bool × Severity)}
    (hfalling : (tiers.map Prod.snd).Pairwise fun s s' ↦ s'.level ≤ s.level)
    (h : Forall₂ (fun tier tier' ↦ tier.1 ≤ tier'.1 ∧ tier.2 = tier'.2) tiers tiers') :
    (grade tiers).level ≤ (grade tiers').level := by
  induction h with
  | nil => exact le_rfl
  | @cons tier tier' tiers tiers' htier _ ih =>
    obtain ⟨holds, s⟩ := tier
    obtain ⟨holds', s'⟩ := tier'
    obtain ⟨hholds, rfl⟩ := htier
    rw [List.map_cons, List.pairwise_cons, List.forall_mem_map] at hfalling
    -- The first tier that holds afterwards decides, and no tier below it is graver.
    cases holds' with
    | true => exact grade_le_of_forall (List.forall_mem_cons.mpr ⟨le_rfl, hfalling.1⟩)
    | false =>
      cases holds with
      | true => cases hholds rfl
      | false => exact ih hfalling.2

end Severity

theorem exceeds_le {n n' : ℕ} (h : n ≤ n') (bound : ℕ) :
    decide (n > bound) ≤ decide (n' > bound) := by
  intro hn
  rw [decide_eq_true_eq] at hn ⊢
  omega

theorem reaches_le {n n' : ℕ} (h : n ≤ n') (bound : ℕ) :
    decide (n ≥ bound) ≤ decide (n' ≥ bound) := by
  intro hn
  rw [decide_eq_true_eq] at hn ⊢
  omega

theorem or_le_or {a a' b b' : Bool} (ha : a ≤ a') (hb : b ≤ b') : (a || b) ≤ (a' || b') := by
  intro h
  rw [Bool.or_eq_true] at h ⊢
  exact h.imp ha hb

theorem exceeds_or_le {n n' m m' : ℕ} (hn : n ≤ n') (hm : m ≤ m') (bound bound' : ℕ) :
    (decide (n > bound) || decide (m > bound')) ≤
      (decide (n' > bound) || decide (m' > bound')) :=
  or_le_or (exceeds_le hn bound) (exceeds_le hm bound')

theorem quantity_lt_le {x y : Quantity} (h : x.AtMost y) (bound : Quantity) :
    bound.lt x ≤ bound.lt y :=
  Quantity.lt_of_atMost (.refl bound) h

/-- The rank of the severity of a verdict; nought when nothing was detected. -/
def Verdict.level (v : Verdict) : ℕ :=
  if v.detected then v.severity.level else 0

theorem Verdict.level_le {v w : Verdict} (hdetected : v.detected ≤ w.detected)
    (hseverity : v.severity.level ≤ w.severity.level) : v.level ≤ w.level := by
  rw [level, level]
  split
  case isTrue hv => rwa [if_pos (hdetected hv)]
  case isFalse => exact Nat.zero_le _

/-- The result that a verdict amounts to. -/
def Verdict.result (smell : String) (v : Verdict) : Result where
  smell := smell
  detected := v.detected
  severity := if v.detected then some v.severity else none
  location := v.location
  details := v.details
  detected_eq := by cases v.detected <;> rfl

theorem Verdict.toResult_eq (smell : String) (v : Verdict) :
    v.toResult smell = .ok (v.result smell) := by
  have hagree : v.detected = (if v.detected then some v.severity else none).isSome :=
    (v.result smell).detected_eq
  rw [toResult, Result.make, dif_pos hagree]
  rfl

theorem Verdict.severityLevel_result (smell : String) (v : Verdict) :
    (v.result smell).severityLevel = v.level := by
  by_cases hdetected : v.detected = true
  · have hseverity : (v.result smell).severity = some v.severity := if_pos hdetected
    rw [Result.severityLevel, hseverity, level, if_pos hdetected]
  · have hseverity : (v.result smell).severity = none := if_neg hdetected
    rw [Result.severityLevel, hseverity, level, if_neg hdetected]

theorem Detector.detect_eq_some_iff {d : Detector} {scope : Scope} {given : Entries} {r : Result} :
    d.detect scope given = .ok (some r) ↔ d.supports scope.kind = true ∧
      ∃ v, d.evaluate scope ⟨given, d.defaults⟩ = .ok (some v) ∧ r = v.result d.name := by
  rw [Detector.detect]
  split
  case isFalse hno =>
    constructor
    · intro h
      cases h
    · intro h
      exact (hno h.1).elim
  case isTrue hyes =>
    rw [bind_eq_ok_iff]
    constructor
    · rintro ⟨v, hv, h⟩
      cases v with
      | none => cases h
      | some v =>
        simp only [v.toResult_eq] at h
        cases h
        exact ⟨hyes, v, hv, rfl⟩
    · rintro ⟨-, v, hv, rfl⟩
      refine ⟨some v, hv, ?_⟩
      simp only [v.toResult_eq]
      rfl

/-! ### Two runs of a detector -/

/-- If it answers, an evaluation answers with a verdict. -/
def Applies (x : Except Fault (Option Verdict)) : Prop :=
  ∀ v, x = .ok v → v.isSome = true

theorem applies_some (v : Verdict) : Applies (.ok (some v)) := by
  rintro _ ⟨⟩
  rfl

theorem Applies.bind {α : Type} {x : Except Fault α} {f : α → Except Fault (Option Verdict)}
    (h : ∀ a, Applies (f a)) : Applies (x >>= f) := by
  intro v hv
  obtain ⟨a, -, hv⟩ := bind_eq_ok_iff.mp hv
  exact h a v hv

/-- Where both runs of a detector answer, both apply or neither does, and the verdict of the first is
no graver than that of the second. -/
def NoGraver (x y : Except Fault (Option Verdict)) : Prop :=
  WhenBoth (Option.Rel fun v w ↦ v.level ≤ w.level) x y

theorem noGraver_none : NoGraver (.ok none) (.ok none) :=
  WhenBoth.ok .none

/-- A verdict whose flag comes from comparisons. -/
theorem noGraver_of_detected {x x' : Except Fault Bool} {s s' : Severity} {place place' : Location}
    {details details' : Value} (hdetected : WhenBoth (· ≤ ·) x x')
    (hseverity : s.level ≤ s'.level) :
    NoGraver (do return some ⟨← x, s, place, details⟩)
      (do return some ⟨← x', s', place', details'⟩) :=
  WhenBoth.bind hdetected fun _ _ hb ↦ WhenBoth.ok (.some (Verdict.level_le hb hseverity))

theorem Detector.severityLevel_le {d : Detector} {scope scope' : Scope} {given given' : Entries}
    (h : NoGraver (d.evaluate scope ⟨given, d.defaults⟩) (d.evaluate scope' ⟨given', d.defaults⟩))
    {r r' : Result} (hr : d.detect scope given = .ok (some r))
    (hr' : d.detect scope' given' = .ok (some r')) : r.severityLevel ≤ r'.severityLevel := by
  obtain ⟨-, v, hv, rfl⟩ := Detector.detect_eq_some_iff.mp hr
  obtain ⟨-, v', hv', rfl⟩ := Detector.detect_eq_some_iff.mp hr'
  rw [Verdict.severityLevel_result, Verdict.severityLevel_result]
  obtain ⟨hle⟩ := h _ _ hv hv'
  exact hle

/-- Under usable thresholds a detector gives a result where it applies. -/
theorem Detector.Total.exists_result {d : Detector} (hd : d.Total) {scope : Scope}
    {given : Entries} (ht : Thresholds.Usable ⟨given, d.defaults⟩ d.keys)
    (hsupports : d.supports scope.kind = true)
    (happlies : Applies (d.evaluate scope ⟨given, d.defaults⟩)) :
    ∃ r, d.detect scope given = .ok (some r) := by
  obtain ⟨v, hv, -⟩ := hd scope ⟨given, d.defaults⟩ ht
  obtain ⟨v, rfl⟩ := Option.isSome_iff_exists.mp (happlies v hv)
  exact ⟨v.result d.name, Detector.detect_eq_some_iff.mpr ⟨hsupports, v, hv, rfl⟩⟩

end CodeSmells
