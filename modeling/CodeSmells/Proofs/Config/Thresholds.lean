import CodeSmells.Config.Document
import CodeSmells.Proofs.Grouping
import CodeSmells.Proofs.Value.Entries

/-!
# Which thresholds are accepted

A document is accepted when each of its thresholds passes `checkThreshold`, which refuses a value
that is below nought, above one for a ratio, or of the wrong kind. `InRange` says what is meant to
come out: a flag where the default is a flag, a whole number from nought on where it is a whole
number, a number from nought on where it is a binary fraction, and for a ratio a number from nought
to one.

The check asks whether a value is *below* or *above* its bounds, and the undefined quantity is
neither. So it passes wherever the default is a binary fraction, ratios included, and it is the only
value that passes without being in range: `accepted_inRange_iff` shows that an override is in range
exactly when it is defined, and the same for the thresholds in force.

The step is `checkThreshold_accepted`, about one value; `checkThresholds_accepted` carries it
through the table of overrides, and `overrides_of_ofDocument` to a whole document.
-/

set_option autoImplicit false
set_option relaxedAutoImplicit false

namespace CodeSmells

/-! ### Numbers in range -/

/-- The number that a value is; flags are none. -/
def Value.number? : Value → Option Quantity
  | .whole n => some (.ofInt n)
  | .real x => some x
  | _ => none

/-- A number that is undefined is a binary fraction. -/
theorem Value.eq_of_number?_undefined {v : Value} (h : v.number? = some .undefined) :
    v = .real .undefined := by
  cases v with
  | real x =>
    cases h
    rfl
  | _ => cases h

/-- Whether a value is a binary fraction. -/
def Value.isReal : Value → Bool
  | .real _ => true
  | _ => false

/-- A quantity is at least a whole number when it is defined and not below it. -/
theorem Quantity.ofInt_le_iff {n : Int} {x : Quantity} :
    Quantity.le (.ofInt n) x = true ↔ x ≠ .undefined ∧ x.lt (.ofInt n) = false := by
  cases x <;> simp [Quantity.le, Quantity.ofInt]

/-- A quantity is at most a whole number when it is defined and not above it. -/
theorem Quantity.le_ofInt_iff {n : Int} {x : Quantity} :
    x.le (.ofInt n) = true ↔ x ≠ .undefined ∧ Quantity.lt (.ofInt n) x = false := by
  cases x <;> simp [Quantity.le, Quantity.ofInt]

theorem Quantity.ofInt_lt_ofInt {m n : Int} :
    Quantity.lt (.ofInt m) (.ofInt n) = decide (m < n) := by
  show decide ((m : Rat) < n) = decide (m < n)
  rw [decide_eq_decide]
  exact Rat.intCast_lt_intCast

/-- The whole part of a quantity that is not negative is not negative. -/
theorem Quantity.toInt?_nonneg {x : Quantity} {n : Int} (h : x.toInt? = some n)
    (hx : x.lt (.ofInt 0) = false) : 0 ≤ n := by
  cases x with
  | undefined => cases h
  | infinite negative => cases h
  | negativeZero =>
    cases h
    exact Int.le_refl 0
  | finite q =>
    cases h
    have hq : 0 ≤ q := by simpa [Quantity.lt, Quantity.ofInt, Rat.not_lt] using hx
    exact Int.tdiv_nonneg (Rat.num_nonneg.mpr hq) (Int.natCast_nonneg _)

/-! ### The defaults of the catalog -/

/-- No two detectors, and no detector twice, have a threshold of the same name. -/
theorem Catalog.keys_nodup : (Entries.keys (detectors.flatMap (·.defaults))).Nodup := by
  decide +kernel

/-- As names are distinct, the defaults are those of the detectors one after the other. -/
theorem Catalog.defaultThresholds_eq : defaultThresholds = detectors.flatMap (·.defaults) :=
  Entries.ofList_eq_self keys_nodup

namespace Config

/-- A value that a threshold is meant to have: of the kind of its default and within its bounds. -/
structure InRange (key : String) (v : Value) : Prop where
  known : key ∈ Catalog.defaultThresholds.map (·.1)
  flag : ∀ b, Catalog.defaultThresholds.get? key = some (.flag b) → ∃ c, v = .flag c
  whole : ∀ n, Catalog.defaultThresholds.get? key = some (.whole n) → ∃ m, v = .whole m ∧ 0 ≤ m
  real : ∀ x, Catalog.defaultThresholds.get? key = some (.real x) →
    ∃ y, v.number? = some y ∧ Quantity.le (.ofInt 0) y = true
  ratio : key ∈ Catalog.ratioThresholds →
    ∃ y, v.number? = some y ∧ Quantity.le (.ofInt 0) y = true ∧ y.le (.ofInt 1) = true

/-! ### The defaults -/

/-- The kinds of a default with its bounds, as a test. -/
def isSoundDefault (e : String × Value) : Bool :=
  match e.2 with
  | .flag _ => true
  | .whole n => 0 ≤ n
  | .real x =>
    Quantity.le (.ofInt 0) x && (!Catalog.ratioThresholds.contains e.1 || x.le (.ofInt 1))
  | _ => false

theorem defaults_sound : Catalog.defaultThresholds.all isSoundDefault = true := by
  rw [Catalog.defaultThresholds_eq]
  decide +kernel

theorem defaults_keys_nodup : (Catalog.defaultThresholds.map (·.1)).Nodup := by
  rw [Catalog.defaultThresholds_eq]
  exact Catalog.keys_nodup

/-- A default is found under its name. -/
theorem get?_default {e : String × Value} (he : e ∈ Catalog.defaultThresholds) :
    Catalog.defaultThresholds.get? e.1 = some e.2 := by
  rw [Entries.get?, find?_key defaults_keys_nodup he, Option.map_some]

/-- The default of a ratio is a binary fraction. -/
theorem exists_real_of_ratio {key : String} (h : key ∈ Catalog.ratioThresholds) :
    ∃ x, Catalog.defaultThresholds.get? key = some (.real x) := by
  have hreal : ∀ k ∈ Catalog.ratioThresholds,
      (Catalog.defaultThresholds.get? k).any Value.isReal = true := by
    rw [Catalog.defaultThresholds_eq]
    decide +kernel
  have hkey := hreal key h
  cases hget : Catalog.defaultThresholds.get? key with
  | none =>
    rw [hget] at hkey
    cases hkey
  | some v =>
    rw [hget] at hkey
    cases v with
    | real x => exact ⟨x, rfl⟩
    | _ => cases hkey

theorem mem_of_get? {es : Entries} {key : String} {v : Value} (h : es.get? key = some v) :
    (key, v) ∈ es := by
  obtain ⟨⟨k, w⟩, hfind, rfl⟩ := Option.map_eq_some_iff.mp h
  have hkey : k = key := by simpa using List.find?_some hfind
  rw [← hkey]
  exact List.mem_of_find?_eq_some hfind

section Kinds

variable {key : String}

/-- Under a flag any flag is in range. -/
theorem inRange_of_flag {b : Bool} (hget : Catalog.defaultThresholds.get? key = some (.flag b))
    (c : Bool) : InRange key (.flag c) where
  known := List.mem_map_of_mem (mem_of_get? hget)
  flag _ _ := ⟨c, rfl⟩
  whole _ h := by rw [hget] at h; cases h
  real _ h := by rw [hget] at h; cases h
  ratio hratio := by
    obtain ⟨x, hx⟩ := exists_real_of_ratio hratio
    rw [hget] at hx
    cases hx

/-- Under a whole number a whole number from nought on is in range. -/
theorem inRange_of_whole {n m : Int} (hget : Catalog.defaultThresholds.get? key = some (.whole n))
    (hm : 0 ≤ m) : InRange key (.whole m) where
  known := List.mem_map_of_mem (mem_of_get? hget)
  flag _ h := by rw [hget] at h; cases h
  whole _ _ := ⟨m, rfl, hm⟩
  real _ h := by rw [hget] at h; cases h
  ratio hratio := by
    obtain ⟨x, hx⟩ := exists_real_of_ratio hratio
    rw [hget] at hx
    cases hx

/-- Under a binary fraction a number from nought on is in range, and under a ratio it must not lie
above one. -/
theorem inRange_of_real {x y : Quantity} {v : Value}
    (hget : Catalog.defaultThresholds.get? key = some (.real x)) (hv : v.number? = some y)
    (hlow : Quantity.le (.ofInt 0) y = true)
    (hhigh : key ∈ Catalog.ratioThresholds → y.le (.ofInt 1) = true) : InRange key v where
  known := List.mem_map_of_mem (mem_of_get? hget)
  flag _ h := by rw [hget] at h; cases h
  whole _ h := by rw [hget] at h; cases h
  real _ _ := ⟨y, hv, hlow⟩
  ratio hratio := ⟨y, hv, hlow, hhigh hratio⟩

end Kinds

/-- Every default is in range. -/
theorem default_inRange {e : String × Value} (he : e ∈ Catalog.defaultThresholds) :
    InRange e.1 e.2 := by
  have hget := get?_default he
  have hsound := List.all_eq_true.mp defaults_sound e he
  obtain ⟨key, v⟩ := e
  cases v with
  | flag b => exact inRange_of_flag hget b
  | whole n => exact inRange_of_whole hget (of_decide_eq_true hsound)
  | real x =>
    simp only [isSoundDefault, Bool.and_eq_true, Bool.or_eq_true] at hsound
    refine inRange_of_real hget rfl hsound.1 fun hratio ↦ hsound.2.resolve_left ?_
    simpa using hratio
  | _ => cases hsound

/-! ### One threshold -/

/-- A message that is put together from another step is no answer. -/
theorem bind_throw_ne_ok {ε α β : Type} (e : Except ε α) (message : α → ε) (b : β) :
    (e >>= fun a ↦ throw (message a)) ≠ Except.ok b := by
  cases e <;> nofun

/-- What comes after two guards that refuse is reached when neither of them applies. -/
theorem guards_passed {α : Type} {low high : Bool} {below above rest : Except String α} {w : α}
    (hbelow : below ≠ .ok w) (habove : above ≠ .ok w)
    (h : (if low = true then below else if high = true then above else rest) = .ok w) :
    low = false ∧ high = false ∧ rest = .ok w := by
  cases low with
  | true => exact (hbelow h).elim
  | false =>
    cases high with
    | true => exact (habove h).elim
    | false => exact ⟨rfl, rfl, h⟩

/-- What passes the check under a whole number is a whole number from nought on. -/
theorem checkThreshold_of_whole {key : String} {n : Int} {v w : Value}
    (hget : Catalog.defaultThresholds.get? key = some (.whole n))
    (h : checkThreshold key v = .ok w) : ∃ m, w = .whole m ∧ 0 ≤ m := by
  unfold checkThreshold at h
  rw [hget] at h
  cases v with
  | whole m =>
    obtain ⟨hlow, -, hw⟩ := guards_passed (bind_throw_ne_ok _ _ _) (bind_throw_ne_ok _ _ _) h
    rw [Quantity.ofInt_lt_ofInt] at hlow
    cases hw
    exact ⟨m, rfl, Int.not_lt.mp (of_decide_eq_false hlow)⟩
  | real x =>
    obtain ⟨hlow, -, hw⟩ := guards_passed (bind_throw_ne_ok _ _ _) (bind_throw_ne_ok _ _ _) h
    simp only at hw
    split at hw
    · next m _ hm =>
      cases hw
      exact ⟨m, rfl, Quantity.toInt?_nonneg hm hlow⟩
    · cases hw
  | _ => exact (bind_throw_ne_ok _ _ _ h).elim

/-- What passes the check under a binary fraction is the number that was given, neither below
nought nor, under a ratio, above one. -/
theorem checkThreshold_of_real {key : String} {x : Quantity} {v w : Value}
    (hget : Catalog.defaultThresholds.get? key = some (.real x))
    (h : checkThreshold key v = .ok w) :
    ∃ y, w.number? = some y ∧ y.lt (.ofInt 0) = false ∧
      (key ∈ Catalog.ratioThresholds → Quantity.lt (.ofInt 1) y = false) := by
  unfold checkThreshold at h
  rw [hget] at h
  cases v with
  | whole m =>
    obtain ⟨hlow, hhigh, hw⟩ := guards_passed (bind_throw_ne_ok _ _ _) (bind_throw_ne_ok _ _ _) h
    cases hw
    exact ⟨.ofInt m, rfl, hlow, fun hratio ↦ by simpa [hratio] using hhigh⟩
  | real y =>
    obtain ⟨hlow, hhigh, hw⟩ := guards_passed (bind_throw_ne_ok _ _ _) (bind_throw_ne_ok _ _ _) h
    cases hw
    exact ⟨y, rfl, hlow, fun hratio ↦ by simpa [hratio] using hhigh⟩
  | _ => exact (bind_throw_ne_ok _ _ _ h).elim

/-- What the check of a threshold lets through. -/
def Accepted (key : String) (v : Value) : Prop :=
  InRange key v ∨
    (v = .real .undefined ∧ ∃ x, Catalog.defaultThresholds.get? key = some (.real x))

/-- What passes the check of one threshold is in range, or undefined under a binary fraction. -/
theorem checkThreshold_accepted {key : String} {v w : Value} (h : checkThreshold key v = .ok w) :
    Accepted key w := by
  cases hget : Catalog.defaultThresholds.get? key with
  | none =>
    unfold checkThreshold at h
    rw [hget] at h
    cases h
  | some default =>
    have hsound := List.all_eq_true.mp defaults_sound _ (mem_of_get? hget)
    cases default with
    | flag b =>
      unfold checkThreshold at h
      rw [hget] at h
      cases v with
      | flag c =>
        cases h
        exact Or.inl (inRange_of_flag hget c)
      | _ => cases h
    | whole n =>
      obtain ⟨m, rfl, hm⟩ := checkThreshold_of_whole hget h
      exact Or.inl (inRange_of_whole hget hm)
    | real x =>
      obtain ⟨y, hy, hlow, hhigh⟩ := checkThreshold_of_real hget h
      by_cases hundefined : y = .undefined
      · subst hundefined
        exact Or.inr ⟨Value.eq_of_number?_undefined hy, x, hget⟩
      · exact Or.inl (inRange_of_real hget hy (Quantity.ofInt_le_iff.mpr ⟨hundefined, hlow⟩)
          fun hratio ↦ Quantity.le_ofInt_iff.mpr ⟨hundefined, hhigh hratio⟩)
    | _ => cases hsound

theorem Accepted.known {key : String} {v : Value} (h : Accepted key v) :
    key ∈ Catalog.defaultThresholds.map (·.1) := by
  rcases h with hrange | ⟨-, x, hget⟩
  · exact hrange.known
  · exact List.mem_map_of_mem (mem_of_get? hget)

/-- A number that the check lets through lies neither below nought nor, under a ratio, above one. -/
theorem Accepted.bounds {key : String} {x : Quantity} {v : Value} (h : Accepted key v)
    (hget : Catalog.defaultThresholds.get? key = some (.real x)) :
    ∃ y, v.number? = some y ∧ y.lt (.ofInt 0) = false ∧
      (Catalog.ratioThresholds.contains key && Quantity.lt (.ofInt 1) y) = false := by
  rcases h with hrange | ⟨rfl, -⟩
  · obtain ⟨y, hy, hlow⟩ := hrange.real x hget
    refine ⟨y, hy, (Quantity.ofInt_le_iff.mp hlow).2, ?_⟩
    by_cases hratio : key ∈ Catalog.ratioThresholds
    · obtain ⟨z, hz, -, hhigh⟩ := hrange.ratio hratio
      obtain rfl : y = z := Option.some.inj (hy.symm.trans hz)
      rw [(Quantity.le_ofInt_iff.mp hhigh).2, Bool.and_false]
    · have hplain : Catalog.ratioThresholds.contains key = false := by simpa using hratio
      rw [hplain, Bool.false_and]
  · exact ⟨.undefined, rfl, rfl, Bool.and_false _⟩

/-- A value that the check lets through passes it unchanged. -/
theorem checkThreshold_of_accepted {key : String} {v : Value} (h : Accepted key v) :
    checkThreshold key v = .ok v := by
  obtain ⟨⟨k, default⟩, he, rfl⟩ := List.mem_map.mp h.known
  have hget := get?_default he
  have hsound := List.all_eq_true.mp defaults_sound _ he
  unfold checkThreshold
  rw [hget]
  cases default with
  | flag b =>
    rcases h with hrange | ⟨-, x, hx⟩
    · obtain ⟨c, rfl⟩ := hrange.flag b hget
      rfl
    · rw [hget] at hx
      cases hx
  | whole n =>
    rcases h with hrange | ⟨-, x, hx⟩
    · obtain ⟨m, rfl, hm⟩ := hrange.whole n hget
      have hplain : k ∉ Catalog.ratioThresholds := fun hratio ↦ by
        obtain ⟨x, hx⟩ := exists_real_of_ratio hratio
        rw [hget] at hx
        cases hx
      simp [Quantity.ofInt_lt_ofInt, Int.not_lt.mpr hm, hplain]
    · rw [hget] at hx
      cases hx
  | real x =>
    obtain ⟨y, hy, hlow, hhigh⟩ := h.bounds hget
    cases v with
    | whole m =>
      cases hy
      simp only [hlow, hhigh, Bool.false_eq_true, ↓reduceIte]
    | real z =>
      cases hy
      simp only [hlow, hhigh, Bool.false_eq_true, ↓reduceIte]
    | _ => cases hy
  | _ => cases hsound

/-- The undefined quantity is in the range of no threshold. -/
theorem not_inRange_undefined (key : String) : ¬ InRange key (.real .undefined) := by
  intro h
  obtain ⟨⟨k, default⟩, he, rfl⟩ := List.mem_map.mp h.known
  have hget := get?_default he
  have hsound := List.all_eq_true.mp defaults_sound _ he
  cases default with
  | flag b =>
    obtain ⟨c, hc⟩ := h.flag b hget
    cases hc
  | whole n =>
    obtain ⟨m, hm, -⟩ := h.whole n hget
    cases hm
  | real x =>
    obtain ⟨y, hy, hle⟩ := h.real x hget
    cases hy
    cases hle
  | _ => cases hsound

/-- What the check lets through is in range when it is defined, and not otherwise. -/
theorem Accepted.inRange_iff {key : String} {v : Value} (h : Accepted key v) :
    InRange key v ↔ v ≠ .real .undefined := by
  constructor
  · rintro hrange rfl
    exact not_inRange_undefined key hrange
  · intro hdefined
    exact h.resolve_right fun hundefined ↦ hdefined hundefined.1

/-! ### All thresholds of a document -/

theorem exists_of_bind_eq_ok {ε α β : Type} {e : Except ε α} {f : α → Except ε β} {b : β}
    (h : (e >>= f) = .ok b) : ∃ a, e = .ok a ∧ f a = .ok b := by
  cases e with
  | error err => cases h
  | ok a => exact ⟨a, rfl, h⟩

/-- What every step of a fold keeps, the fold keeps. -/
theorem foldlM_invariant {ε α β : Type} {f : β → α → Except ε β} {P : β → Prop}
    (hstep : ∀ b a b', P b → f b a = .ok b' → P b') (xs : List α) : ∀ b b', P b →
    xs.foldlM f b = .ok b' → P b' := by
  induction xs with
  | nil =>
    intro b b' hb h
    cases h
    exact hb
  | cons x xs ih =>
    intro b b' hb h
    rw [List.foldlM_cons] at h
    obtain ⟨next, hnext, hrest⟩ := exists_of_bind_eq_ok h
    exact ih next b' (hstep b x next hb hnext) hrest

/-- An entry is the one that was put there, or was there before. -/
theorem mem_put {key : String} {v : Value} {es : Entries} {e : String × Value}
    (h : e ∈ es.put key v) : e = (key, v) ∨ e ∈ es := by
  induction es with
  | nil => exact Or.inl (List.mem_singleton.mp h)
  | cons first rest ih =>
    rw [Entries.put] at h
    split at h
    · next hkey =>
      rcases List.mem_cons.mp h with rfl | hrest
      · exact Or.inl (congrArg (·, v) (beq_iff_eq.mp hkey))
      · exact Or.inr (List.mem_cons_of_mem _ hrest)
    · rcases List.mem_cons.mp h with rfl | hrest
      · exact Or.inr List.mem_cons_self
      · exact (ih hrest).imp_right (List.mem_cons_of_mem _)

/-- Every override that comes out of the check of a table was let through. -/
theorem checkThresholds_accepted {raw : RawEntries} {overrides : Entries}
    (h : checkThresholds raw = .ok overrides) : ∀ e ∈ overrides, Accepted e.1 e.2 := by
  refine foldlM_invariant (P := fun es : Entries ↦ ∀ e ∈ es, Accepted e.1 e.2) ?_ raw [] overrides
    (fun e he ↦ (List.not_mem_nil he).elim) h
  rintro es ⟨k, v⟩ es' hes hstep
  obtain ⟨shown, -, hstep⟩ := exists_of_bind_eq_ok hstep
  obtain ⟨w, hcheck, hstep⟩ := exists_of_bind_eq_ok hstep
  cases hstep
  intro e he
  rcases mem_put he with rfl | hold
  · exact checkThreshold_accepted hcheck
  · exact hes e hold

theorem both_eq_ok {α β : Type} {x : Checked α} {y : Checked β} {a : α} {b : β}
    (h : both x y = .ok (a, b)) : x = .ok a ∧ y = .ok b := by
  cases x with
  | error p => cases y <;> cases h
  | ok x =>
    cases y with
    | error q => cases h
    | ok y =>
      cases h
      exact ⟨rfl, rfl⟩

/-- Every override that stands under `thresholds` was let through. -/
theorem overridesOf_accepted {raw : Option (Checked RawEntries)} {overrides : Entries}
    (h : overridesOf raw = .ok overrides) : ∀ e ∈ overrides, Accepted e.1 e.2 := by
  cases raw with
  | none =>
    cases h
    exact fun e he ↦ (List.not_mem_nil he).elim
  | some raw =>
    obtain ⟨es, -, hes⟩ := exists_of_bind_eq_ok h
    unfold checkOverrides at hes
    split at hes
    · next hcheck =>
      cases hes
      exact checkThresholds_accepted hcheck
    · cases hes

/-- Every override of validated settings was let through. -/
theorem validateParts_accepted {p : Parts} {s : Settings} (h : validateParts p = .ok s) :
    ∀ e ∈ s.thresholds, Accepted e.1 e.2 := by
  obtain ⟨enabled, -, h⟩ := exists_of_bind_eq_ok h
  simp only at h
  split at h
  · next hall =>
    cases h
    exact overridesOf_accepted (both_eq_ok (both_eq_ok hall).2).1
  · cases h

/-- Every override of settings from a document was let through. -/
theorem overrides_of_ofDocument {doc : Entries} {s : Settings} (h : ofDocument doc = .ok s) :
    ∀ e ∈ s.thresholds, Accepted e.1 e.2 := by
  obtain ⟨inTable, -, h⟩ := exists_of_bind_eq_ok h
  exact validateParts_accepted h

/-- A threshold in force is a default or an override. -/
theorem mem_effectiveThresholds {s : Settings} {e : String × Value}
    (h : e ∈ s.effectiveThresholds) : e ∈ Catalog.defaultThresholds ∨ e ∈ s.thresholds := by
  unfold Settings.effectiveThresholds at h
  generalize Catalog.defaultThresholds = base at h ⊢
  generalize s.thresholds = overrides at h ⊢
  induction overrides generalizing base with
  | nil => exact Or.inl h
  | cons first rest ih =>
    rw [List.foldl_cons] at h
    rcases ih _ h with hput | hrest
    · rcases mem_put hput with rfl | hbase
      · exact Or.inr List.mem_cons_self
      · exact Or.inl hbase
    · exact Or.inr (List.mem_cons_of_mem _ hrest)

/-- The thresholds in force were let through too. -/
theorem effective_of_ofDocument {doc : Entries} {s : Settings} (h : ofDocument doc = .ok s) :
    ∀ e ∈ s.effectiveThresholds, Accepted e.1 e.2 := by
  intro e he
  rcases mem_effectiveThresholds he with hdefault | hoverride
  · exact Or.inl (default_inRange hdefault)
  · exact overrides_of_ofDocument h e hoverride

/-- Accepted thresholds have known names and are in range exactly when they are defined; the same
holds of the thresholds in force. Assumes: a document that is accepted. The last part says what the
check of one value lets through: what is in range, and the undefined quantity under a binary
fraction. -/
theorem accepted_inRange_iff {doc : Entries} {s : Settings} (h : ofDocument doc = .ok s) :
    (∀ e ∈ s.thresholds, e.1 ∈ Catalog.defaultThresholds.map (·.1)) ∧
    (∀ e ∈ s.thresholds, InRange e.1 e.2 ↔ e.2 ≠ .real .undefined) ∧
    (∀ e ∈ s.effectiveThresholds, InRange e.1 e.2 ↔ e.2 ≠ .real .undefined) ∧
    (∀ key v, checkThreshold key v = .ok v ↔ InRange key v ∨
      (v = .real .undefined ∧ ∃ x, Catalog.defaultThresholds.get? key = some (.real x))) := by
  refine ⟨?_, ?_, ?_, ?_⟩
  · intro e he
    exact (overrides_of_ofDocument h e he).known
  · intro e he
    exact (overrides_of_ofDocument h e he).inRange_iff
  · intro e he
    exact (effective_of_ofDocument h e he).inRange_iff
  · intro key v
    exact ⟨checkThreshold_accepted, checkThreshold_of_accepted⟩

/-- A document with a threshold at the top level and the undefined quantity among its thresholds:
the one is in range, the other is not. -/
theorem accepted_inRange_iff_mixed :
    ∃ s, ofDocument [("maxLines", .whole 40),
        ("thresholds", .table [("envy_ratio", .real .undefined)])] = .ok s ∧
      s.thresholds = [("envy_ratio", .real .undefined), ("max_lines", .whole 40)] ∧
      InRange "max_lines" (.whole 40) ∧ ¬ InRange "envy_ratio" (.real .undefined) := by
  have haccepted : ofDocument [("maxLines", .whole 40),
      ("thresholds", .table [("envy_ratio", .real .undefined)])] = .ok
      ⟨Catalog.names, [("envy_ratio", .real .undefined), ("max_lines", .whole 40)], {}⟩ := rfl
  obtain ⟨-, hrange, -⟩ := accepted_inRange_iff haccepted
  refine ⟨_, haccepted, rfl, (hrange ("max_lines", .whole 40) ?_).mpr nofun, fun hin ↦
    (hrange ("envy_ratio", .real .undefined) ?_).mp hin rfl⟩
  · exact List.mem_cons_of_mem _ List.mem_cons_self
  · exact List.mem_cons_self

/-- The undefined quantity is accepted for a ratio. -/
theorem undefined_ratio_accepted :
    "min_similarity" ∈ Catalog.ratioThresholds ∧
    ∃ s, ofDocument [("thresholds", .table [("min_similarity", .real .undefined)])] = .ok s ∧
      ¬ ∀ e ∈ s.thresholds, InRange e.1 e.2 := by
  refine ⟨by decide +kernel, _, rfl, fun hrange ↦ ?_⟩
  exact not_inRange_undefined _ (hrange ("min_similarity", .real .undefined) List.mem_cons_self)

end Config

end CodeSmells
