import CodeSmells.Number.Binary
import Mathlib.Algebra.Order.Field.Power
import Mathlib.Data.Rat.Cast.Order
import Mathlib.Order.WithBot
import Mathlib.Tactic.FieldSimp
import Mathlib.Tactic.Linarith
import Mathlib.Tactic.Positivity
import Mathlib.Tactic.Ring

/-!
# The order of quantities

A quantity other than the undefined one has a position on the line of rational numbers with an
infinity at either end, where both zeros stand at zero. `Quantity.lt` and `Quantity.le` compare
positions (`lt_iff`, `le_iff`), so that a comparison that holds goes on to hold when its left side
falls and its right side rises (`lt_of_atMost`, `le_of_atMost`).

Quotients of counts are rounded to binary fractions before they are compared. `ratio_atMost` shows
that rounding keeps their order. A positive number is rounded to the nearest multiple of the last
bit that is kept of it (`roundPositive_eq`), and the nearest whole number, an even one in a tie,
rises with the number (`IsNearest.mono`). The last bit moves with the size of the number. Where it
differs for two numbers, the leading power of two of the greater one lies between them and is itself
a multiple of both last bits, so that it also lies between their roundings (`rounded_le`).
-/

set_option autoImplicit false
set_option relaxedAutoImplicit false

namespace CodeSmells

/-! ### Positions -/

namespace Quantity

/-- Where a quantity stands on the line with its two infinities; the undefined one has no place. -/
def position? : Quantity → Option (WithBot (WithTop ℚ))
  | undefined => none
  | infinite true => some ⊥
  | infinite false => some (⊤ : WithTop ℚ)
  | negativeZero => some ((0 : ℚ) : WithTop ℚ)
  | finite q => some ((q : ℚ) : WithTop ℚ)

theorem lt_iff {x y : Quantity} :
    x.lt y = true ↔ ∃ a ∈ x.position?, ∃ b ∈ y.position?, a < b := by
  rcases x with _ | (_ | _) | _ | q <;> rcases y with _ | (_ | _) | _ | r <;>
    simp [lt, position?, -WithBot.coe_top]

theorem le_iff {x y : Quantity} :
    x.le y = true ↔ ∃ a ∈ x.position?, ∃ b ∈ y.position?, a ≤ b := by
  rcases x with _ | (_ | _) | _ | q <;> rcases y with _ | (_ | _) | _ | r <;>
    simp [le, lt, position?, -WithBot.coe_top]

/-- The first quantity is the second, or both are defined and it is not greater. -/
def AtMost (x y : Quantity) : Prop :=
  x = y ∨ x.le y = true

theorem AtMost.refl (x : Quantity) : x.AtMost x :=
  Or.inl rfl

theorem atMost_of_lt {x y : Quantity} (h : x.lt y = true) : x.AtMost y := by
  obtain ⟨a, ha, b, hb, hab⟩ := lt_iff.mp h
  exact Or.inr (le_iff.mpr ⟨a, ha, b, hb, hab.le⟩)

theorem ofNat_atMost {m n : ℕ} (h : m ≤ n) : (ofNat m).AtMost (ofNat n) := by
  have hcast : (m : ℚ) ≤ n := by exact_mod_cast h
  refine Or.inr (le_iff.mpr ⟨_, rfl, _, rfl, ?_⟩)
  exact WithBot.coe_le_coe.mpr (WithTop.coe_le_coe.mpr hcast)

/-- Counts compare as whole numbers. -/
theorem ofNat_le_ofNat {m n : ℕ} : (ofNat m).le (ofNat n) = true ↔ m ≤ n := by
  simp [ofNat, le, lt]

theorem AtMost.exists_left {x y : Quantity} (h : x.AtMost y) {b : WithBot (WithTop ℚ)}
    (hb : b ∈ y.position?) : ∃ a ∈ x.position?, a ≤ b := by
  rcases h with rfl | h
  · exact ⟨b, hb, le_rfl⟩
  · obtain ⟨a, ha, c, hc, hle⟩ := le_iff.mp h
    rw [Option.mem_unique hb hc]
    exact ⟨a, ha, hle⟩

theorem AtMost.exists_right {x y : Quantity} (h : x.AtMost y) {a : WithBot (WithTop ℚ)}
    (ha : a ∈ x.position?) : ∃ b ∈ y.position?, a ≤ b := by
  rcases h with rfl | h
  · exact ⟨a, ha, le_rfl⟩
  · obtain ⟨c, hc, b, hb, hle⟩ := le_iff.mp h
    rw [Option.mem_unique ha hc]
    exact ⟨b, hb, hle⟩

/-- What is smaller stays smaller when it falls and the other side rises. -/
theorem lt_of_atMost {x x' y y' : Quantity} (hx : x'.AtMost x) (hy : y.AtMost y')
    (h : x.lt y = true) : x'.lt y' = true := by
  obtain ⟨a, ha, b, hb, hab⟩ := lt_iff.mp h
  obtain ⟨a', ha', hle⟩ := hx.exists_left ha
  obtain ⟨b', hb', hle'⟩ := hy.exists_right hb
  exact lt_iff.mpr ⟨a', ha', b', hb', hle.trans_lt (hab.trans_le hle')⟩

/-- What is not greater stays so when it falls and the other side rises. -/
theorem le_of_atMost {x x' y y' : Quantity} (hx : x'.AtMost x) (hy : y.AtMost y')
    (h : x.le y = true) : x'.le y' = true := by
  obtain ⟨a, ha, b, hb, hab⟩ := le_iff.mp h
  obtain ⟨a', ha', hle⟩ := hx.exists_left ha
  obtain ⟨b', hb', hle'⟩ := hy.exists_right hb
  exact le_iff.mpr ⟨a', ha', b', hb', hle.trans (hab.trans hle')⟩

end Quantity

/-! ### The nearest whole number -/

/-- A whole number is nearest to a rational number, and even where two are equally near. -/
structure IsNearest (x : ℚ) (n : ℕ) : Prop where
  lower : (2 * n - 1 : ℚ) ≤ 2 * x
  upper : 2 * x ≤ (2 * n + 1 : ℚ)
  evenBelow : (2 * n - 1 : ℚ) = 2 * x → Even n
  evenAbove : 2 * x = (2 * n + 1 : ℚ) → Even n

theorem isNearest_natCast (n : ℕ) : IsNearest n n where
  lower := by linarith
  upper := by linarith
  evenBelow h := by linarith
  evenAbove h := by linarith

/-- The nearest whole number rises with the number. Were it to fall, the two numbers would be the
one midway between two whole numbers, of which only one is even. -/
theorem IsNearest.mono {x y : ℚ} {m n : ℕ} (hx : IsNearest x m) (hy : IsNearest y n)
    (hxy : x ≤ y) : m ≤ n := by
  by_contra hlt
  have hsucc : n + 1 ≤ m := by omega
  have hcast : (n + 1 : ℚ) ≤ m := by exact_mod_cast hsucc
  have hmiddle : (2 * m - 1 : ℚ) = 2 * x := by linarith [hx.lower, hy.upper]
  have hmiddle' : 2 * y = (2 * n + 1 : ℚ) := by linarith [hx.lower, hy.upper]
  have heq : (m : ℚ) = n + 1 := by linarith
  have heq' : m = n + 1 := by exact_mod_cast heq
  have hm := hx.evenBelow hmiddle
  have hn := hy.evenAbove hmiddle'
  rw [heq', Nat.even_add_one] at hm
  exact hm hn

/-- Division with rounding gives the nearest whole number. -/
theorem isNearest_roundDiv (num : ℕ) {den : ℕ} (hden : 0 < den) :
    IsNearest (num / den) (roundDiv num den) := by
  have hpos : (0 : ℚ) < den := by exact_mod_cast hden
  -- Twice the quotient is twice its whole part and twice the remainder, in units of `den`.
  have htwice : 2 * ((num : ℚ) / den) = 2 * (num / den : ℕ) + (2 * (num % den) : ℕ) / den := by
    have hnum : (num : ℚ) = den * (num / den : ℕ) + (num % den : ℕ) := by
      exact_mod_cast (Nat.div_add_mod num den).symm
    rw [hnum]
    push_cast
    field_simp
  have hrest : (0 : ℚ) ≤ (2 * (num % den) : ℕ) / den := by positivity
  have hless : ((2 * (num % den) : ℕ) : ℚ) / den < 2 := by
    rw [div_lt_iff₀ hpos]
    exact_mod_cast Nat.mul_lt_mul_of_pos_left (Nat.mod_lt num hden) Nat.two_pos
  simp only [roundDiv]
  split
  · next hlow =>
    have hone : ((2 * (num % den) : ℕ) : ℚ) / den < 1 := by
      rw [div_lt_one hpos]
      exact_mod_cast hlow
    exact ⟨by linarith, by linarith, fun h ↦ by linarith, fun h ↦ by linarith⟩
  · split
    · next hhigh =>
      have hone : (1 : ℚ) < (2 * (num % den) : ℕ) / den := by
        rw [one_lt_div hpos]
        exact_mod_cast hhigh
      refine ⟨?_, ?_, fun h ↦ ?_, fun h ↦ ?_⟩ <;> push_cast at * <;> linarith
    · next hlow hhigh =>
      have hone : ((2 * (num % den) : ℕ) : ℚ) / den = 1 := by
        rw [div_eq_one_iff_eq hpos.ne']
        exact_mod_cast Nat.le_antisymm (not_lt.mp hhigh) (not_lt.mp hlow)
      rw [hone] at htwice
      split
      · next heven =>
        have heven' : Even (num / den) := Nat.even_iff.mpr (by simpa using heven)
        exact ⟨by linarith, by linarith, fun h ↦ heven', fun h ↦ heven'⟩
      · next hodd =>
        have heven' : Even (num / den + 1) := by
          rw [Nat.even_add_one, Nat.even_iff]
          simpa using hodd
        refine ⟨?_, ?_, fun _ ↦ heven', fun _ ↦ heven'⟩ <;> push_cast <;> linarith

/-! ### Leading and last bits -/

theorem twoPow_eq (e : Int) : twoPow e = (2 : ℚ) ^ e := by
  unfold twoPow
  split
  · next h =>
    obtain ⟨n, rfl⟩ := Int.eq_ofNat_of_zero_le h
    simp
  · next h =>
    obtain ⟨n, hn⟩ := Int.eq_ofNat_of_zero_le (by omega : 0 ≤ -e)
    have he : e = -(n : Int) := by omega
    subst he
    rw [Rat.mkRat_eq_div]
    simp

/-- The exponent of the leading bit of a positive rational number. -/
def leadingExponent (q : ℚ) : ℤ :=
  floorLog2 q.num.natAbs q.den

/-- The exponent of the last bit that is kept of a positive rational number. -/
def lastExponent (q : ℚ) : ℤ :=
  unitExponent q.num.natAbs q.den

theorem lastExponent_eq (q : ℚ) : lastExponent q = max (-1074) (leadingExponent q - 52) := rfl

theorem eq_natAbs_div_den {q : ℚ} (hq : 0 < q) : q = q.num.natAbs / q.den := by
  rw [Nat.cast_natAbs, abs_of_pos (Rat.num_pos.mpr hq), Rat.num_div_den]

theorem two_zpow_log2_le {n : ℕ} (hn : n ≠ 0) :
    (2 : ℚ) ^ (n.log2 : ℤ) ≤ n ∧ (n : ℚ) < 2 ^ ((n.log2 : ℤ) + 1) := by
  constructor
  · exact_mod_cast Nat.log2_self_le hn
  · exact_mod_cast Nat.lt_log2_self

theorem leadingExponent_spec {q : ℚ} (hq : 0 < q) :
    (2 : ℚ) ^ leadingExponent q ≤ q ∧ q < (2 : ℚ) ^ (leadingExponent q + 1) := by
  have hnum : q.num.natAbs ≠ 0 := by
    rw [Int.natAbs_ne_zero]
    exact (Rat.num_pos.mpr hq).ne'
  have hden : (0 : ℚ) < q.den := by exact_mod_cast q.den_pos
  have hself : q = q.num.natAbs / q.den := eq_natAbs_div_den hq
  have hmk : mkRat q.num.natAbs q.den = q := by
    rw [Rat.mkRat_eq_div, Int.cast_natCast]
    exact hself.symm
  obtain ⟨hlow, hhigh⟩ := two_zpow_log2_le hnum
  obtain ⟨hlow', hhigh'⟩ := two_zpow_log2_le q.den_nz
  simp only [leadingExponent, floorLog2, hmk, twoPow_eq]
  generalize (q.num.natAbs.log2 : ℤ) = a at *
  generalize (q.den.log2 : ℤ) = b at *
  split
  · next h =>
    refine ⟨h, ?_⟩
    rw [hself, div_lt_iff₀ hden]
    calc (q.num.natAbs : ℚ) < 2 ^ (a + 1) := hhigh
      _ = 2 ^ (a - b + 1) * 2 ^ b := by rw [← zpow_add₀ two_ne_zero]; congr 1; ring
      _ ≤ 2 ^ (a - b + 1) * q.den := by gcongr
  · next h =>
    rw [sub_add_cancel]
    refine ⟨?_, not_le.mp h⟩
    rw [hself, le_div_iff₀ hden]
    calc (2 : ℚ) ^ (a - b - 1) * q.den ≤ 2 ^ (a - b - 1) * 2 ^ (b + 1) := by gcongr
      _ = 2 ^ a := by rw [← zpow_add₀ two_ne_zero]; congr 1; ring
      _ ≤ q.num.natAbs := hlow

theorem leadingExponent_mono {p q : ℚ} (hp : 0 < p) (hpq : p ≤ q) :
    leadingExponent p ≤ leadingExponent q := by
  have hlow := (leadingExponent_spec hp).1
  have hhigh := (leadingExponent_spec (hp.trans_le hpq)).2
  have hpow : (2 : ℚ) ^ leadingExponent p < 2 ^ (leadingExponent q + 1) :=
    (hlow.trans hpq).trans_lt hhigh
  have hexponents := (zpow_lt_zpow_iff_right₀ one_lt_two).mp hpow
  omega

/-! ### Rounding to binary fractions -/

/-- A positive rational number is rounded to the nearest multiple of its last bit. -/
theorem roundPositive_eq {q : ℚ} (hq : 0 < q) : ∃ m : ℕ,
    IsNearest (q / 2 ^ lastExponent q) m ∧
      Quantity.roundPositive q =
        if (2 : ℚ) ^ (1024 : ℤ) ≤ m * 2 ^ lastExponent q then .infinite false
        else .finite (m * 2 ^ lastExponent q) := by
  have hself : q = q.num.natAbs / q.den := eq_natAbs_div_den hq
  simp only [Quantity.roundPositive, twoPow_eq]
  rw [← lastExponent]
  refine ⟨_, ?_, rfl⟩
  split
  · next he =>
    have hscaled : q / 2 ^ lastExponent q =
        (q.num.natAbs : ℚ) / (q.den * Nat.pow 2 (lastExponent q).toNat : ℕ) := by
      have hpow : (2 : ℚ) ^ lastExponent q = (Nat.pow 2 (lastExponent q).toNat : ℕ) := by
        rw [← twoPow_eq, twoPow, if_pos he]
      rw [hpow, Nat.cast_mul, ← div_div, ← hself]
    rw [hscaled]
    exact isNearest_roundDiv _ (Nat.mul_pos q.den_pos (Nat.two_pow_pos _))
  · next he =>
    have hscaled : q / 2 ^ lastExponent q =
        ((q.num.natAbs * Nat.pow 2 (-lastExponent q).toNat : ℕ) : ℚ) / q.den := by
      have hpow : (2 : ℚ) ^ lastExponent q = 1 / (Nat.pow 2 (-lastExponent q).toNat : ℕ) := by
        rw [← twoPow_eq, twoPow, if_neg he, Rat.mkRat_eq_div, Int.cast_one]
      rw [hpow, Nat.cast_mul, div_div_eq_mul_div, div_one, mul_div_right_comm, ← hself]
    rw [hscaled]
    exact isNearest_roundDiv _ q.den_pos

/-- A power of two is a multiple of every smaller one. -/
theorem two_zpow_eq_mul {e k : ℤ} (h : e ≤ k) :
    (2 : ℚ) ^ k = (2 ^ (k - e).toNat : ℕ) * 2 ^ e := by
  have hcast : ((2 ^ (k - e).toNat : ℕ) : ℚ) = 2 ^ (k - e) := by
    rw [Nat.cast_pow, Nat.cast_ofNat, ← zpow_natCast, Int.toNat_of_nonneg (by omega)]
  rw [hcast, ← zpow_add₀ two_ne_zero, sub_add_cancel]

theorem IsNearest.mul_le_two_zpow {x : ℚ} {e k : ℤ} {m : ℕ} (hm : IsNearest (x / 2 ^ e) m)
    (hek : e ≤ k) (hx : x ≤ 2 ^ k) : (m : ℚ) * 2 ^ e ≤ 2 ^ k := by
  have hscaled : x / 2 ^ e ≤ (2 ^ (k - e).toNat : ℕ) := by
    rwa [div_le_iff₀ (by positivity), ← two_zpow_eq_mul hek]
  have hle : m ≤ 2 ^ (k - e).toNat := hm.mono (isNearest_natCast _) hscaled
  rw [two_zpow_eq_mul hek]
  gcongr

theorem IsNearest.two_zpow_le_mul {x : ℚ} {e k : ℤ} {m : ℕ} (hm : IsNearest (x / 2 ^ e) m)
    (hek : e ≤ k) (hx : 2 ^ k ≤ x) : (2 : ℚ) ^ k ≤ m * 2 ^ e := by
  have hscaled : ((2 ^ (k - e).toNat : ℕ) : ℚ) ≤ x / 2 ^ e := by
    rwa [le_div_iff₀ (by positivity), ← two_zpow_eq_mul hek]
  have hle : 2 ^ (k - e).toNat ≤ m := (isNearest_natCast _).mono hm hscaled
  rw [two_zpow_eq_mul hek]
  gcongr

/-- Rounding keeps the order: of two numbers with the same last bit because the nearest whole
number does, and otherwise because the leading power of the greater one lies between them. -/
theorem rounded_le {p q : ℚ} (hp : 0 < p) (hpq : p ≤ q) {m n : ℕ}
    (hm : IsNearest (p / 2 ^ lastExponent p) m) (hn : IsNearest (q / 2 ^ lastExponent q) n) :
    (m : ℚ) * 2 ^ lastExponent p ≤ n * 2 ^ lastExponent q := by
  have hleading := leadingExponent_mono hp hpq
  have hp' := lastExponent_eq p
  have hq' := lastExponent_eq q
  by_cases hlast : lastExponent p = lastExponent q
  · rw [← hlast] at hn ⊢
    have hmn : m ≤ n := hm.mono hn (by gcongr)
    gcongr
  · have hbetween : p ≤ 2 ^ leadingExponent q := by
      refine (leadingExponent_spec hp).2.le.trans ?_
      exact zpow_le_zpow_right₀ one_le_two (by omega)
    calc (m : ℚ) * 2 ^ lastExponent p ≤ 2 ^ leadingExponent q :=
          hm.mul_le_two_zpow (by omega) hbetween
      _ ≤ n * 2 ^ lastExponent q :=
          hn.two_zpow_le_mul (by omega) (leadingExponent_spec (hp.trans_le hpq)).1

theorem roundPositive_atMost {p q : ℚ} (hp : 0 < p) (hpq : p ≤ q) :
    (Quantity.roundPositive p).AtMost (Quantity.roundPositive q) := by
  obtain ⟨m, hm, hpround⟩ := roundPositive_eq hp
  obtain ⟨n, hn, hqround⟩ := roundPositive_eq (hp.trans_le hpq)
  have hle := rounded_le hp hpq hm hn
  rw [hpround, hqround]
  refine Or.inr ?_
  split
  · next hinfinite =>
    rw [if_pos (hinfinite.trans hle)]
    rfl
  · split
    · rfl
    · simpa [Quantity.le, Quantity.lt] using hle

/-- Rounding to binary fractions keeps the order of numbers that are not negative. -/
theorem Quantity.ofRat_atMost {p q : ℚ} (hp : 0 ≤ p) (hpq : p ≤ q) :
    (Quantity.ofRat p).AtMost (Quantity.ofRat q) := by
  have hpositive : ∀ {r : ℚ}, 0 < r → Quantity.ofRat r = Quantity.roundPositive r := by
    intro r hr
    simp [Quantity.ofRat, hr.ne', hr]
  rcases hp.eq_or_lt with rfl | hp
  · rcases hpq.eq_or_lt with rfl | hq
    · exact AtMost.refl _
    · obtain ⟨n, -, hround⟩ := roundPositive_eq hq
      rw [hpositive hq, hround]
      refine Or.inr ?_
      split
      · rfl
      · have hnonneg : (0 : ℚ) ≤ n * 2 ^ lastExponent q := by positivity
        simpa [Quantity.ofRat, Quantity.le, Quantity.lt] using hnonneg
  · rw [hpositive hp, hpositive (hp.trans_le hpq)]
    exact roundPositive_atMost hp hpq

/-- Of two quotients by one count the one of the greater count is not smaller, also when rounded. -/
theorem Quantity.ratio_atMost {m n : ℕ} (h : m ≤ n) (den : ℕ) [Divisor den] :
    (Quantity.ratio m den).AtMost (Quantity.ratio n den) := by
  refine Quantity.ofRat_atMost ?_ ?_
  · rw [quotient, Rat.mkRat_eq_div]
    positivity
  · rw [quotient, quotient, Rat.mkRat_eq_div, Rat.mkRat_eq_div]
    gcongr

end CodeSmells
