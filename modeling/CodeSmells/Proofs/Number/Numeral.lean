import CodeSmells.Detector.PrimitiveObsession
import CodeSmells.Proofs.Text.Scan

/-!
# Every number literal can be read

The search for magic numbers takes a piece of code for a number when it is digits, with a point and
a fraction or without, and then reads its value. The two steps follow different rules: the search
goes by word boundaries and stops early where a word goes on, while the reader wants the whole text
and knows signs, underscores and exponents. `isMagic_answers` shows that they agree on what matters:
whatever text is searched, no literal that is found is refused by the reader.

`IsNumeral` is the common ground. What is found is a numeral (`isNumeral_of_numberLiteral`), and a
numeral is read (`read?_isSome`), for digits of every script.
-/

set_option autoImplicit false
set_option relaxedAutoImplicit false

namespace CodeSmells

open Text

/-- Digits of any script, then nothing, or a point and perhaps more digits. -/
inductive IsNumeral : List Char → Prop
  | plain {ds : List Char} (hne : ds ≠ []) (hds : ∀ c ∈ ds, isDecimal c = true) : IsNumeral ds
  | pointed {ds part : List Char} (hne : ds ≠ []) (hds : ∀ c ∈ ds, isDecimal c = true)
      (hpart : ∀ c ∈ part, isDecimal c = true) : IsNumeral (ds ++ '.' :: part)

/-! ### Numerals are read -/

/-- The ranges of decimal digits keep clear of the blanks. -/
theorem decimalRanges_clear : ∀ r ∈ decimalRanges.toList,
    (48 ≤ r.1 ∧ r.2 < 128) ∨ (161 ≤ r.1 ∧ r.2 < 5760) ∨ (5760 < r.1 ∧ r.2 < 8192) ∨
      12288 < r.1 := by
  decide

/-- The code points of decimal digits keep clear of the blanks. -/
theorem toNat_of_isDecimal {c : Char} (h : isDecimal c = true) :
    (48 ≤ c.toNat ∧ c.toNat < 128) ∨ (161 ≤ c.toNat ∧ c.toNat < 5760) ∨
      (5760 < c.toNat ∧ c.toNat < 8192) ∨ 12288 < c.toNat := by
  unfold isDecimal digitValue? at h
  split at h
  · next hascii =>
    split at h
    · next hdigit =>
      rw [Char.isDigit, Bool.and_eq_true, decide_eq_true_eq, decide_eq_true_eq] at hdigit
      exact Or.inl ⟨hdigit.1, hascii⟩
    · cases h
  · next hascii =>
    rw [Option.isSome_map, Array.find?_isSome] at h
    obtain ⟨⟨lo, hi⟩, hr, hin⟩ := h
    have hclear := decimalRanges_clear (lo, hi) (Array.mem_def.mp hr)
    simp only [Bool.and_eq_true, decide_eq_true_eq] at hin
    omega

/-- A decimal digit is not blank. -/
theorem isBlank_of_isDecimal {c : Char} (h : isDecimal c = true) : isBlank c = false := by
  have hclear := toNat_of_isDecimal h
  simp only [isBlank, Bool.or_eq_false_iff, Bool.and_eq_false_iff, decide_eq_false_iff_not,
    beq_eq_false_iff_ne]
  omega

/-- A text without blanks is trimmed already. -/
theorem trim_eq_self {cs : List Char} (h : ∀ c ∈ cs, isBlank c = false) : trim cs = cs := by
  have hdrop : ∀ ds : List Char, (∀ c ∈ ds, isBlank c = false) → ds.dropWhile isBlank = ds := by
    intro ds hds
    cases ds with
    | nil => rfl
    | cons d ds => rw [List.dropWhile_cons, hds d List.mem_cons_self, if_neg Bool.false_ne_true]
  rw [trim, dropAround, dropTrailing, dropLeading, hdrop cs h,
    hdrop cs.reverse fun c hc ↦ h c (List.mem_reverse.mp hc), List.reverse_reverse]

/-- Digits are read to their end where a point or nothing follows. -/
theorem digitRun_append {ds rest : List Char} (hds : ∀ c ∈ ds, isDecimal c = true)
    (hrest : rest = [] ∨ ∃ part, rest = '.' :: part) : ∀ after : Bool, ∃ values : List Nat,
    digitRun after (ds ++ rest) = (values, rest) ∧ values.length = ds.length := by
  induction ds with
  | nil =>
    intro after
    rcases hrest with rfl | ⟨part, rfl⟩
    · exact ⟨[], rfl, rfl⟩
    · exact ⟨[], rfl, rfl⟩
  | cons c ds ih =>
    intro after
    obtain ⟨d, hd⟩ := Option.isSome_iff_exists.mp (hds c List.mem_cons_self)
    obtain ⟨values, hrun, hlength⟩ := ih (fun e he ↦ hds e (List.mem_cons_of_mem _ he)) true
    refine ⟨d :: values, ?_, by rw [List.length_cons, List.length_cons, hlength]⟩
    simp only [List.cons_append, digitRun, hd, hrun]

theorem isEmpty_of_length_eq {values : List Nat} {ds : List Char} (hne : ds ≠ [])
    (h : values.length = ds.length) : values.isEmpty = false := by
  cases values with
  | nil => exact (hne (List.length_eq_zero_iff.mp h.symm)).elim
  | cons v values => rfl

/-- A numeral without a sign is a number. -/
theorem unsigned?_isSome {cs : List Char} (h : IsNumeral cs) : (unsigned? cs).isSome = true := by
  unfold unsigned?
  split
  · rfl
  split
  · rfl
  -- The names of the infinities and of the undefined quantity are numbers too; digits are left.
  cases h with
  | plain hne hds =>
    obtain ⟨values, hrun, hlength⟩ := digitRun_append hds (Or.inl rfl) false
    rw [List.append_nil] at hrun
    simp [hrun, isEmpty_of_length_eq hne hlength, exponent?]
  | @pointed ds part hne hds hpart =>
    obtain ⟨values, hrun, hlength⟩ := digitRun_append hds (Or.inr ⟨part, rfl⟩) false
    obtain ⟨fraction, hfraction, -⟩ := digitRun_append hpart (Or.inl rfl) false
    rw [List.append_nil] at hfraction
    simp [hrun, hfraction, isEmpty_of_length_eq hne hlength, exponent?]

theorem IsNumeral.not_blank {cs : List Char} (h : IsNumeral cs) :
    ∀ c ∈ cs, isBlank c = false := by
  cases h with
  | plain hne hds => exact fun c hc ↦ isBlank_of_isDecimal (hds c hc)
  | pointed hne hds hpart =>
    intro c hc
    rcases List.mem_append.mp hc with hwhole | hrest
    · exact isBlank_of_isDecimal (hds c hwhole)
    · rcases List.mem_cons.mp hrest with rfl | hfraction
      · decide
      · exact isBlank_of_isDecimal (hpart c hfraction)

/-- A numeral starts with a digit, so with no sign. -/
theorem IsNumeral.exists_cons {cs : List Char} (h : IsNumeral cs) :
    ∃ c rest, cs = c :: rest ∧ isDecimal c = true := by
  cases h with
  | plain hne hds =>
    obtain ⟨c, rest, rfl⟩ := List.exists_cons_of_ne_nil hne
    exact ⟨c, rest, rfl, hds c List.mem_cons_self⟩
  | pointed hne hds hpart =>
    obtain ⟨c, rest, rfl⟩ := List.exists_cons_of_ne_nil hne
    exact ⟨c, _, rfl, hds c List.mem_cons_self⟩

/-- A numeral is read. -/
theorem read?_isSome {cs : List Char} (h : IsNumeral cs) : (Quantity.read? cs).isSome = true := by
  unfold Quantity.read?
  rw [trim_eq_self h.not_blank]
  obtain ⟨c, rest, rfl, hc⟩ := h.exists_cons
  split
  · next heq =>
    cases heq
    cases hc
  · next heq =>
    cases heq
    cases hc
  · exact unsigned?_isSome h

/-! ### What is found is a numeral -/

/-- What the search for numbers takes for one is a numeral. -/
theorem isNumeral_of_numberLiteral {before : Option Char} {cs literal rest : List Char}
    (h : PrimitiveObsession.numberLiteral before cs = some (literal, rest)) :
    IsNumeral literal := by
  unfold PrimitiveObsession.numberLiteral at h
  split at h
  · cases h
  split at h
  · cases h
  · next hrun =>
    obtain ⟨hne, hds⟩ := of_run?_eq_some hrun
    simp only at h
    split at h
    · cases h
      exact .pointed hne hds fun c hc ↦ (List.not_mem_nil hc).elim
    split at h
    · cases h
      exact .plain hne hds
    · cases h
      exact .pointed hne hds fun c hc ↦ List.mem_takeWhile_imp hc
  · next hrun =>
    obtain ⟨hne, hds⟩ := of_run?_eq_some hrun
    split at h
    · cases h
    · cases h
      exact .plain hne hds

/-- No literal that is found is refused by the reader. -/
theorem isMagic_answers {cs literal : List Char}
    (h : literal ∈ PrimitiveObsession.numberLiteral.findAll cs) :
    ∃ magic, PrimitiveObsession.isMagic literal = .ok magic := by
  obtain ⟨before, text, rest, hfound⟩ := Pattern.exists_of_mem_findFrom _ _ _ h
  obtain ⟨x, hx⟩ := Option.isSome_iff_exists.mp (read?_isSome (isNumeral_of_numberLiteral hfound))
  refine ⟨PrimitiveObsession.isMagicQuantity x, ?_⟩
  rw [PrimitiveObsession.isMagic, PrimitiveObsession.isMagicNumber?, hx, Option.map_some]

end CodeSmells
