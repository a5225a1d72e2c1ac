import CodeSmells.Text.Scan
import Mathlib.Data.List.DropRight
import Mathlib.Data.List.TakeWhile

/-!
# Blanks around a text

A line is looked at without the blanks around it, while a text that is put after a line comes after
its blanks too. `IgnoresBlanks` is the property by which the two views agree: what is read off a
text is then read off the trimmed text (`IgnoresBlanks.apply_trim`). It holds of the words of a text
(`ignoresBlanks_words`), and of the occurrences of a pattern that neither starts with a blank nor
gains or loses one by blanks at the end (`Pattern.SkipsBlanks`). A text that has no blanks at its
ends is one that trimming leaves alone (`trim_eq_self_iff`).
-/

set_option autoImplicit false
set_option relaxedAutoImplicit false

namespace CodeSmells.Text

/-- What is read off a text stays when blanks are put around the text. -/
def IgnoresBlanks {α : Type} (read : List Char → α) : Prop :=
  ∀ lead cs trail : List Char, (∀ c ∈ lead, isBlank c = true) → (∀ c ∈ trail, isBlank c = true) →
    read (lead ++ cs ++ trail) = read cs

theorem ne_of_isBlank {c d : Char} (hc : isBlank c = true) (hd : isBlank d = false) : c ≠ d := by
  rintro rfl
  exact Bool.false_ne_true (hd.symm.trans hc)

theorem notQuoteMark_of_isBlank {c : Char} (h : isBlank c = true) : notQuoteMark c = true := by
  simp only [notQuoteMark, Bool.and_eq_true, bne_iff_ne]
  exact ⟨ne_of_isBlank h (by decide), ne_of_isBlank h (by decide)⟩

/-! ### Trimming -/

section Ends

variable {p : Char → Bool} {cs : List Char}

/-- What is left when characters are dropped at the ends of a text does not start with one of
them. -/
theorem head?_dropAround : ∀ c ∈ (dropAround p cs).head?, p c = false := by
  intro c hc
  have hprefix : dropAround p cs <+: cs.dropWhile p := List.rdropWhile_prefix _ _
  obtain ⟨rest, hrest⟩ := hprefix
  obtain ⟨tail, htail⟩ := List.head?_eq_some_iff.mp hc
  rw [htail, List.cons_append] at hrest
  have hpos : 0 < (cs.dropWhile p).length := by
    rw [← hrest]
    exact Nat.succ_pos _
  have hfirst := List.dropWhile_get_zero_not p cs hpos
  simpa [← hrest] using hfirst

/-- Nor does it end with one of them. -/
theorem getLast?_dropAround : ∀ c ∈ (dropAround p cs).getLast?, p c = false := by
  intro c hc
  have hne : (cs.dropWhile p).rdropWhile p ≠ [] := by
    intro hnil
    have hlast : ((cs.dropWhile p).rdropWhile p).getLast? = some c := hc
    rw [hnil] at hlast
    cases hlast
  have hlast := List.rdropWhile_last_not p _ hne
  have hsame : ((cs.dropWhile p).rdropWhile p).getLast hne = c :=
    Option.some.inj ((List.getLast?_eq_some_getLast hne).symm.trans hc)
  rw [hsame] at hlast
  exact Bool.eq_false_iff.mpr hlast

theorem mem_of_mem_dropAround {c : Char} (h : c ∈ dropAround p cs) : c ∈ cs :=
  (List.dropWhile_suffix p).subset ((List.rdropWhile_prefix p (cs.dropWhile p)).subset h)

/-- A text loses nothing at its ends when neither its first nor its last character is dropped. -/
theorem dropAround_eq_self_iff :
    dropAround p cs = cs ↔ (∀ c ∈ cs.head?, p c = false) ∧ ∀ c ∈ cs.getLast?, p c = false := by
  constructor
  · intro h
    rw [← h]
    exact ⟨head?_dropAround, getLast?_dropAround⟩
  · rintro ⟨hfirst, hlast⟩
    have hdrop : cs.dropWhile p = cs := by
      cases cs with
      | nil => rfl
      | cons c cs => simpa [List.dropWhile_eq_self_iff] using hfirst
    have hrdrop : cs.rdropWhile p = cs := by
      rw [List.rdropWhile_eq_self_iff]
      intro hne
      rw [hlast _ (List.getLast?_eq_some_getLast hne)]
      exact Bool.false_ne_true
    calc dropAround p cs = (cs.dropWhile p).rdropWhile p := rfl
      _ = cs := by rw [hdrop, hrdrop]

end Ends

/-- A text is trimmed when neither its first nor its last character is a blank. -/
theorem trim_eq_self_iff {cs : List Char} :
    trim cs = cs ↔ (∀ c ∈ cs.head?, isBlank c = false) ∧ ∀ c ∈ cs.getLast?, isBlank c = false :=
  dropAround_eq_self_iff

/-- A text between two trimmed ends is trimmed. -/
theorem trim_append_append {front back : List Char} (hfront : trim front = front)
    (hback : trim back = back) (hne : front ≠ []) (hne' : back ≠ []) (mid : List Char) :
    trim (front ++ mid ++ back) = front ++ mid ++ back := by
  rw [trim_eq_self_iff] at hfront hback ⊢
  constructor
  · rw [List.append_assoc, List.head?_append_of_ne_nil _ hne]
    exact hfront.1
  · rw [List.getLast?_append_of_ne_nil _ hne']
    exact hback.2

/-- A text is its trimmed text with blanks around it. -/
theorem exists_eq_trim (cs : List Char) : ∃ lead trail : List Char,
    cs = lead ++ trim cs ++ trail ∧ (∀ c ∈ lead, isBlank c = true) ∧
      ∀ c ∈ trail, isBlank c = true := by
  refine ⟨cs.takeWhile isBlank, (cs.dropWhile isBlank).rtakeWhile isBlank, ?_,
    fun c hc ↦ List.mem_takeWhile_imp hc, fun c hc ↦ List.mem_rtakeWhile_imp hc⟩
  have htrim : trim cs = (cs.dropWhile isBlank).rdropWhile isBlank := rfl
  rw [htrim, List.append_assoc, List.rdropWhile_append_rtakeWhile, List.takeWhile_append_dropWhile]

theorem ignoresBlanks_trim : IgnoresBlanks trim := by
  intro lead cs trail hlead htrail
  have hlast : ∀ ds : List Char, dropTrailing isBlank (ds ++ trail) = dropTrailing isBlank ds := by
    intro ds
    rw [dropTrailing, dropTrailing, List.reverse_append, List.dropWhile_append_of_pos]
    exact fun c hc ↦ htrail c (List.mem_reverse.mp hc)
  rw [trim, trim, dropAround, dropAround, dropLeading, dropLeading, List.append_assoc,
    List.dropWhile_append_of_pos hlead, List.dropWhile_append]
  split
  · next hempty =>
    have hnone : trail.dropWhile isBlank = [] := List.dropWhile_eq_nil_iff.mpr htrail
    rw [hnone, List.isEmpty_iff.mp hempty]
  · exact hlast _

theorem IgnoresBlanks.apply_trim {α : Type} {read : List Char → α} (h : IgnoresBlanks read)
    (cs : List Char) : read (trim cs) = read cs := by
  obtain ⟨lead, trail, hcs, hlead, htrail⟩ := exists_eq_trim cs
  calc read (trim cs) = read (lead ++ trim cs ++ trail) := (h lead _ trail hlead htrail).symm
    _ = read cs := by rw [← hcs]

theorem trim_cons_blank {c : Char} (hc : isBlank c = true) (cs : List Char) :
    trim (c :: cs) = trim cs := by
  have hblank : ∀ d ∈ [c], isBlank d = true := fun d hd ↦ List.mem_singleton.mp hd ▸ hc
  simpa using ignoresBlanks_trim [c] cs [] hblank nofun

theorem trim_concat_blank {c : Char} (hc : isBlank c = true) (cs : List Char) :
    trim (cs ++ [c]) = trim cs := by
  have hblank : ∀ d ∈ [c], isBlank d = true := fun d hd ↦ List.mem_singleton.mp hd ▸ hc
  simpa using ignoresBlanks_trim [] cs [c] nofun hblank

/-! ### Words -/

/-- The ranges of letters and numbers keep clear of the blanks. -/
theorem alphanumericRanges_clear : ∀ r ∈ alphanumericRanges.toList,
    (161 ≤ r.1 ∧ r.2 < 5760) ∨ (5760 < r.1 ∧ r.2 < 8192) ∨ (8202 < r.1 ∧ r.2 < 8232) ∨
      (8233 < r.1 ∧ r.2 < 8239) ∨ (8239 < r.1 ∧ r.2 < 8287) ∨ (8287 < r.1 ∧ r.2 < 12288) ∨
      12288 < r.1 := by
  decide +kernel

/-- The code points of letters and numbers keep clear of the blanks. -/
theorem toNat_of_isAlphanumeric {c : Char} (h : isAlphanumeric c = true) :
    (48 ≤ c.toNat ∧ c.toNat < 128) ∨ ∃ r ∈ alphanumericRanges.toList,
      r.1 ≤ c.toNat ∧ c.toNat ≤ r.2 := by
  rw [isAlphanumeric] at h
  split at h
  · next hascii =>
    have hkinds : ((decide (65 ≤ c.val ∧ c.val ≤ 90) ||
        decide (97 ≤ c.val) && decide (c.val ≤ 122)) ||
        decide (48 ≤ c.val) && decide (c.val ≤ 57)) = true := h
    simp only [Bool.or_eq_true, Bool.and_eq_true, decide_eq_true_eq] at hkinds
    have hlow : 48 ≤ c.toNat := by
      rcases hkinds with (⟨hlo, -⟩ | ⟨hlo, -⟩) | ⟨hlo, -⟩
      · exact Nat.le_trans (by decide) (UInt32.le_iff_toNat_le.mp hlo)
      · exact Nat.le_trans (by decide) (UInt32.le_iff_toNat_le.mp hlo)
      · exact UInt32.le_iff_toNat_le.mp hlo
    exact Or.inl ⟨hlow, hascii⟩
  · obtain ⟨r, hr, hin⟩ := Array.any_eq_true'.mp h
    simp only [Bool.and_eq_true, decide_eq_true_eq] at hin
    exact Or.inr ⟨r, Array.mem_def.mp hr, hin⟩

/-- A blank is no part of a word. -/
theorem isWord_of_isBlank {c : Char} (h : isBlank c = true) : isWord c = false := by
  have hscore : c ≠ '_' := ne_of_isBlank h (by decide)
  simp only [isBlank, Bool.or_eq_true, Bool.and_eq_true, decide_eq_true_eq, beq_iff_eq] at h
  have hplain : isAlphanumeric c = false := by
    refine Bool.eq_false_iff.mpr fun hletter ↦ ?_
    rcases toNat_of_isAlphanumeric hletter with hascii | ⟨r, hr, hin⟩
    · omega
    · have hclear := alphanumericRanges_clear r hr
      omega
  rw [isWord, hplain, Bool.false_or, beq_eq_false_iff_ne]
  exact hscore

/-- A character of a word is no blank. -/
theorem isBlank_of_isWord {c : Char} (h : isWord c = true) : isBlank c = false :=
  Bool.eq_false_iff.mpr fun hblank ↦ Bool.false_ne_true ((isWord_of_isBlank hblank).symm.trans h)

theorem wordsFrom_append_cons {c : Char} (hc : isWord c = false) (rest front run : List Char) :
    wordsFrom run (front ++ c :: rest) = wordsFrom run front ++ words rest := by
  induction front generalizing run with
  | nil =>
    rw [List.nil_append, wordsFrom, wordsFrom, hc, if_neg Bool.false_ne_true]
    split <;> rfl
  | cons d front ih =>
    rw [List.cons_append, wordsFrom, wordsFrom]
    split
    · exact ih _
    · split
      · exact ih []
      · rw [ih [], List.cons_append]

/-- A character outside the words divides the words of a text. -/
theorem words_append_cons {c : Char} (hc : isWord c = false) (front rest : List Char) :
    words (front ++ c :: rest) = words front ++ words rest :=
  wordsFrom_append_cons hc rest front []

theorem words_blanks_append {lead : List Char} (hlead : ∀ c ∈ lead, isBlank c = true)
    (cs : List Char) : words (lead ++ cs) = words cs := by
  induction lead with
  | nil => rfl
  | cons c lead ih =>
    rw [List.forall_mem_cons] at hlead
    have hfirst := words_append_cons (isWord_of_isBlank hlead.1) [] (lead ++ cs)
    rwa [ih hlead.2] at hfirst

theorem ignoresBlanks_words : IgnoresBlanks words := by
  intro lead cs trail hlead htrail
  rw [List.append_assoc, words_blanks_append hlead]
  cases trail with
  | nil => rw [List.append_nil]
  | cons c trail =>
    rw [List.forall_mem_cons] at htrail
    have hnone : words (trail ++ []) = words [] := words_blanks_append htrail.2 []
    rw [List.append_nil] at hnone
    rw [words_append_cons (isWord_of_isBlank htrail.1), hnone]
    exact List.append_nil _

/-! ### Reading up to the blanks at the end -/

section Trail

variable {trail : List Char}

theorem oneOf?_append {ks : List Char} (hks : ks.any isBlank = false) (cs : List Char)
    (htrail : ∀ c ∈ trail, isBlank c = true) :
    oneOf? ks (cs ++ trail) = (oneOf? ks cs).map (· ++ trail) := by
  cases cs with
  | cons c cs =>
    rw [List.cons_append, oneOf?, oneOf?]
    split <;> rfl
  | nil =>
    cases trail with
    | nil => rfl
    | cons c trail =>
      have hc : c ∉ ks := fun hin ↦ List.any_eq_false.mp hks c hin (htrail c List.mem_cons_self)
      rw [List.nil_append, oneOf?, if_neg (by simpa using hc)]
      rfl

theorem oneOf?_skipBlanks_append {ks : List Char} (hks : ks.any isBlank = false) (cs : List Char)
    (htrail : ∀ c ∈ trail, isBlank c = true) :
    oneOf? ks (skipBlanks (cs ++ trail)) = (oneOf? ks (skipBlanks cs)).map (· ++ trail) := by
  rw [skipBlanks, skipBlanks, List.dropWhile_append]
  split
  · next hempty =>
    rw [List.dropWhile_eq_nil_iff.mpr htrail, List.isEmpty_iff.mp hempty]
    rfl
  · exact oneOf?_append hks _ htrail

theorem quoteMark?_append (cs : List Char) (htrail : ∀ c ∈ trail, isBlank c = true) :
    quoteMark? (cs ++ trail) = (quoteMark? cs).map (· ++ trail) :=
  oneOf?_append (by decide) cs htrail

theorem quoteMark?_skipBlanks_append (cs : List Char) (htrail : ∀ c ∈ trail, isBlank c = true) :
    quoteMark? (skipBlanks (cs ++ trail)) = (quoteMark? (skipBlanks cs)).map (· ++ trail) :=
  oneOf?_skipBlanks_append (by decide) cs htrail

theorem char?_skipBlanks_append {k : Char} (hk : isBlank k = false) (cs : List Char)
    (htrail : ∀ c ∈ trail, isBlank c = true) :
    char? k (skipBlanks (cs ++ trail)) = (char? k (skipBlanks cs)).map (· ++ trail) := by
  have hone : ∀ ds, char? k ds = oneOf? [k] ds := by
    intro ds
    cases ds with
    | nil => rfl
    | cons d ds => simp [char?, oneOf?]
  rw [hone, hone, oneOf?_skipBlanks_append (by simpa using hk) cs htrail]

theorem after?_append {needle : List Char} (hneedle : needle.any isBlank = false)
    (cs : List Char) (htrail : ∀ c ∈ trail, isBlank c = true) :
    after? needle (cs ++ trail) = (after? needle cs).map (· ++ trail) := by
  fun_induction after? needle cs with
  | case1 cs => rfl
  | case2 n ns =>
    cases trail with
    | nil => rfl
    | cons c trail =>
      rw [List.any_cons, Bool.or_eq_false_iff] at hneedle
      have hn : n ≠ c := (ne_of_isBlank (htrail c List.mem_cons_self) hneedle.1).symm
      rw [List.nil_append, after?, if_neg (by simpa using hn)]
      rfl
  | case3 n ns c cs heq ih =>
    rw [List.any_cons, Bool.or_eq_false_iff] at hneedle
    rw [List.cons_append, after?, if_pos heq, ih hneedle.2]
  | case4 n ns c cs hne =>
    rw [List.cons_append, after?, if_neg hne]
    rfl

/-- A run of characters up to a quotation mark. -/
def quotedRun? (cs : List Char) : Option (List Char × List Char) := do
  let (body, rest) ← run? notQuoteMark cs
  let rest ← quoteMark? rest
  return (body, rest)

theorem quotedRun?_eq (cs : List Char) : quotedRun? cs =
    if cs.takeWhile notQuoteMark = [] then none
    else (quoteMark? (cs.dropWhile notQuoteMark)).map fun rest ↦
      (cs.takeWhile notQuoteMark, rest) := by
  rw [quotedRun?, run?]
  cases cs.takeWhile notQuoteMark with
  | nil => rfl
  | cons c body =>
    simp only [reduceCtorEq, if_false, Option.map_eq_bind]
    rfl

theorem quotedRun?_append (cs : List Char) (htrail : ∀ c ∈ trail, isBlank c = true) :
    quotedRun? (cs ++ trail) = (quotedRun? cs).map fun found ↦ (found.1, found.2 ++ trail) := by
  by_cases hopen : cs.dropWhile notQuoteMark = []
  · -- there is no quotation mark at all, so that nothing ends the run
    have hnone : ∀ ds : List Char, ds.dropWhile notQuoteMark = [] → quotedRun? ds = none := by
      intro ds hds
      rw [quotedRun?_eq, hds]
      split <;> rfl
    rw [hnone cs hopen, hnone]
    · rfl
    · rw [List.dropWhile_append_of_pos (List.dropWhile_eq_nil_iff.mp hopen),
        List.dropWhile_eq_nil_iff]
      exact fun c hc ↦ notQuoteMark_of_isBlank (htrail c hc)
  · have hlength : ¬(cs.takeWhile notQuoteMark).length = cs.length := by
      intro heq
      have hsplit := congrArg List.length (cs.takeWhile_append_dropWhile (p := notQuoteMark))
      rw [List.length_append, heq] at hsplit
      exact hopen (List.length_eq_zero_iff.mp (by omega))
    have htake : (cs ++ trail).takeWhile notQuoteMark = cs.takeWhile notQuoteMark := by
      rw [List.takeWhile_append, if_neg hlength]
    have hdrop : (cs ++ trail).dropWhile notQuoteMark = cs.dropWhile notQuoteMark ++ trail := by
      rw [List.dropWhile_append, if_neg (by simpa using hopen)]
    rw [quotedRun?_eq, quotedRun?_eq, htake, hdrop, quoteMark?_append _ htrail]
    split
    · rfl
    · rw [Option.map_map, Option.map_map]
      rfl

end Trail

/-! ### Occurrences -/

namespace Pattern

variable {α : Type} {p : Pattern α}

/-- A pattern that does not look back, never starts with a blank, and reads the same where blanks
follow the text. -/
structure SkipsBlanks (p : Pattern α) : Prop where
  before : ∀ before cs, p before cs = p none cs
  empty : p none [] = none
  lead : ∀ c cs, isBlank c = true → p none (c :: cs) = none
  trail : ∀ cs trail : List Char, (∀ c ∈ trail, isBlank c = true) →
    p none (cs ++ trail) = (p none cs).map fun found ↦ (found.1, found.2 ++ trail)

namespace SkipsBlanks

theorem findFrom_before (h : p.SkipsBlanks) (before : Option Char) (skip : ℕ) (cs : List Char) :
    p.findFrom before skip cs = p.findFrom none skip cs := by
  cases cs with
  | nil => simp only [findFrom]
  | cons c cs =>
    cases skip with
    | zero => simp only [findFrom, h.before before]
    | succ skip => simp only [findFrom]

theorem findFrom_of_isBlank (h : p.SkipsBlanks) {trail : List Char}
    (htrail : ∀ c ∈ trail, isBlank c = true) (skip : ℕ) : p.findFrom none skip trail = [] := by
  induction trail generalizing skip with
  | nil => simp only [findFrom]
  | cons c trail ih =>
    rw [List.forall_mem_cons] at htrail
    cases skip with
    | zero => rw [findFrom, h.lead c trail htrail.1, h.findFrom_before, ih htrail.2]
    | succ skip => rw [findFrom, h.findFrom_before, ih htrail.2]

theorem findFrom_append (h : p.SkipsBlanks) {trail : List Char}
    (htrail : ∀ c ∈ trail, isBlank c = true) (cs : List Char) (skip : ℕ) :
    p.findFrom none skip (cs ++ trail) = p.findFrom none skip cs := by
  induction cs generalizing skip with
  | nil => rw [List.nil_append, h.findFrom_of_isBlank htrail, findFrom]
  | cons c cs ih =>
    rw [List.cons_append]
    cases skip with
    | zero =>
      rw [findFrom, findFrom, ← List.cons_append, h.trail (c :: cs) trail htrail]
      cases p none (c :: cs) with
      | none => simp only [Option.map_none, h.findFrom_before (some c), ih]
      | some found =>
        simp only [Option.map_some, List.length_append, Nat.add_sub_add_right,
          h.findFrom_before (some c), ih]
    | succ skip => rw [findFrom, findFrom, h.findFrom_before (some c), h.findFrom_before (some c), ih]

/-- Blanks around a text hold no occurrence and make none. -/
theorem findAll (h : p.SkipsBlanks) : IgnoresBlanks p.findAll := by
  intro lead cs trail hlead htrail
  rw [Pattern.findAll, Pattern.findAll, h.findFrom_append htrail]
  induction lead with
  | nil => rfl
  | cons c lead ih =>
    rw [List.forall_mem_cons] at hlead
    rw [List.cons_append, findFrom, h.lead c _ hlead.1, h.findFrom_before (some c), ih hlead.2]

theorem firstFrom_eq (h : p.SkipsBlanks) (before : Option Char) (cs : List Char) :
    p.firstFrom before cs = (p.findFrom before 0 cs).head? := by
  induction cs generalizing before with
  | nil => rw [firstFrom, h.before, h.empty, findFrom]; rfl
  | cons c cs ih =>
    rw [firstFrom, findFrom]
    cases p before (c :: cs) with
    | none => exact ih _
    | some found => rfl

theorem occurs (h : p.SkipsBlanks) : IgnoresBlanks p.occurs := by
  have hfirst : ∀ cs, p.occurs cs = (p.findAll cs).head?.isSome := fun cs ↦
    congrArg Option.isSome (h.firstFrom_eq none cs)
  intro lead cs trail hlead htrail
  rw [hfirst, hfirst, h.findAll lead cs trail hlead htrail]

end SkipsBlanks

end Pattern

end CodeSmells.Text
