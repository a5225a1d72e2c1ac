import CodeSmells.Text.Scan
import Mathlib.Data.List.TakeWhile

/-!
# Runs of characters and occurrences of a pattern

A reader takes the characters that it asks for and stops at the first other one. When what is
written is such a run and a character that ends it, the reader gives back the run and leaves the
rest, the character that ended it included (`takeWhile_append_cons`, `dropWhile_append_cons`,
`run?_append_cons`). Conversely, whatever run is read has its form (`of_run?_eq_some`) and stands at
the start of the text (`append_of_run?_eq_some`).

A search finds nothing that the pattern does not read somewhere in the text
(`exists_of_mem_findFrom`). After an occurrence it goes on behind it (`findFrom_of_match`), so that
it finds nothing more where the occurrence is the whole text (`findAll_of_whole`).
-/

set_option autoImplicit false
set_option relaxedAutoImplicit false

namespace CodeSmells.Text

/-! ### Runs -/

section Runs

variable {p : Char → Bool} {run rest : List Char} {c : Char}

theorem takeWhile_append_cons (hrun : ∀ d ∈ run, p d = true) (hc : p c = false) :
    (run ++ c :: rest).takeWhile p = run := by
  rw [List.takeWhile_append_of_pos hrun, List.takeWhile_cons_of_neg (by simp [hc]),
    List.append_nil]

theorem dropWhile_append_cons (hrun : ∀ d ∈ run, p d = true) (hc : p c = false) :
    (run ++ c :: rest).dropWhile p = c :: rest := by
  rw [List.dropWhile_append_of_pos hrun, List.dropWhile_cons_of_neg (by simp [hc])]

/-- A run is read up to a character that is not asked for. -/
theorem run?_append_cons (hne : run ≠ []) (hrun : ∀ d ∈ run, p d = true) (hc : p c = false) :
    run? p (run ++ c :: rest) = some (run, c :: rest) := by
  rw [run?, takeWhile_append_cons hrun hc, dropWhile_append_cons hrun hc]
  obtain ⟨d, ds, rfl⟩ := List.exists_cons_of_ne_nil hne
  rfl

/-- A run is read up to the end of the text. -/
theorem run?_of_forall (hne : run ≠ []) (hrun : ∀ d ∈ run, p d = true) :
    run? p run = some (run, []) := by
  rw [run?, List.takeWhile_eq_self_iff.mpr hrun, List.dropWhile_eq_nil_iff.mpr hrun]
  obtain ⟨d, ds, rfl⟩ := List.exists_cons_of_ne_nil hne
  rfl

theorem append_of_run?_eq_some {cs : List Char} (h : run? p cs = some (run, rest)) :
    cs = run ++ rest := by
  unfold run? at h
  split at h
  · cases h
  · cases h
    exact List.takeWhile_append_dropWhile.symm

/-- A run is not empty and consists of the characters asked for. -/
theorem of_run?_eq_some {cs : List Char} (h : run? p cs = some (run, rest)) :
    run ≠ [] ∧ ∀ c ∈ run, p c = true := by
  unfold run? at h
  split at h
  · cases h
  · next hne =>
    cases h
    exact ⟨hne, fun c hc ↦ List.mem_takeWhile_imp hc⟩

theorem eq_cons_of_char?_eq_some {cs : List Char} (h : char? c cs = some rest) :
    cs = c :: rest := by
  unfold char? at h
  split at h
  · split at h
    · next hc =>
      cases h
      rw [beq_iff_eq.mp hc]
    · cases h
  · cases h

/-- A character of a word is none that stands in no word. -/
theorem ne_of_isWord {d : Char} (hc : isWord c = true) (hd : isWord d = false) : c ≠ d := by
  rintro rfl
  exact Bool.false_ne_true (hd.symm.trans hc)

end Runs

/-! ### Occurrences -/

namespace Pattern

variable {α : Type} {p : Pattern α} {a : α}

/-- Every occurrence that is found was read by the pattern somewhere. -/
theorem exists_of_mem_findFrom (cs : List Char) :
    ∀ (before : Option Char) (skip : ℕ), a ∈ p.findFrom before skip cs →
      ∃ (earlier : Option Char) (text rest : List Char), p earlier text = some (a, rest) := by
  induction cs with
  | nil =>
    intro before skip h
    cases skip <;> cases h
  | cons c cs ih =>
    intro before skip h
    cases skip with
    | succ skip => exact ih _ _ h
    | zero =>
      rw [findFrom] at h
      split at h
      · next b rest hmatch =>
        rcases List.mem_cons.mp h with rfl | hlater
        · exact ⟨_, _, _, hmatch⟩
        · exact ih _ _ hlater
      · exact ih _ _ h

/-- The characters of an earlier occurrence are passed over. -/
theorem findFrom_append (xs ys : List Char) (before : Option Char) :
    p.findFrom before xs.length (xs ++ ys) = p.findFrom (xs.getLast?.or before) 0 ys := by
  induction xs generalizing before with
  | nil => rfl
  | cons c cs ih =>
    rw [List.length_cons, List.cons_append, findFrom, ih, List.getLast?_cons, Option.some_or,
      Option.or_some]

/-- After an occurrence the search goes on with the text behind it. -/
theorem findFrom_of_match {before : Option Char} {text rest : List Char} (hne : text ≠ [])
    (h : p before (text ++ rest) = some (a, rest)) :
    p.findFrom before 0 (text ++ rest) = a :: p.findFrom (text.getLast?.or before) 0 rest := by
  obtain ⟨c, cs, rfl⟩ := List.exists_cons_of_ne_nil hne
  rw [List.cons_append] at h ⊢
  rw [findFrom, h, ← findFrom_append (c :: cs) rest before]
  simp only [List.length_append, Nat.add_sub_cancel]
  rfl

/-- An occurrence that is the whole text is the only one. -/
theorem findAll_of_whole {cs : List Char} (hne : cs ≠ []) (h : p none cs = some (a, [])) :
    p.findAll cs = [a] := by
  rw [← List.append_nil cs] at h ⊢
  exact findFrom_of_match hne h

end Pattern

end CodeSmells.Text
