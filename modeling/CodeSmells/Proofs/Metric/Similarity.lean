import CodeSmells.Metric.Similarity
import CodeSmells.Proofs.Grouping
import CodeSmells.Proofs.Text.Blank
import Mathlib.Algebra.Order.Field.Rat
import Mathlib.Data.Finset.Card
import Mathlib.Data.List.Forall2
import Mathlib.Tactic.Positivity

/-!
# The similarity of two blocks

The similarity of two blocks divides a number of distinct lines by a number of lines that may
repeat. `similarity_eq` says so in the words of sets: two empty blocks apart, it is the number of
distinct lines that the blocks share per line of the longer one. A block therefore enters by its
length and its distinct lines alone (`similarity_congr`), which neither the order of its lines nor
the blanks around them change, and the two blocks may be exchanged (`similarity_comm`).

`similarity_scores_shared_lines` puts together what follows for the score. It is never outside of
nought and one. It is one only where no block repeats a line, since a block has fewer distinct lines
than lines otherwise (`card_distinctLines_eq_iff`).
-/

set_option autoImplicit false
set_option relaxedAutoImplicit false

namespace CodeSmells

/-! ### Distinct lines -/

/-- The lines of a block without the blanks around them, each once. -/
def distinctLines (block : List String) : Finset String :=
  (block.map Text.trimmed).toFinset

section Blocks

variable {a b a' b' block : List String}

theorem mem_distinctLines {line : String} :
    line ∈ distinctLines block ↔ line ∈ block.map Text.trimmed :=
  List.mem_toFinset

theorem card_distinctLines_le (block : List String) :
    (distinctLines block).card ≤ block.length := by
  have hle := List.toFinset_card_le (block.map Text.trimmed)
  rwa [List.length_map] at hle

/-- A block has as many distinct lines as lines exactly when it repeats none. -/
theorem card_distinctLines_eq_iff :
    (distinctLines block).card = block.length ↔ (block.map Text.trimmed).Nodup := by
  have hiff := Multiset.toFinset_card_eq_card_iff_nodup
    (m := (block.map Text.trimmed : Multiset String))
  rwa [Multiset.coe_card, List.length_map, Multiset.coe_nodup] at hiff

theorem sharedLines_eq_card (a b : List String) :
    sharedLines a b = (distinctLines a ∩ distinctLines b).card := by
  rw [sharedLines, ← List.toFinset_card_of_nodup ((eraseDups_nodup _).filter _)]
  congr 1
  ext line
  simp [mem_distinctLines]

theorem card_shared_le_left (a b : List String) :
    (distinctLines a ∩ distinctLines b).card ≤ a.length :=
  (Finset.card_le_card Finset.inter_subset_left).trans (card_distinctLines_le a)

/-- Blocks share as many distinct lines as the longer one has lines only when they have the same
distinct lines and repeat none. -/
theorem card_shared_eq_max_iff :
    (distinctLines a ∩ distinctLines b).card = max a.length b.length ↔
      a.length = b.length ∧ distinctLines a = distinctLines b ∧
        (a.map Text.trimmed).Nodup ∧ (b.map Text.trimmed).Nodup := by
  rw [← card_distinctLines_eq_iff, ← card_distinctLines_eq_iff]
  constructor
  · intro hmax
    have hleft : (distinctLines a ∩ distinctLines b).card ≤ (distinctLines a).card :=
      Finset.card_le_card Finset.inter_subset_left
    have hright : (distinctLines a ∩ distinctLines b).card ≤ (distinctLines b).card :=
      Finset.card_le_card Finset.inter_subset_right
    have ha := card_distinctLines_le a
    have hb := card_distinctLines_le b
    have hsame : distinctLines a = distinctLines b :=
      calc distinctLines a = distinctLines a ∩ distinctLines b :=
            (Finset.eq_of_subset_of_card_le Finset.inter_subset_left (by omega)).symm
        _ = distinctLines b :=
            Finset.eq_of_subset_of_card_le Finset.inter_subset_right (by omega)
    exact ⟨by omega, hsame, by omega, by omega⟩
  · rintro ⟨hlength, hsame, -, hb⟩
    rw [hsame, Finset.inter_self, hb, hlength, max_self]

/-! ### The score -/

/-- Two empty blocks apart, the similarity is the number of distinct lines that the blocks share per
line of the longer block. -/
theorem similarity_eq (a b : List String) :
    similarity a b = if max a.length b.length = 0 then 1
      else ((distinctLines a ∩ distinctLines b).card : ℚ) / (max a.length b.length : ℕ) := by
  cases a with
  | nil =>
    cases b with
    | nil => rfl
    | cons y b => simp [similarity, distinctLines]
  | cons x a =>
    cases b with
    | nil => simp [similarity, distinctLines]
    | cons y b =>
      rw [if_neg (by simp), similarity, sharedLines_eq_card, quotient, Rat.mkRat_eq_div,
        List.length_cons, List.length_cons, Nat.add_max_add_right]
      rfl

/-- A block enters its similarity by its length and its distinct lines alone. -/
theorem similarity_congr (hlength : a'.length = a.length)
    (hlines : distinctLines a' = distinctLines a) (hlength' : b'.length = b.length)
    (hlines' : distinctLines b' = distinctLines b) : similarity a' b' = similarity a b := by
  rw [similarity_eq, similarity_eq, hlength, hlines, hlength', hlines']

theorem similarity_comm (a b : List String) : similarity a b = similarity b a := by
  rw [similarity_eq, similarity_eq, Finset.inter_comm, max_comm]

theorem blockSimilarity_comm (a b : List String) : blockSimilarity a b = blockSimilarity b a := by
  rw [blockSimilarity, blockSimilarity, similarity_comm]

theorem similarity_mem_unit (a b : List String) : 0 ≤ similarity a b ∧ similarity a b ≤ 1 := by
  rw [similarity_eq]
  split_ifs
  · exact ⟨zero_le_one, le_rfl⟩
  · have hle : (distinctLines a ∩ distinctLines b).card ≤ max a.length b.length :=
      (card_shared_le_left a b).trans (le_max_left _ _)
    exact ⟨by positivity, div_le_one_of_le₀ (Nat.cast_le.mpr hle) (Nat.cast_nonneg _)⟩

theorem similarity_eq_one_iff :
    similarity a b = 1 ↔ a.length = b.length ∧ distinctLines a = distinctLines b ∧
      (a.map Text.trimmed).Nodup ∧ (b.map Text.trimmed).Nodup := by
  rw [similarity_eq, ← card_shared_eq_max_iff]
  split_ifs with hempty
  · have hle := card_shared_le_left a b
    simp only [true_iff]
    omega
  · rw [div_eq_one_iff_eq (Nat.cast_ne_zero.mpr hempty), Nat.cast_inj]

theorem similarity_eq_zero_iff :
    similarity a b = 0 ↔ (a ≠ [] ∨ b ≠ []) ∧ Disjoint (distinctLines a) (distinctLines b) := by
  have hsome : (a ≠ [] ∨ b ≠ []) ↔ max a.length b.length ≠ 0 := by
    rw [← List.length_pos_iff, ← List.length_pos_iff]
    omega
  rw [similarity_eq, hsome, Finset.disjoint_iff_inter_eq_empty, ← Finset.card_eq_zero]
  split_ifs with hempty
  · simp [hempty]
  · rw [div_eq_zero_iff, Nat.cast_eq_zero, Nat.cast_eq_zero]
    simp [hempty]

/-! ### Order and blanks -/

theorem distinctLines_perm (h : a'.Perm a) : distinctLines a' = distinctLines a :=
  List.toFinset_eq_of_perm _ _ (h.map _)

/-- The second line is the first with blanks put around it. -/
def BlanksAround (line line' : String) : Prop :=
  ∃ lead trail : List Char, (∀ c ∈ lead, Text.isBlank c = true) ∧
    (∀ c ∈ trail, Text.isBlank c = true) ∧ line'.toList = lead ++ line.toList ++ trail

theorem BlanksAround.trimmed_eq {line line' : String} (h : BlanksAround line line') :
    Text.trimmed line' = Text.trimmed line := by
  obtain ⟨lead, trail, hlead, htrail, htext⟩ := h
  rw [Text.trimmed, Text.trimmed, htext, Text.ignoresBlanks_trim lead _ trail hlead htrail]

theorem map_trimmed_blanksAround (h : List.Forall₂ BlanksAround a a') :
    a'.map Text.trimmed = a.map Text.trimmed := by
  induction h with
  | nil => rfl
  | cons hline _ ih => rw [List.map_cons, List.map_cons, hline.trimmed_eq, ih]

theorem distinctLines_blanksAround (h : List.Forall₂ BlanksAround a a') :
    distinctLines a' = distinctLines a := by
  rw [distinctLines, distinctLines, map_trimmed_blanksAround h]

end Blocks

/-- What the score of two blocks says, with the quotient taken exactly. For all blocks it lies
between nought and one, and stays when the blocks are exchanged, when the lines of both are
rearranged, and when blanks are put around lines of both. It is one exactly for two empty blocks,
and for two blocks that are as long as each other, have the same trimmed lines and repeat none. It
is nought exactly when one of the blocks is empty and the other is not, and when neither is empty
and no trimmed line stands in both. -/
theorem similarity_scores_shared_lines (a b : List String) :
    (0 ≤ similarity a b ∧ similarity a b ≤ 1) ∧
    similarity a b = similarity b a ∧
    (∀ a' b' : List String, a'.Perm a → b'.Perm b → similarity a' b' = similarity a b) ∧
    (∀ a' b' : List String, List.Forall₂ BlanksAround a a' → List.Forall₂ BlanksAround b b' →
      similarity a' b' = similarity a b) ∧
    (similarity a b = 1 ↔ a = [] ∧ b = [] ∨
      a ≠ [] ∧ b ≠ [] ∧ a.length = b.length ∧
        (∀ line, line ∈ a.map Text.trimmed ↔ line ∈ b.map Text.trimmed) ∧
        (a.map Text.trimmed).Nodup ∧ (b.map Text.trimmed).Nodup) ∧
    (similarity a b = 0 ↔ a = [] ∧ b ≠ [] ∨ a ≠ [] ∧ b = [] ∨
      a ≠ [] ∧ b ≠ [] ∧ ∀ line ∈ a.map Text.trimmed, line ∉ b.map Text.trimmed) := by
  refine ⟨similarity_mem_unit a b, similarity_comm a b, fun a' b' ha hb ↦ ?_,
    fun a' b' ha hb ↦ ?_, ?_, ?_⟩
  · exact similarity_congr ha.length_eq (distinctLines_perm ha) hb.length_eq (distinctLines_perm hb)
  · exact similarity_congr ha.length_eq.symm (distinctLines_blanksAround ha) hb.length_eq.symm
      (distinctLines_blanksAround hb)
  · have hsame : distinctLines a = distinctLines b ↔
        ∀ line, line ∈ a.map Text.trimmed ↔ line ∈ b.map Text.trimmed := by
      simp only [Finset.ext_iff, mem_distinctLines]
    rw [similarity_eq_one_iff, hsame]
    cases a <;> cases b <;> simp
  · have hapart : Disjoint (distinctLines a) (distinctLines b) ↔
        ∀ line ∈ a.map Text.trimmed, line ∉ b.map Text.trimmed := by
      simp only [Finset.disjoint_left, mem_distinctLines]
    rw [similarity_eq_zero_iff, hapart]
    cases a <;> cases b <;> simp

/-- The same lines in another order, and with blanks around them, against a block that repeats one
of them. -/
theorem similarity_scores_shared_lines_rearranged :
    let a := ["tick()", "draw()"]
    let b := ["draw()", "tick()", "draw()"]
    let swapped := ["draw()", "tick()"]
    let indented := ["\ttick()", "\tdraw() "]
    swapped.Perm a ∧ List.Forall₂ BlanksAround a indented ∧ List.Forall₂ BlanksAround b b ∧
      similarity a b = 2 / 3 ∧ similarity b a = 2 / 3 ∧ similarity swapped b = 2 / 3 ∧
      similarity indented b = 2 / 3 := by
  intro a b swapped indented
  have hswapped : swapped.Perm a := List.Perm.swap _ _ _
  have htab : ∀ c ∈ ['\t'], Text.isBlank c = true := List.forall_mem_singleton.mpr rfl
  have hspace : ∀ c ∈ [' '], Text.isBlank c = true := List.forall_mem_singleton.mpr rfl
  have hindented : List.Forall₂ BlanksAround a indented :=
    .cons ⟨['\t'], [], htab, nofun, rfl⟩ (.cons ⟨['\t'], [' '], htab, hspace, rfl⟩ .nil)
  have hsame : List.Forall₂ BlanksAround b b :=
    List.forall₂_same.mpr fun line _ ↦ ⟨[], [], nofun, nofun, by simp⟩
  have hscore : similarity a b = 2 / 3 := by decide +kernel
  obtain ⟨-, hcomm, hperm, hblanks, -, -⟩ := similarity_scores_shared_lines a b
  exact ⟨hswapped, hindented, hsame, hscore, hcomm ▸ hscore,
    (hperm swapped b hswapped (.refl b)).trans hscore,
    (hblanks indented b hindented hsame).trans hscore⟩

end CodeSmells
