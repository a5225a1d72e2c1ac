import CodeSmells.Proofs.Detector.Scopes
import Mathlib.Algebra.BigOperators.Group.Finset.Piecewise
import Mathlib.Data.Fintype.Prod

/-!
# Every branch is counted once

The branches of a construct are read off the indentation of the code lines below its header. A chain
of conditions goes on with the lines as deep as its header, and the arms of a match are as deep as
the first line below it; deeper lines are bodies, and deleting some of them changes no count
(`chainShape_gainsOnly`, `countArms_gainsOnly`).

The branches of a chain are counted from its header downwards, for every header anew. `InChain`
says without a scan which lines belong to the chain of a header: those as deep as the header that go
on with another condition or end the chain, as long as all lines between are deeper or go on with a
condition themselves. The count is the number of these lines (`chainAt_eq_card`). Between two
headers of one depth there is the second of them, which goes on with nothing, so that a line belongs
to the chain of one header only (`InChain.unique`), and all chains together have no more branches
beyond their first than there are lines to count (`sum_chainAt_le`).

The repetitions are added up in one pass that keeps a table of how often each variable was branched
on. The pass knows of the constructs behind it what `Repeats.Counts` says; one construct preserves
that (`Counts.step`), and so a whole method does (`Counts.foldl`), at whose end the total is the
number of pairs of constructs on one variable.

`branches_counted_once` puts this together.
-/

set_option autoImplicit false
set_option relaxedAutoImplicit false

namespace CodeSmells.SwitchStatements

/-! ### Bodies -/

/-- Lines deeper than the header are not looked at. -/
theorem chainShape_gainsOnly {base : ℕ} {later later' : List SourceLine}
    (h : GainsOnly (fun l ↦ base < l.indent) later later') :
    chainShape base later' = chainShape base later := by
  induction h with
  | nil => rfl
  | keep line _ ih => rw [chainShape, chainShape, ih]
  | gain hdeeper _ ih => rw [chainShape, if_pos hdeeper, ih]

/-- Lines deeper than the arms are not looked at. -/
theorem countP_takeWhile_gainsOnly {base depth : ℕ} (hdepth : base < depth)
    {later later' : List SourceLine} (h : GainsOnly (fun l ↦ depth < l.indent) later later') :
    (later'.takeWhile fun l ↦ base < l.indent).countP (fun l ↦ l.indent == depth) =
      (later.takeWhile fun l ↦ base < l.indent).countP (fun l ↦ l.indent == depth) := by
  induction h with
  | nil => rfl
  | keep line _ ih =>
    by_cases hbelow : base < line.indent
    · simp only [List.takeWhile_cons, hbelow, decide_true, ↓reduceIte, List.countP_cons, ih]
    · simp only [List.takeWhile_cons, hbelow, decide_false, Bool.false_eq_true, ↓reduceIte]
  | @gain _ _ line hdeeper _ ih =>
    have hbelow : base < line.indent := hdepth.trans hdeeper
    have hbody : (line.indent == depth) = false := beq_eq_false_iff_ne.mpr hdeeper.ne'
    simp only [List.takeWhile_cons, hbelow, decide_true, ↓reduceIte, List.countP_cons, hbody,
      Bool.false_eq_true, Nat.add_zero, ih]

theorem countArms_gainsOnly {base : ℕ} (first : SourceLine) {later later' : List SourceLine}
    (h : GainsOnly (fun l ↦ first.indent < l.indent) later later') :
    countArms base (first :: later') = countArms base (first :: later) := by
  rw [countArms, countArms]
  split
  · rfl
  · next hdepth =>
    exact countP_takeWhile_gainsOnly (not_le.mp hdepth) (.keep first h)

/-- A chain has one branch without a condition at most, beside its header. -/
theorem chainShape_fst_eq (base : ℕ) (later : List SourceLine) :
    (chainShape base later).1 = (chainShape base later).2 ∨
      (chainShape base later).1 = (chainShape base later).2 + 1 := by
  induction later with
  | nil => exact Or.inl rfl
  | cons line later ih =>
    rw [chainShape]
    split_ifs
    · exact ih
    · exact Or.inl rfl
    · exact ih.imp (congrArg (· + 1)) (congrArg (· + 1))
    · exact Or.inr rfl
    · exact Or.inl rfl

/-! ### Which lines belong to a chain -/

/-- Whether a content is a branch of a chain after its header. -/
def isBranch (content : List Char) : Bool :=
  isElif content || isElse content

/-- Whether a content heads a chain. -/
def isIf (content : List Char) : Bool :=
  Text.startsWithWord ["if"] content

/-- What heads a chain does not go on with one. -/
theorem isElif_eq_false_of_isIf {content : List Char} (h : isIf content = true) :
    isElif content = false := by
  have hword : content.takeWhile Text.isWord = ['i', 'f'] := by
    rw [isIf, Text.startsWithWord, List.any_cons, List.any_nil, Bool.or_false, beq_iff_eq] at h
    exact h.symm
  obtain ⟨rest, rfl⟩ : ['i', 'f'] <+: content := hword ▸ List.takeWhile_prefix _
  simp only [isElif, Text.startsWithWord, hword]
  rfl

/-- A chain with an indent does not end at a line: the line is deeper, or as deep and goes on with
another condition. -/
def Continues (base : ℕ) (line : SourceLine) : Prop :=
  base < line.indent ∨ (line.indent = base ∧ isElif line.content = true)

instance (base : ℕ) (line : SourceLine) : Decidable (Continues base line) :=
  inferInstanceAs (Decidable (_ ∨ _))

/-- The line at `j` is of a kind and belongs to the chain that the line at `i` heads. It is as deep
as the header, and the chain does not end at a line between. -/
def InChain (kind : List Char → Bool) (lines : List SourceLine) (i j : ℕ) : Prop :=
  i < j ∧ ∃ header ∈ lines[i]?,
    (∀ n < j, i < n → ∀ line ∈ lines[n]?, Continues header.indent line) ∧
    ∃ line ∈ lines[j]?, line.indent = header.indent ∧ kind line.content = true

instance (kind : List Char → Bool) (lines : List SourceLine) (i j : ℕ) :
    Decidable (InChain kind lines i j) :=
  inferInstanceAs (Decidable (_ ∧ _))

/-- The lines of a kind that belong to the chain of the line at an index. -/
def chainLines (kind : List Char → Bool) (lines : List SourceLine) (i : ℕ) : Finset ℕ :=
  {j ∈ Finset.range lines.length | InChain kind lines i j}

theorem mem_chainLines {kind : List Char → Bool} {lines : List SourceLine} {i j : ℕ} :
    j ∈ chainLines kind lines i ↔ j < lines.length ∧ InChain kind lines i j := by
  rw [chainLines, Finset.mem_filter, Finset.mem_range]

/-- The branches of the chain that the line at an index heads, the header among them, and how many
of them go on with another condition. -/
def chainAt (lines : List SourceLine) (i : ℕ) : ℕ × ℕ :=
  match lines[i]? with
  | some header =>
    let (branches, elifs) := chainShape header.indent (lines.drop (i + 1))
    (branches + 1, elifs)
  | none => (0, 0)

/-- The arms of the match that the line at an index heads. -/
def armsAt (lines : List SourceLine) (i : ℕ) : ℕ :=
  match lines[i]? with
  | some header => countArms header.indent (lines.drop (i + 1))
  | none => 0

theorem chainAt_eq {lines : List SourceLine} {i : ℕ} {header : SourceLine}
    (hheader : lines[i]? = some header) :
    chainAt lines i = ((chainShape header.indent (lines.drop (i + 1))).1 + 1,
      (chainShape header.indent (lines.drop (i + 1))).2) := by
  rw [chainAt, hheader]

theorem armsAt_eq {lines : List SourceLine} {i : ℕ} {header : SourceLine}
    (hheader : lines[i]? = some header) :
    armsAt lines i = countArms header.indent (lines.drop (i + 1)) := by
  rw [armsAt, hheader]

section Split

variable (before : List SourceLine) (header : SourceLine) (later : List SourceLine)

theorem getElem?_split : (before ++ header :: later)[before.length]? = some header := by
  rw [List.getElem?_append_right le_rfl, Nat.sub_self, List.getElem?_cons_zero]

theorem drop_split : (before ++ header :: later).drop (before.length + 1) = later := by
  rw [← List.drop_drop, List.drop_left, List.drop_one, List.tail_cons]

end Split

/-- Of the numbers below a bound nought is counted apart. -/
theorem card_filter_range_succ (p : ℕ → Prop) [DecidablePred p] (n : ℕ) :
    ({j ∈ Finset.range (n + 1) | p j} : Finset ℕ).card =
      ({j ∈ Finset.range n | p (j + 1)} : Finset ℕ).card + if p 0 then 1 else 0 := by
  rw [Finset.card_filter, Finset.card_filter, Finset.sum_range_succ']

/-- The lines of a kind that belong to a chain, counted from the line below its header. -/
def linesBelow (kind : List Char → Bool) (base : ℕ) (later : List SourceLine) : Finset ℕ :=
  {n ∈ Finset.range later.length | (∀ k < n, ∀ line ∈ later[k]?, Continues base line) ∧
    ∃ line ∈ later[n]?, line.indent = base ∧ kind line.content = true}

theorem mem_linesBelow {kind : List Char → Bool} {base : ℕ} {later : List SourceLine} {n : ℕ} :
    n ∈ linesBelow kind base later ↔ n < later.length ∧
      (∀ k < n, ∀ line ∈ later[k]?, Continues base line) ∧
      ∃ line ∈ later[n]?, line.indent = base ∧ kind line.content = true := by
  rw [linesBelow, Finset.mem_filter, Finset.mem_range]

theorem card_linesBelow_cons (kind : List Char → Bool) (base : ℕ) (line : SourceLine)
    (later : List SourceLine) :
    (linesBelow kind base (line :: later)).card =
      (if Continues base line then (linesBelow kind base later).card else 0) +
        if line.indent = base ∧ kind line.content = true then 1 else 0 := by
  have hlater (n : ℕ) :
      ((∀ k < n + 1, ∀ l ∈ (line :: later)[k]?, Continues base l) ∧
        ∃ l ∈ (line :: later)[n + 1]?, l.indent = base ∧ kind l.content = true) ↔
      Continues base line ∧ (∀ k < n, ∀ l ∈ later[k]?, Continues base l) ∧
        ∃ l ∈ later[n]?, l.indent = base ∧ kind l.content = true := by
    rw [Nat.forall_lt_succ_left]
    simp [and_assoc]
  rw [linesBelow, linesBelow, List.length_cons, card_filter_range_succ]
  simp only [hlater, Nat.not_lt_zero, false_implies, implies_true, true_and,
    List.getElem?_cons_zero, Option.mem_some_iff, exists_eq_left']
  by_cases hgoes : Continues base line
  · simp only [hgoes, true_and, ↓reduceIte]
  · simp only [hgoes, false_and, ↓reduceIte, Finset.filter_false, Finset.card_empty]

/-- The count of a chain goes through the lines that belong to it. -/
theorem chainShape_eq_card (base : ℕ) (later : List SourceLine) :
    chainShape base later =
      ((linesBelow isBranch base later).card, (linesBelow isElif base later).card) := by
  induction later with
  | nil => rfl
  | cons line later ih =>
    rw [card_linesBelow_cons, card_linesBelow_cons, chainShape, ih]
    rcases Nat.lt_trichotomy base line.indent with hdeeper | hequal | hshallower
    · simp [Continues, hdeeper, hdeeper.ne']
    · subst hequal
      cases helif : isElif line.content <;> cases helse : isElse line.content <;>
        simp [Continues, isBranch, helif, helse]
    · simp [Continues, hshallower, hshallower.not_gt, hshallower.ne]

/-- The lines of a chain, counted from below its header, are those of the whole list. -/
theorem card_chainLines {lines : List SourceLine} {i : ℕ} {header : SourceLine}
    (hheader : lines[i]? = some header) (kind : List Char → Bool) :
    (chainLines kind lines i).card =
      (linesBelow kind header.indent (lines.drop (i + 1))).card := by
  have hbetween (n : ℕ) : (∀ k < i + 1 + n, i < k → ∀ line ∈ lines[k]?,
      Continues header.indent line) ↔
        ∀ k < n, ∀ line ∈ (lines.drop (i + 1))[k]?, Continues header.indent line := by
    simp only [List.getElem?_drop]
    constructor
    · exact fun h k hk ↦ h (i + 1 + k) (by omega) (by omega)
    · intro h k hk hik
      obtain ⟨d, rfl⟩ := Nat.exists_eq_add_of_le (Nat.succ_le_of_lt hik)
      exact h d (by omega)
  symm
  refine Finset.card_bij (fun n _ ↦ i + 1 + n) (fun n hn ↦ ?_) (by simp) (fun j hj ↦ ?_)
  · rw [mem_linesBelow, ← hbetween, List.length_drop, List.getElem?_drop] at hn
    exact mem_chainLines.mpr ⟨by omega, by omega, header, hheader, hn.2⟩
  · obtain ⟨hlength, hij, header', hheader', hchain⟩ := mem_chainLines.mp hj
    cases hheader.symm.trans hheader'
    obtain ⟨n, rfl⟩ := Nat.exists_eq_add_of_le (Nat.succ_le_of_lt hij)
    refine ⟨n, ?_, rfl⟩
    rw [mem_linesBelow, ← hbetween, List.length_drop, List.getElem?_drop]
    exact ⟨by omega, hchain⟩

/-- What is counted at a header are the header and the lines of its chain. -/
theorem chainAt_eq_card {lines : List SourceLine} {i : ℕ} {header : SourceLine}
    (hheader : lines[i]? = some header) :
    chainAt lines i =
      ((chainLines isBranch lines i).card + 1, (chainLines isElif lines i).card) := by
  rw [chainAt_eq hheader, chainShape_eq_card, card_chainLines hheader, card_chainLines hheader]

/-! ### Chains have no line in common -/

/-- The line at an index heads a chain. -/
def IsHeader (lines : List SourceLine) (i : ℕ) : Prop :=
  ∃ header ∈ lines[i]?, isIf header.content = true

instance (lines : List SourceLine) (i : ℕ) : Decidable (IsHeader lines i) :=
  inferInstanceAs (Decidable (∃ header ∈ lines[i]?, _))

/-- The headers of chains. -/
def headers (lines : List SourceLine) : Finset ℕ :=
  {i ∈ Finset.range lines.length | IsHeader lines i}

theorem mem_headers {lines : List SourceLine} {i : ℕ} :
    i ∈ headers lines ↔ IsHeader lines i := by
  rw [headers, Finset.mem_filter, Finset.mem_range, and_iff_right_iff_imp]
  rintro ⟨header, hheader, -⟩
  exact (List.getElem?_eq_some_iff.mp hheader).1

theorem InChain.not_lt {kind kind' : List Char → Bool} {lines : List SourceLine} {i i' j : ℕ}
    (h : InChain kind lines i j) (h' : InChain kind' lines i' j) (hheader : IsHeader lines i') :
    ¬i < i' := by
  intro hlt
  obtain ⟨-, top, -, hbetween, line, hline, hindent, -⟩ := h
  obtain ⟨hj, header, hheader', -, line', hline', hindent', -⟩ := h'
  obtain ⟨header'', hin, hif⟩ := hheader
  cases Option.mem_unique hline hline'
  cases Option.mem_unique hheader' hin
  -- The lower header stands between, where the upper chain would have to go on with a condition.
  rcases hbetween i' hj hlt header hheader' with hdeeper | ⟨-, helif⟩
  · omega
  · rw [isElif_eq_false_of_isIf hif] at helif
    cases helif

/-- Of two headers as deep as a line the lower one ends the chain of the upper, so that the line
belongs to one chain only. -/
theorem InChain.unique {kind kind' : List Char → Bool} {lines : List SourceLine} {i i' j : ℕ}
    (h : InChain kind lines i j) (h' : InChain kind' lines i' j) (hheader : IsHeader lines i)
    (hheader' : IsHeader lines i') : i = i' :=
  Nat.le_antisymm (Nat.le_of_not_lt (h'.not_lt h hheader))
    (Nat.le_of_not_lt (h.not_lt h' hheader'))

theorem countP_eq_card (p : SourceLine → Bool) (lines : List SourceLine) :
    lines.countP p =
      ({j ∈ Finset.range lines.length | ∃ line ∈ lines[j]?, p line = true} : Finset ℕ).card := by
  induction lines with
  | nil => rfl
  | cons line lines ih =>
    rw [List.countP_cons, ih, List.length_cons, card_filter_range_succ]
    simp only [List.getElem?_cons_succ, List.getElem?_cons_zero, Option.mem_some_iff,
      exists_eq_left']

theorem disjoint_chainLines {lines : List SourceLine} {i i' : ℕ} (hi : IsHeader lines i)
    (hi' : IsHeader lines i') (hne : i ≠ i') (kind : List Char → Bool) :
    Disjoint (chainLines kind lines i) (chainLines kind lines i') :=
  Finset.disjoint_left.mpr fun _ hj hj' ↦
    hne ((mem_chainLines.mp hj).2.unique (mem_chainLines.mp hj').2 hi hi')

/-- All chains together have no more branches beside their headers than there are lines to go on
with or to end a chain. -/
theorem sum_chainAt_le (lines : List SourceLine) :
    ∑ i ∈ headers lines, ((chainAt lines i).1 - 1) ≤ lines.countP fun l ↦ isBranch l.content := by
  have hbranches : ∀ i ∈ headers lines,
      (chainAt lines i).1 - 1 = (chainLines isBranch lines i).card := by
    intro i hi
    obtain ⟨header, hheader, -⟩ := mem_headers.mp hi
    rw [chainAt_eq_card hheader, Nat.add_sub_cancel]
  have hdisjoint : Set.PairwiseDisjoint (headers lines : Set ℕ) (chainLines isBranch lines) :=
    fun i hi i' hi' hne ↦
      disjoint_chainLines (mem_headers.mp hi) (mem_headers.mp hi') hne isBranch
  calc ∑ i ∈ headers lines, ((chainAt lines i).1 - 1)
      = ∑ i ∈ headers lines, (chainLines isBranch lines i).card := Finset.sum_congr rfl hbranches
    _ = ((headers lines).biUnion (chainLines isBranch lines)).card :=
        (Finset.card_biUnion hdisjoint).symm
    _ ≤ ({j ∈ Finset.range lines.length | ∃ line ∈ lines[j]?, isBranch line.content = true} :
          Finset ℕ).card := by
        refine Finset.card_le_card fun j hj ↦ ?_
        obtain ⟨i, -, hj⟩ := Finset.mem_biUnion.mp hj
        obtain ⟨hlength, -, header, -, -, line, hline, -, hbranch⟩ := mem_chainLines.mp hj
        exact Finset.mem_filter.mpr ⟨Finset.mem_range.mpr hlength, line, hline, hbranch⟩
    _ = lines.countP fun l ↦ isBranch l.content :=
        (countP_eq_card (fun l ↦ isBranch l.content) lines).symm

/-! ### Constructs on one variable -/

/-- Two constructs branch on one variable. -/
def SameVariable (a b : Construct) : Prop :=
  a.subject ≠ "" ∧ a.subject = b.subject

instance (a b : Construct) : Decidable (SameVariable a b) :=
  inferInstanceAs (Decidable (_ ∧ _))

/-- The pairs of positions of constructs on one variable. -/
def repeated (cs : List Construct) : Finset (Fin cs.length × Fin cs.length) :=
  {e | e.1 < e.2 ∧ SameVariable cs[e.1] cs[e.2]}

namespace Repeats

/-- What is kept of the constructs gone through: how many pairs of them branch on one variable, and
how often each variable was branched on. -/
structure Counts (s : Repeats) (cs : List Construct) : Prop where
  total : s.total = (pairs cs).countP fun e ↦ decide (SameVariable e.1 e.2)
  seen : ∀ v ≠ "", (s.seen.get? v).getD 0 = cs.countP fun c ↦ c.subject == v

variable {s : Repeats} {cs : List Construct}

/-- The constructs before one that make a pair with it are those on its variable. -/
theorem countP_sameVariable (cs : List Construct) {c : Construct} (hc : c.subject ≠ "") :
    cs.countP (fun b ↦ decide (SameVariable b c)) = cs.countP fun b ↦ b.subject == c.subject := by
  refine List.countP_congr fun b _ ↦ ?_
  rw [decide_eq_true_iff, beq_iff_eq]
  exact and_iff_right_of_imp fun h ↦ h ▸ hc

/-- A construct makes as many pairs as there are earlier ones on its variable, which the table
knows. -/
theorem Counts.step (h : s.Counts cs) (c : Construct) : (s.step c).Counts (cs ++ [c]) := by
  by_cases hc : c.subject = ""
  · have hnone (b : Construct) : ¬SameVariable b c := fun hb ↦ hb.1 (hb.2.trans hc)
    rw [Repeats.step, if_pos (beq_iff_eq.mpr hc)]
    refine ⟨?_, fun v hv ↦ ?_⟩
    · rw [countP_pairs_concat fun a b ↦ decide (SameVariable a b), h.total]
      simp only [hnone, decide_false, List.countP_false]
      rfl
    · have hother : (c.subject == v) = false := by rw [hc, beq_eq_false_iff_ne]; exact hv.symm
      rw [h.seen v hv, List.countP_append, List.countP_singleton, hother]
      rfl
  · rw [Repeats.step, if_neg (by rwa [beq_iff_eq])]
    refine ⟨?_, fun v hv ↦ ?_⟩
    · rw [countP_pairs_concat fun a b ↦ decide (SameVariable a b), countP_sameVariable cs hc,
        ← h.seen _ hc, h.total]
    · rw [List.countP_append, List.countP_singleton]
      by_cases hown : c.subject = v
      · subst hown
        rw [Keyed.get?_put_self, Option.getD_some, h.seen _ hc, beq_self_eq_true, if_pos rfl]
      · rw [Keyed.get?_put_of_ne (Ne.symm hown), h.seen v hv, beq_eq_false_iff_ne.mpr hown]
        rfl

/-- Going through further constructs keeps the counts right. -/
theorem Counts.foldl (h : s.Counts cs) (more : List Construct) :
    (more.foldl Repeats.step s).Counts (cs ++ more) := by
  induction more generalizing s cs with
  | nil => rwa [List.append_nil]
  | cons c more ih =>
    rw [List.foldl_cons, ← List.singleton_append, ← List.append_assoc]
    exact ih (h.step c)

theorem counts_nil : Repeats.Counts {} [] :=
  ⟨rfl, fun _ _ ↦ rfl⟩

end Repeats

theorem duplicated_eq_card (f : Findings) : f.duplicated = (repeated f.constructs).card := by
  have hpairs : f.duplicated =
      (pairs f.constructs).countP fun e ↦ decide (SameVariable e.1 e.2) :=
    (Repeats.counts_nil.foldl f.constructs).total
  rw [hpairs, countP_pairs_eq_card fun a b ↦ decide (SameVariable a b)]
  simp only [repeated, decide_eq_true_iff]

/-! ### What is reported -/

theorem exists_construct?_of_mem {lines : List SourceLine} {c : Construct}
    (h : c ∈ constructsOf lines) :
    ∃ i, ∃ line ∈ lines[i]?, construct? line (lines.drop (i + 1)) = some c := by
  induction lines with
  | nil => cases h
  | cons line later ih =>
    rw [constructsOf, List.mem_append, Option.mem_toList] at h
    rcases h with h | h
    · exact ⟨0, line, rfl, h⟩
    · obtain ⟨i, hi⟩ := ih h
      exact ⟨i + 1, hi⟩

/-- The cases of a construct are the arms below its header, or the header and the branches of its
chain. -/
def CountedAt (lines : List SourceLine) (c : Construct) (i : ℕ) : Prop :=
  match c.kind with
  | .matching => c.cases = armsAt lines i
  | .ifChain => IsHeader lines i ∧ c.cases = (chainAt lines i).1 ∧ 2 ≤ (chainAt lines i).2

theorem countedAt_of_construct? {lines : List SourceLine} {i : ℕ} {line : SourceLine}
    {c : Construct} (hline : lines[i]? = some line)
    (hc : construct? line (lines.drop (i + 1)) = some c) : CountedAt lines c i := by
  rw [construct?] at hc
  split at hc
  · cases hc
    simp only [CountedAt, armsAt_eq hline]
  · split at hc
    · next hif =>
      simp only at hc
      split at hc
      · next helifs =>
        cases hc
        simp only [CountedAt, chainAt_eq hline]
        exact ⟨⟨line, hline, hif⟩, trivial, helifs⟩
      · cases hc
    · cases hc

/-- A construct in a report. -/
def Construct.toValue (c : Construct) : Value :=
  .table [
    ("kind", .text c.kind.name),
    ("variable", .text c.subject),
    ("cases", .count c.cases),
    ("line", .optWhole c.line)]

theorem details_of_detect {m : Method} {k : Class} {path : Option String} {given : Entries}
    {r : Result} (h : detector.detect (.ofMethod m k path) given = .ok (some r)) :
    r.details = (findings m).toValue ⟨given, detector.defaults⟩ := by
  obtain ⟨-, v, hv, rfl⟩ := Detector.detect_eq_some_iff.mp h
  obtain ⟨b, -, hv⟩ := bind_eq_ok_iff.mp hv
  cases hv
  rfl

/-- Every branch is counted once, and bodies are not counted, whatever the code lines. Deleting
lines below a header that are deeper than it changes no count of its chain, and deleting lines
deeper than the first line below a header changes no count of its arms. The branches of a chain are
one more than those that go on with another condition, or two more. What is counted at a header are
the header and the lines that belong to its chain; no line belongs to the chains of two headers, so
that all chains together have no more branches beyond their first than there are lines to be such.
What is reported of a method has these counts, and the number of duplicates that is reported with it
is the number of pairs of reported constructs on one variable. -/
theorem branches_counted_once :
    (∀ (before later later' : List SourceLine) (header : SourceLine),
      GainsOnly (fun l ↦ header.indent < l.indent) later' later →
        chainAt (before ++ header :: later') before.length =
          chainAt (before ++ header :: later) before.length) ∧
    (∀ (before later later' : List SourceLine) (header first : SourceLine),
      GainsOnly (fun l ↦ first.indent < l.indent) later' later →
        armsAt (before ++ header :: first :: later') before.length =
          armsAt (before ++ header :: first :: later) before.length) ∧
    (∀ lines : List SourceLine,
      (∀ i ∈ headers lines,
        (chainAt lines i).1 = (chainAt lines i).2 + 1 ∨
          (chainAt lines i).1 = (chainAt lines i).2 + 2) ∧
      (∀ i ∈ headers lines, chainAt lines i =
        ((chainLines isBranch lines i).card + 1, (chainLines isElif lines i).card)) ∧
      (∀ i ∈ headers lines, ∀ i' ∈ headers lines, i ≠ i' →
        Disjoint (chainLines isBranch lines i) (chainLines isBranch lines i')) ∧
      ∑ i ∈ headers lines, ((chainAt lines i).1 - 1) ≤
        lines.countP fun l ↦ isBranch l.content) ∧
    ∀ (m : Method) (k : Class) (path : Option String) (given : Entries),
      (Thresholds.Usable ⟨given, detector.defaults⟩ detector.keys →
        ∃ r, detector.detect (.ofMethod m k path) given = .ok (some r)) ∧
      ∀ r, detector.detect (.ofMethod m k path) given = .ok (some r) →
        r.detail? "switches" = some (.row ((constructs m).map Construct.toValue)) ∧
        (∀ c ∈ constructs m, ∃ i, CountedAt m.codeLines c i) ∧
        r.detail? "duplicated_switches" = some (.count (repeated (constructs m)).card) := by
  refine ⟨fun before later later' header h ↦ ?_, fun before later later' header first h ↦ ?_,
    fun lines ↦ ⟨fun i hi ↦ ?_, fun i hi ↦ ?_, fun i hi i' hi' hne ↦ ?_, sum_chainAt_le lines⟩,
    fun m k path given ↦ ⟨fun ht ↦ ?_, fun r hr ↦ ?_⟩⟩
  · rw [chainAt_eq (getElem?_split _ _ _), chainAt_eq (getElem?_split _ _ _), drop_split,
      drop_split, chainShape_gainsOnly h]
  · rw [armsAt_eq (getElem?_split _ _ _), armsAt_eq (getElem?_split _ _ _), drop_split,
      drop_split, countArms_gainsOnly first h]
  · obtain ⟨header, hheader, -⟩ := mem_headers.mp hi
    rw [chainAt_eq hheader]
    exact (chainShape_fst_eq _ _).imp (congrArg (· + 1)) (congrArg (· + 1))
  · obtain ⟨header, hheader, -⟩ := mem_headers.mp hi
    exact chainAt_eq_card hheader
  · exact disjoint_chainLines (mem_headers.mp hi) (mem_headers.mp hi') hne isBranch
  · exact detector_total.exists_result ht rfl (.bind fun _ ↦ applies_some _)
  · have hdetails := Result.detail?_eq (details_of_detect hr)
    refine ⟨hdetails _, fun c hc ↦ ?_, ?_⟩
    · obtain ⟨i, line, hline, hconstruct⟩ := exists_construct?_of_mem hc
      exact ⟨i, countedAt_of_construct? hline hconstruct⟩
    · rw [hdetails, ← duplicated_eq_card ⟨constructs m⟩]
      rfl

/-- Code lines that open with a chain, which has another one among its bodies; a third chain
follows it at the same depth. -/
def turns : List SourceLine :=
  [⟨"if turn == 1:", none⟩, ⟨"\tif armed:", none⟩, ⟨"\t\tfire()", none⟩, ⟨"\telse:", none⟩,
    ⟨"\t\taim()", none⟩, ⟨"elif turn == 2:", none⟩, ⟨"else if turn == 3:", none⟩,
    ⟨"else:", none⟩, ⟨"\tpass", none⟩, ⟨"if turn == 4:", none⟩, ⟨"elif turn == 5:", none⟩,
    ⟨"elif turn == 6:", none⟩]

/-- A method that takes turns. -/
def taking : Method :=
  { (default : Method) with name := "take", lines := turns }

/-- The body of the first chain, with the chain in it, is not counted; the three chains have six
branches beside their headers, all lines that can be such, and the two on one variable are a pair
of duplicates. -/
theorem branches_counted_once_turns :
    chainAt (turns.take 1 ++ turns.drop 5) 0 = chainAt turns 0 ∧ chainAt turns 0 = (4, 2) ∧
    headers turns = {0, 1, 9} ∧ ∑ i ∈ headers turns, ((chainAt turns i).1 - 1) = 6 ∧
    ∃ r, detector.detect (.ofMethod taking default none) [] = .ok (some r) ∧
      r.detail? "duplicated_switches" = some (.count 1) := by
  obtain ⟨hbodies, -, -, hreports⟩ := branches_counted_once
  obtain ⟨hexists, hreported⟩ := hreports taking default none []
  have hdeeper : GainsOnly (fun l : SourceLine ↦ 0 < l.indent) (turns.drop 5) (turns.drop 1) :=
    have hrest (lines : List SourceLine) : GainsOnly (fun l ↦ 0 < l.indent) lines lines := by
      induction lines with
      | nil => exact .nil
      | cons line _ ih => exact .keep line ih
    .gain (by decide) (.gain (by decide) (.gain (by decide) (.gain (by decide) (hrest _))))
  have hcatalog : detector ∈ Catalog.detectors := by simp [Catalog.detectors]
  obtain ⟨r, hr⟩ := hexists (usable_of_given hcatalog (List.forall_mem_nil _))
  refine ⟨hbodies [] _ _ ⟨"if turn == 1:", none⟩ hdeeper, by decide +kernel, by decide +kernel,
    by decide +kernel, r, hr, ?_⟩
  rw [(hreported r hr).2.2]
  exact congrArg (some ∘ Value.count) (by decide +kernel)

end CodeSmells.SwitchStatements
