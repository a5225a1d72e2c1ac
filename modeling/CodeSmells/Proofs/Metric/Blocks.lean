import CodeSmells.Metric.Block
import Mathlib.Data.Int.Notation
import Mathlib.Data.List.Basic

/-!
# The bodies of conditionals

Which conditionals a line stands in can be said by looking at the lines alone: the line at `p` heads
a body that holds the line at `i` when it is a conditional header and is indented less than that
line and than every code line between the two (`Heads`). Nothing is asked of the indentation
otherwise, which may fall back to a width that no line above it has.

The search does not look at all lines between. It walks back and keeps one width, that of the last
line it met that was indented less than all lines after it. This is the least width met so far, so
that to be indented less than it is to be indented less than every code line passed
(`insideConditional_iff`). Counted from the start of the body this is `enclosingConditional_iff`.
-/

set_option autoImplicit false
set_option relaxedAutoImplicit false

namespace CodeSmells

/-! ### Headers -/

namespace SourceLine

/-- A code line that opens a conditional. -/
def IsHeader (line : SourceLine) : Prop :=
  line.isCode = true ∧ isConditionalHeader line.content = true

/-- A line is indented less than a width and than each of some lines that is code. -/
def StartsLeftOf (header : SourceLine) (width : ℕ) (between : List SourceLine) : Prop :=
  header.indent < width ∧ ∀ line ∈ between, line.isCode = true → header.indent < line.indent

variable {header line : SourceLine} {width : ℕ} {between : List SourceLine}

theorem startsLeftOf_nil : header.StartsLeftOf width [] ↔ header.indent < width :=
  and_iff_left nofun

/-- One more code line that is indented less takes the place of the width. -/
theorem startsLeftOf_cons_of_lt (hcode : line.isCode = true) (hlt : line.indent < width) :
    header.StartsLeftOf width (line :: between) ↔ header.StartsLeftOf line.indent between := by
  rw [StartsLeftOf, StartsLeftOf, List.forall_mem_cons]
  constructor
  · rintro ⟨-, hline, hbetween⟩
    exact ⟨hline hcode, hbetween⟩
  · rintro ⟨hline, hbetween⟩
    exact ⟨Nat.lt_trans hline hlt, fun _ ↦ hline, hbetween⟩

/-- One more line that is no code, or is indented as much, asks nothing. -/
theorem startsLeftOf_cons_of_not (h : ¬(line.isCode = true ∧ line.indent < width)) :
    header.StartsLeftOf width (line :: between) ↔ header.StartsLeftOf width between := by
  rw [StartsLeftOf, StartsLeftOf, List.forall_mem_cons]
  constructor
  · rintro ⟨hwidth, -, hbetween⟩
    exact ⟨hwidth, hbetween⟩
  · rintro ⟨hwidth, hbetween⟩
    exact ⟨hwidth, fun hcode ↦ by have := mt (And.intro hcode) h; omega, hbetween⟩

end SourceLine

/-! ### The walk back -/

/-- A walk back from a line with the indent `current` succeeds exactly if it meets a header that is
indented less than that and than every code line passed before. -/
theorem insideConditional_iff {current : ℕ} {earlier : List SourceLine} :
    insideConditional current earlier = true ↔
      ∃ passed header rest, earlier = passed ++ header :: rest ∧ header.IsHeader ∧
        header.StartsLeftOf current passed := by
  induction earlier generalizing current with
  | nil => simp [insideConditional]
  | cons line earlier ih =>
    -- A header that is met is the line itself or stands further back, with the line passed.
    have hsplit : (∃ passed header rest, line :: earlier = passed ++ header :: rest ∧
          header.IsHeader ∧ header.StartsLeftOf current passed) ↔
        (line.IsHeader ∧ line.indent < current) ∨
          ∃ passed header rest, earlier = passed ++ header :: rest ∧ header.IsHeader ∧
            header.StartsLeftOf current (line :: passed) := by
      constructor
      · rintro ⟨passed, header, rest, hlines, hheader, hleft⟩
        rcases List.cons_eq_append_iff.mp hlines with ⟨rfl, hline⟩ | ⟨passed, rfl, hlines⟩
        · cases hline
          exact Or.inl ⟨hheader, hleft.1⟩
        · exact Or.inr ⟨passed, header, rest, (List.cons.inj hlines).2, hheader, hleft⟩
      · rintro (⟨hheader, hlt⟩ | ⟨passed, header, rest, rfl, hheader, hleft⟩)
        · exact ⟨[], line, earlier, rfl, hheader, SourceLine.startsLeftOf_nil.mpr hlt⟩
        · exact ⟨line :: passed, header, rest, rfl, hheader, hleft⟩
    rw [hsplit, insideConditional]
    split
    · next hless =>
      rw [Bool.and_eq_true, decide_eq_true_iff] at hless
      obtain ⟨hcode, hlt⟩ := hless
      simp only [SourceLine.startsLeftOf_cons_of_lt hcode hlt, Bool.or_eq_true, ih,
        SourceLine.IsHeader, hcode, hlt, true_and, and_true]
    · next hnot =>
      rw [Bool.and_eq_true, decide_eq_true_iff] at hnot
      have hpassed : ¬(line.IsHeader ∧ line.indent < current) := fun h ↦ hnot ⟨h.1.1, h.2⟩
      simp only [SourceLine.startsLeftOf_cons_of_not hnot, ih, hpassed, false_or]

/-! ### Places in a body -/

section Places

variable {lines : List SourceLine} {p i : ℕ} {line : SourceLine}

/-- The lines strictly between two indices. -/
theorem mem_drop_take_iff :
    line ∈ (lines.take i).drop (p + 1) ↔ ∃ j, p < j ∧ j < i ∧ lines[j]? = some line := by
  simp only [List.mem_iff_getElem?, List.getElem?_drop, List.getElem?_take]
  constructor
  · rintro ⟨n, hn⟩
    split at hn
    · next hlt => exact ⟨p + 1 + n, by omega, hlt, hn⟩
    · cases hn
  · rintro ⟨j, hp, hi, hj⟩
    obtain ⟨n, rfl⟩ := Nat.exists_eq_add_of_le hp
    exact ⟨n, by rw [if_pos hi, hj]⟩

/-- A walk back from an index comes to each line before it, and has passed the lines between. -/
theorem exists_reverse_take_eq_iff {passed : List SourceLine} :
    (∃ rest, (lines.take i).reverse = passed ++ line :: rest) ↔
      ∃ p < i, lines[p]? = some line ∧ passed = ((lines.take i).drop (p + 1)).reverse := by
  constructor
  · rintro ⟨rest, hrest⟩
    have hfront : lines.take i = rest.reverse ++ line :: passed.reverse := by
      rw [← List.reverse_inj, hrest]
      simp
    have hlength : (lines.take i).length ≤ i := List.length_take_le i lines
    have hp : rest.reverse.length < i := by
      rw [hfront, List.length_append, List.length_cons] at hlength
      omega
    refine ⟨rest.reverse.length, hp, ?_, ?_⟩
    · rw [← List.getElem?_take_of_lt hp, hfront, List.getElem?_append_right (Nat.le_refl _),
        Nat.sub_self]
      rfl
    · rw [hfront, List.drop_append, List.drop_eq_nil_of_le (Nat.le_succ _), Nat.add_sub_cancel_left]
      simp
  · rintro ⟨p, hp, hline, rfl⟩
    have hthere : (lines.take i)[p]? = some line := by rw [List.getElem?_take_of_lt hp, hline]
    obtain ⟨hlt, hget⟩ := List.getElem?_eq_some_iff.mp hthere
    refine ⟨((lines.take i).take p).reverse, ?_⟩
    calc (lines.take i).reverse
        = ((lines.take i).take p ++ (lines.take i).drop p).reverse := by rw [List.take_append_drop]
      _ = _ := by
        rw [List.drop_eq_getElem_cons hlt, hget, List.reverse_append, List.reverse_cons,
          List.append_assoc, List.singleton_append]

/-- The line at `p` is a conditional header that is indented less than the line at `i` and than
every code line strictly between the two. -/
def Heads (lines : List SourceLine) (p i : ℕ) : Prop :=
  ∃ header line, lines[p]? = some header ∧ lines[i]? = some line ∧ header.IsHeader ∧
    header.indent < line.indent ∧
    ∀ j between, p < j → j < i → lines[j]? = some between → between.isCode = true →
      header.indent < between.indent

theorem enclosingConditional_iff :
    enclosingConditional lines i = true ↔ ∃ p < i, Heads lines p i := by
  rw [enclosingConditional]
  cases hline : lines[i]? with
  | none => simp [Heads, hline]
  | some line =>
    simp only [insideConditional_iff]
    constructor
    · rintro ⟨passed, header, rest, hsplit, hheader, hlt, hpassed⟩
      obtain ⟨p, hp, hget, rfl⟩ := exists_reverse_take_eq_iff.mp ⟨rest, hsplit⟩
      refine ⟨p, hp, header, line, hget, hline, hheader, hlt, fun j between hpj hji hj ↦ ?_⟩
      exact hpassed between (List.mem_reverse.mpr (mem_drop_take_iff.mpr ⟨j, hpj, hji, hj⟩))
    · rintro ⟨p, hp, header, other, hget, hother, hheader, hlt, hbetween⟩
      cases hline.symm.trans hother
      obtain ⟨rest, hsplit⟩ := exists_reverse_take_eq_iff.mpr ⟨p, hp, hget, rfl⟩
      refine ⟨_, header, rest, hsplit, hheader, hlt, fun between hmem ↦ ?_⟩
      obtain ⟨j, hpj, hji, hj⟩ := mem_drop_take_iff.mp (List.mem_reverse.mp hmem)
      exact hbetween j between hpj hji hj

theorem enclosingConditionalAt_natCast (hi : i < lines.length) :
    enclosingConditionalAt lines i = enclosingConditional lines i := by
  rw [enclosingConditionalAt]
  split
  · next houtside =>
    -- only the first line is left, which has no line before it
    obtain rfl : i = 0 := by simp at houtside; omega
    rw [enclosingConditional]
    cases lines[0]? <;> rfl
  · rfl

/-- What encloses a line, whatever the lines and their indentation. At an index of a line the search
says yes exactly when some line before it is code and a conditional header, and is indented less
than the line at the index and than every code line strictly between the two. At every other index,
before the first line or after the last, it says no. -/
theorem enclosingConditionalAt_follows_blocks (lines : List SourceLine) :
    (∀ i : ℕ, i < lines.length →
      (enclosingConditionalAt lines i = true ↔ ∃ p < i, Heads lines p i)) ∧
    ∀ index : ℤ, index < 0 ∨ lines.length ≤ index → enclosingConditionalAt lines index = false := by
  constructor
  · intro i hi
    rw [enclosingConditionalAt_natCast hi, enclosingConditional_iff]
  · intro index houtside
    refine if_pos ?_
    rw [Bool.or_eq_true, decide_eq_true_iff, decide_eq_true_iff]
    omega

-- The third line falls back to a width that no line before it has, and is in the body still.
example :
    let lines : List SourceLine :=
      [⟨"\tif ready:", none⟩, ⟨"\t\t\tfire()", none⟩, ⟨"\t\trest()", none⟩, ⟨"\tgo()", none⟩]
    enclosingConditionalAt lines 2 = true ∧ enclosingConditionalAt lines 3 = false ∧
      enclosingConditionalAt lines (-1) = false := by
  decide +kernel

end Places

end CodeSmells
