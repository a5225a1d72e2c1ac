import CodeSmells.Proofs.Text.Blank
import CodeSmells.Script.Body
import Mathlib.Data.List.DropRight

/-!
# The rows of a body

The body of a function is given as a stretch of its script. Its lines are not quite the rows of that
stretch: what stands on the row of the header becomes a line of its own, comments below that are
deeper than the function are taken in, and blank rows and comments that are not deeper are left out
at the end. `mem_fullRows_iff` says which rows are taken in full. A row is taken when it is not
blank and a row from there on is neither blank nor a comment that belongs outside, down to which the
body reaches. A body reaches over its own rows, and below them over blank rows and deeper comments
only (`Span.ReachesTo`).

`bodyLines_keep_to_body` draws the conclusions. Lines stand in the order of their rows, none twice;
what follows the function never enters its body; and no row between two lines is lost unless it is
blank.
-/

set_option autoImplicit false
set_option relaxedAutoImplicit false

namespace CodeSmells.Script

open Text

/-! ### Lists of numbered members -/

/-- In a list with increasing numbers, what is left when members are dropped at the end are the
members up to the last one that is not dropped. -/
theorem mem_rdropWhile_iff {α : Type} {number : α → ℕ} {p : α → Bool} {xs : List α}
    (h : xs.Pairwise (number · < number ·)) {x : α} :
    x ∈ xs.rdropWhile p ↔ x ∈ xs ∧ ∃ y ∈ xs, number x ≤ number y ∧ p y = false := by
  induction xs using List.reverseRecOn with
  | nil => simp
  | append_singleton xs z ih =>
    rw [List.pairwise_append] at h
    have hlater : ∀ y ∈ xs, number y < number z := fun y hy ↦ h.2.2 y hy z List.mem_cons_self
    by_cases hz : p z = true
    · rw [List.rdropWhile_concat_pos _ _ _ hz, ih h.1]
      constructor
      · rintro ⟨hx, y, hy, hle, hkept⟩
        exact ⟨List.mem_append_left _ hx, y, List.mem_append_left _ hy, hle, hkept⟩
      · rintro ⟨hx, y, hy, hle, hkept⟩
        have hy : y ∈ xs := by
          rcases List.mem_append.mp hy with hy | hy
          · exact hy
          · rw [List.mem_singleton.mp hy, hz] at hkept
            cases hkept
        refine ⟨(List.mem_append.mp hx).resolve_right fun hx ↦ ?_, y, hy, hle, hkept⟩
        rw [List.mem_singleton.mp hx] at hle
        exact absurd (hlater y hy) (Nat.not_lt.mpr hle)
    · rw [List.rdropWhile_concat_neg _ _ _ hz]
      refine ⟨fun hx ↦ ⟨hx, z, by simp, ?_, Bool.eq_false_iff.mpr hz⟩, And.left⟩
      rcases List.mem_append.mp hx with hx | hx
      · exact (hlater x hx).le
      · rw [List.mem_singleton.mp hx]

/-! ### Rows -/

variable {rs : List (List Char)} {indent first last n : ℕ} {row : List Char}

theorem mem_numberedRows_iff :
    (n, row) ∈ numberedRows rs first last ↔ rs[n]? = some row ∧ first ≤ n ∧ n ≤ last := by
  have hzip : (n, row) ∈ (List.range rs.length).zip rs ↔ rs[n]? = some row := by
    simp only [List.mem_iff_getElem?, List.getElem?_zip_eq_some]
    constructor
    · rintro ⟨i, hnumber, hrow⟩
      obtain ⟨-, rfl⟩ := List.getElem?_eq_some_iff.mp hnumber
      rwa [List.getElem_range]
    · intro hrow
      exact ⟨n, List.getElem?_range (List.getElem?_eq_some_iff.mp hrow).1, hrow⟩
  rw [numberedRows, List.mem_filter, hzip]
  simp

theorem numberedRows_pairwise (rs : List (List Char)) (first last : ℕ) :
    (numberedRows rs first last).Pairwise (·.1 < ·.1) := by
  refine List.Pairwise.filter _ ?_
  have hnumbers : (((List.range rs.length).zip rs).map Prod.fst).Pairwise (· < ·) := by
    rw [List.map_fst_zip (by simp)]
    exact List.pairwise_lt_range
  exact List.pairwise_map.mp hnumbers

theorem not_isBlankRow_of_isDeepComment (h : isDeepComment indent row = true) :
    isBlankRow row = false := by
  rw [isDeepComment, Bool.and_eq_true, isCommentRow] at h
  rw [isBlankRow, List.isEmpty_eq_false_iff]
  intro hempty
  rw [hempty] at h
  exact absurd h.1 (by decide)

/-- A row that is neither blank nor a comment at most as deep as the function. -/
theorem isOutside_eq_false_iff : isOutside indent row = false ↔
    isBlankRow row = false ∧ (isCommentRow row = true → indent < indentOf row) := by
  rw [isOutside, Bool.or_eq_false_iff, Bool.and_eq_false_imp, decide_eq_false_iff_not]
  simp

/-! ### Comments below a body -/

theorem le_extendOver {row last : ℕ} (hlast : last < row) (rest : List (List Char)) :
    last ≤ extendOver indent row last rest := by
  fun_induction extendOver indent row last rest with
  | case1 => exact Nat.le_refl _
  | case2 row last r rest hblank ih => exact ih (by omega)
  | case3 row last r rest hblank hdeep ih =>
    have := ih (by omega)
    omega
  | case4 => exact Nat.le_refl _

/-- A body is extended over blank rows and deeper comments only. -/
theorem of_le_extendOver {row last i : ℕ} {rest : List (List Char)} {r : List Char}
    (hlast : last < row) (hreached : row + i ≤ extendOver indent row last rest)
    (hr : rest[i]? = some r) : isBlankRow r = true ∨ isDeepComment indent r = true := by
  fun_induction extendOver indent row last rest generalizing i with
  | case1 => cases hr
  | case2 row last first rest hblank ih =>
    cases i with
    | zero => cases hr; exact Or.inl hblank
    | succ i => exact ih (by omega) (by omega) hr
  | case3 row last first rest hblank hdeep ih =>
    cases i with
    | zero => cases hr; exact Or.inr hdeep
    | succ i => exact ih (by omega) (by omega) hr
  | case4 => omega

/-- A deeper comment is reached when there are only blank rows and deeper comments before it. -/
theorem le_extendOver_of_isDeepComment {row last i : ℕ} {rest : List (List Char)} {r : List Char}
    (hlast : last < row) (hr : rest[i]? = some r) (hdeep : isDeepComment indent r = true)
    (hbefore : ∀ j < i, ∀ between, rest[j]? = some between →
      isBlankRow between = true ∨ isDeepComment indent between = true) :
    row + i ≤ extendOver indent row last rest := by
  fun_induction extendOver indent row last rest generalizing i with
  | case1 => cases hr
  | case2 row last first rest hblank ih =>
    cases i with
    | zero =>
      cases hr
      rw [not_isBlankRow_of_isDeepComment hdeep] at hblank
      cases hblank
    | succ i =>
      have := ih (by omega) hr fun j hj between hbetween ↦
        hbefore (j + 1) (by omega) between hbetween
      omega
  | case3 row last first rest hblank hfirst ih =>
    cases i with
    | zero => exact le_extendOver (Nat.lt_succ_self _) _
    | succ i =>
      have := ih (by omega) hr fun j hj between hbetween ↦
        hbefore (j + 1) (by omega) between hbetween
      omega
  | case4 row last first rest hblank hnot =>
    cases i with
    | zero => cases hr; exact absurd hdeep hnot
    | succ i => exact absurd (hbefore 0 (Nat.succ_pos _) first rfl) (by simp [hblank, hnot])

/-! ### The rows that a body takes -/

variable {body : Span}

/-- The first row that may belong to a body in full. -/
def firstFullRow (rs : List (List Char)) (body : Span) : ℕ :=
  if startsInline rs body then body.start.row + 1 else body.start.row

/-- Below the body, down to the row `n`, there is nothing but blank rows and comments deeper than
the function. -/
def Span.ReachesTo (body : Span) (rs : List (List Char)) (indent n : ℕ) : Prop :=
  ∀ k row, body.lastRow < k → k ≤ n → rs[k]? = some row →
    isBlankRow row = true ∨ isDeepComment indent row = true

theorem Span.ReachesTo.mono {k : ℕ} (h : body.ReachesTo rs indent n) (hk : k ≤ n) :
    body.ReachesTo rs indent k :=
  fun j row hlast hj hrow ↦ h j row hlast (hj.trans hk) hrow

/-- A body that reaches down to a row that is not outside is extended that far, and no further. -/
theorem le_extended_iff (hrow : rs[n]? = some row) (hinside : isOutside indent row = false) :
    n ≤ extendOver indent (body.lastRow + 1) body.lastRow (rs.drop (body.lastRow + 1)) ↔
      body.ReachesTo rs indent n := by
  constructor
  · intro hle k between hlast hk hbetween
    obtain ⟨i, rfl⟩ := Nat.exists_eq_add_of_le (Nat.succ_le_of_lt hlast)
    refine of_le_extendOver (Nat.lt_succ_self _) (hk.trans hle) ?_
    rw [List.getElem?_drop]
    exact hbetween
  · intro hreaches
    by_cases hown : n ≤ body.lastRow
    · exact hown.trans (le_extendOver (Nat.lt_succ_self _) _)
    · obtain ⟨i, rfl⟩ := Nat.exists_eq_add_of_le (Nat.succ_le_of_lt (Nat.lt_of_not_le hown))
      have hdeep : isDeepComment indent row = true :=
        (hreaches _ row (Nat.lt_of_not_le hown) (Nat.le_refl _) hrow).resolve_left
          (Bool.eq_false_iff.mp (isOutside_eq_false_iff.mp hinside).1)
      refine le_extendOver_of_isDeepComment (Nat.lt_succ_self _) ?_ hdeep
        fun j hj between hbetween ↦ ?_
      · rw [List.getElem?_drop]
        exact hrow
      · rw [List.getElem?_drop] at hbetween
        exact hreaches _ between (by omega) (by omega) hbetween

/-- The full rows of a body are the rows down to the last one that is not outside, as far as the
body reaches. -/
theorem mem_bodyRows_iff : (n, row) ∈ bodyRows rs indent body ↔
    rs[n]? = some row ∧ firstFullRow rs body ≤ n ∧
      ∃ m inside, n ≤ m ∧ rs[m]? = some inside ∧ isOutside indent inside = false ∧
        body.ReachesTo rs indent m := by
  have hrows : bodyRows rs indent body =
      (numberedRows rs (firstFullRow rs body) (extendOver indent (body.lastRow + 1) body.lastRow
        (rs.drop (body.lastRow + 1)))).rdropWhile fun e ↦ isOutside indent e.2 := rfl
  rw [hrows, mem_rdropWhile_iff (numberedRows_pairwise _ _ _)]
  simp only [Prod.exists, mem_numberedRows_iff]
  constructor
  · rintro ⟨⟨hrow, hfirst, -⟩, m, inside, ⟨hm, -, hle⟩, hnm, hinside⟩
    exact ⟨hrow, hfirst, m, inside, hnm, hm, hinside, (le_extended_iff hm hinside).mp hle⟩
  · rintro ⟨hrow, hfirst, m, inside, hnm, hm, hinside, hreaches⟩
    have hle := (le_extended_iff hm hinside).mpr hreaches
    exact ⟨⟨hrow, hfirst, hnm.trans hle⟩, m, inside, ⟨hm, hfirst.trans hnm, hle⟩, hnm, hinside⟩

/-- The rows of a body that become lines, with their numbers. -/
def fullRows (rs : List (List Char)) (indent : ℕ) (body : Span) : List (ℕ × List Char) :=
  (bodyRows rs indent body).filter fun e ↦ !isBlankRow e.2

theorem mem_fullRows_iff : (n, row) ∈ fullRows rs indent body ↔
    rs[n]? = some row ∧ isBlankRow row = false ∧ firstFullRow rs body ≤ n ∧
      ∃ m inside, n ≤ m ∧ rs[m]? = some inside ∧ isOutside indent inside = false ∧
        body.ReachesTo rs indent m := by
  rw [fullRows, List.mem_filter, mem_bodyRows_iff, Bool.not_eq_true', and_right_comm, and_assoc]

/-- A row that the body reaches is taken unless it is outside. -/
theorem mem_fullRows_of_inside (hrow : rs[n]? = some row) (hinside : isOutside indent row = false)
    (hfirst : firstFullRow rs body ≤ n) (hreaches : body.ReachesTo rs indent n) :
    (n, row) ∈ fullRows rs indent body :=
  mem_fullRows_iff.mpr ⟨hrow, (isOutside_eq_false_iff.mp hinside).1, hfirst, n, row, Nat.le_refl _,
    hrow, hinside, hreaches⟩

theorem fullRows_pairwise (rs : List (List Char)) (indent : ℕ) (body : Span) :
    (fullRows rs indent body).Pairwise (·.1 < ·.1) :=
  ((numberedRows_pairwise _ _ _).sublist (List.rdropWhile_prefix _ _).sublist).filter _

/-- The last row that is taken in full is not outside. -/
theorem isOutside_of_getLast?_fullRows
    (h : (fullRows rs indent body).getLast? = some (n, row)) : isOutside indent row = false := by
  obtain ⟨front, hfront⟩ := List.getLast?_eq_some_iff.mp h
  have hlast : ∀ e ∈ fullRows rs indent body, e.1 ≤ n := by
    have hpairs := fullRows_pairwise rs indent body
    rw [hfront, List.pairwise_append] at hpairs
    intro e he
    rw [hfront, List.mem_append, List.mem_singleton] at he
    rcases he with he | rfl
    · exact (hpairs.2.2 e he _ List.mem_cons_self).le
    · exact Nat.le_refl _
  obtain ⟨hrow, -, hfirst, m, inside, hnm, hm, hinside, hreaches⟩ :=
    mem_fullRows_iff.mp (List.mem_of_getLast? h)
  obtain rfl : n = m := hnm.antisymm
    (hlast _ (mem_fullRows_of_inside hm hinside (hfirst.trans hnm) hreaches))
  cases hrow.symm.trans hm
  exact hinside

/-! ### Lines -/

/-- The line of a row that is taken in full. -/
def rowLine (e : ℕ × List Char) : SourceLine :=
  ⟨String.ofList e.2, some ((e.1 + 1 : ℕ) : ℤ)⟩

theorem content_rowLine (e : ℕ × List Char) : (rowLine e).content = trim e.2 := by
  rw [rowLine, SourceLine.content, String.toList_ofList]

theorem indent_rowLine (e : ℕ × List Char) : (rowLine e).indent = indentOf e.2 := by
  rw [rowLine, SourceLine.indent, String.toList_ofList]

/-- The part of a body on the row of its header. -/
def headerLines (rs : List (List Char)) (indent : ℕ) (body : Span) : List SourceLine :=
  if startsInline rs body then inlineLine rs indent body else []

theorem bodyLines_eq (rs : List (List Char)) (indent : ℕ) (body : Span) :
    bodyLines rs indent body =
      headerLines rs indent body ++ (fullRows rs indent body).map rowLine := rfl

/-- On the row of the header a body has at most one line, and then it starts there and has no
comment there. -/
theorem headerLines_cases (rs : List (List Char)) (indent : ℕ) (body : Span) :
    headerLines rs indent body = [] ∨
      firstFullRow rs body = body.start.row + 1 ∧ ∃ line, headerLines rs indent body = [line] ∧
        line.number = some ((body.start.row + 1 : ℕ) : ℤ) ∧ line.content ≠ [] ∧
        line.content.head? ≠ some '#' := by
  rw [headerLines, firstFullRow]
  split
  · rw [inlineLine]
    split
    · exact Or.inl rfl
    · next hcode =>
      simp only [Bool.or_eq_true, List.isEmpty_iff, beq_iff_eq, not_or] at hcode
      refine Or.inr ⟨rfl, _, rfl, rfl, ?_⟩
      have hspaces : ∀ c ∈ List.replicate (indent + tabWidth) ' ', isBlank c = true :=
        fun c hc ↦ by rw [List.eq_of_mem_replicate hc]; decide
      have htrim := ignoresBlanks_trim _
        (trim (((rs[body.start.row]?).getD []).drop body.start.column)) [] hspaces nofun
      rw [List.append_nil, ignoresBlanks_trim.apply_trim] at htrim
      rw [SourceLine.content, String.toList_ofList, htrim]
      exact hcode
  · exact Or.inl rfl

/-- The rows on which the lines of a body stand. -/
def takenRows (rs : List (List Char)) (indent : ℕ) (body : Span) : List ℕ :=
  (headerLines rs indent body).map (fun _ ↦ body.start.row) ++
    (fullRows rs indent body).map Prod.fst

/-- Rows are counted from nought and lines are numbered from one. -/
theorem map_number_bodyLines (rs : List (List Char)) (indent : ℕ) (body : Span) :
    (bodyLines rs indent body).map (·.number) =
      (takenRows rs indent body).map fun n ↦ some ((n + 1 : ℕ) : ℤ) := by
  have hfull : ((fullRows rs indent body).map rowLine).map (·.number) =
      ((fullRows rs indent body).map Prod.fst).map fun n ↦ some ((n + 1 : ℕ) : ℤ) := by
    rw [List.map_map, List.map_map]
    rfl
  rw [bodyLines_eq, takenRows, List.map_append, List.map_append, hfull]
  rcases headerLines_cases rs indent body with hnone | ⟨-, line, hone, hnumber, -⟩
  · rw [hnone]
    rfl
  · rw [hone, List.map_singleton, List.map_singleton, List.map_singleton, hnumber]

theorem takenRows_pairwise (rs : List (List Char)) (indent : ℕ) (body : Span) :
    (takenRows rs indent body).Pairwise (· < ·) := by
  have hfull : ((fullRows rs indent body).map Prod.fst).Pairwise (· < ·) :=
    List.pairwise_map.mpr (fullRows_pairwise rs indent body)
  rw [takenRows]
  rcases headerLines_cases rs indent body with hnone | ⟨hfirst, line, hone, -⟩
  · rw [hnone]
    exact hfull
  · rw [hone, List.map_singleton, List.singleton_append, List.pairwise_cons, List.forall_mem_map]
    refine ⟨fun e he ↦ ?_, hfull⟩
    have hle := (mem_fullRows_iff.mp he).2.2.1
    omega

/-- A row is taken as that of the header or in full. -/
theorem mem_takenRows (h : n ∈ takenRows rs indent body) :
    n = body.start.row ∧ n < firstFullRow rs body ∨ ∃ row, (n, row) ∈ fullRows rs indent body := by
  rw [takenRows, List.mem_append, List.mem_map, List.mem_map] at h
  rcases h with ⟨line, hline, rfl⟩ | ⟨⟨m, row⟩, he, rfl⟩
  · rcases headerLines_cases rs indent body with hnone | ⟨hfirst, -⟩
    · rw [hnone] at hline
      cases hline
    · exact Or.inl ⟨rfl, hfirst ▸ Nat.lt_succ_self _⟩
  · exact Or.inr ⟨row, he⟩

theorem isBlank_of_mem_bodyLines {line : SourceLine} (h : line ∈ bodyLines rs indent body) :
    line.isBlank = false := by
  rw [bodyLines_eq, List.mem_append, List.mem_map] at h
  rw [SourceLine.isBlank, List.isEmpty_eq_false_iff]
  rcases h with h | ⟨⟨n, row⟩, he, rfl⟩
  · rcases headerLines_cases rs indent body with hnone | ⟨-, only, hone, -, hcontent, -⟩
    · rw [hnone] at h
      cases h
    · rw [hone, List.mem_singleton] at h
      rwa [h]
  · rw [content_rowLine]
    exact List.isEmpty_eq_false_iff.mp (mem_fullRows_iff.mp he).2.1

/-- The last line of a body is no comment at most as deep as the function. -/
theorem lt_indent_of_getLast?_bodyLines {line : SourceLine}
    (h : (bodyLines rs indent body).getLast? = some line)
    (hcomment : line.content.head? = some '#') : indent < line.indent := by
  rw [bodyLines_eq, List.getLast?_append, List.getLast?_map] at h
  cases hlast : (fullRows rs indent body).getLast? with
  | some e =>
    rw [hlast] at h
    obtain rfl : rowLine e = line := by simpa using h
    rw [content_rowLine] at hcomment
    rw [indent_rowLine]
    exact (isOutside_eq_false_iff.mp (isOutside_of_getLast?_fullRows hlast)).2
      (beq_iff_eq.mpr hcomment)
  | none =>
    rw [hlast] at h
    rcases headerLines_cases rs indent body with hnone | ⟨-, only, hone, -, -, hcode⟩
    · rw [hnone] at h
      cases h
    · rw [hone] at h
      obtain rfl : only = line := by simpa using h
      exact absurd hcomment hcode

theorem start_row_le_firstFullRow (rs : List (List Char)) (body : Span) :
    body.start.row ≤ firstFullRow rs body := by
  rw [firstFullRow]
  split
  · exact Nat.le_succ _
  · exact Nat.le_refl _

theorem start_row_le_lastRow (hspan : body.start.row ≤ body.stop.row) :
    body.start.row ≤ body.lastRow := by
  rw [Span.lastRow]
  split
  · next hpast =>
    simp only [Bool.and_eq_true, decide_eq_true_eq] at hpast
    omega
  · exact hspan

/-- A body reaches down to every row that it takes. -/
theorem reachesTo_of_mem_takenRows (hspan : body.start.row ≤ body.stop.row)
    (h : n ∈ takenRows rs indent body) : body.ReachesTo rs indent n := by
  rcases mem_takenRows h with ⟨rfl, -⟩ | ⟨row, he⟩
  · intro k row hlast hk _
    have := start_row_le_lastRow hspan
    omega
  · obtain ⟨-, -, -, m, -, hnm, -, -, hreaches⟩ := mem_fullRows_iff.mp he
    exact hreaches.mono hnm

/-- What a body takes of the rows of a script, for all rows, every indentation of the function and
every stretch that does not end above its first row. No line of the body is blank, and the last one
is no comment at most as deep as the function. The lines stand on rows in increasing order, from the
row on which the body starts. Each one past the body's own last row is a comment deeper than the
function, and between that last row and it there is nothing but blank rows and such comments. From
the first row that belongs to the body in full, each row that is not blank is a line with its whole
text if a line stands on it or below. So is each row that is neither blank nor a comment at most as
deep as the function, as far as the body reaches. A row below the body that is neither blank nor a
deeper comment, such as the header of the next function, ends it: no line stands there or below. -/
theorem bodyLines_keep_to_body {body : Span} (hspan : body.start.row ≤ body.stop.row)
    (rs : List (List Char)) (indent : ℕ) :
    (∀ line ∈ bodyLines rs indent body, line.isBlank = false) ∧
    (∀ line ∈ (bodyLines rs indent body).getLast?,
      line.content.head? = some '#' → indent < line.indent) ∧
    ∃ taken : List ℕ,
      (bodyLines rs indent body).map (·.number) = taken.map (fun n ↦ some ((n + 1 : ℕ) : ℤ)) ∧
      taken.Pairwise (· < ·) ∧
      (∀ n ∈ taken, body.start.row ≤ n) ∧
      (∀ n ∈ taken, body.lastRow < n →
        ∃ row, rs[n]? = some row ∧ isDeepComment indent row = true) ∧
      (∀ n ∈ taken, body.ReachesTo rs indent n) ∧
      (∀ k row, firstFullRow rs body ≤ k → rs[k]? = some row → isBlankRow row = false →
        (∃ n ∈ taken, k ≤ n) → rowLine (k, row) ∈ bodyLines rs indent body) ∧
      (∀ k row, firstFullRow rs body ≤ k → rs[k]? = some row → isOutside indent row = false →
        body.ReachesTo rs indent k → rowLine (k, row) ∈ bodyLines rs indent body) ∧
      ∀ k row, body.lastRow < k → rs[k]? = some row → isBlankRow row = false →
        isDeepComment indent row = false → ∀ n ∈ taken, n < k := by
  have hline : ∀ {e}, e ∈ fullRows rs indent body → rowLine e ∈ bodyLines rs indent body := by
    intro e he
    rw [bodyLines_eq]
    exact List.mem_append_right _ (List.mem_map_of_mem he)
  refine ⟨fun _ ↦ isBlank_of_mem_bodyLines, fun _ ↦ lt_indent_of_getLast?_bodyLines,
    takenRows rs indent body, map_number_bodyLines rs indent body,
    takenRows_pairwise rs indent body, fun n hn ↦ ?_, fun n hn hlast ↦ ?_,
    fun n ↦ reachesTo_of_mem_takenRows hspan, fun k row hfirst hrow hblank ⟨n, hn, hkn⟩ ↦ ?_,
    fun k row hfirst hrow hinside hreaches ↦
      hline (mem_fullRows_of_inside hrow hinside hfirst hreaches),
    fun k row hlast hrow hblank hnot n hn ↦ ?_⟩
  · rcases mem_takenRows hn with ⟨rfl, -⟩ | ⟨row, he⟩
    · exact Nat.le_refl _
    · exact (start_row_le_firstFullRow rs body).trans (mem_fullRows_iff.mp he).2.2.1
  · rcases mem_takenRows hn with ⟨rfl, -⟩ | ⟨row, he⟩
    · exact absurd hlast (Nat.not_lt.mpr (start_row_le_lastRow hspan))
    · obtain ⟨hrow, hblank, -⟩ := mem_fullRows_iff.mp he
      exact ⟨row, hrow, (reachesTo_of_mem_takenRows hspan hn n row hlast (Nat.le_refl _)
        hrow).resolve_left (Bool.eq_false_iff.mp hblank)⟩
  · rcases mem_takenRows hn with ⟨rfl, hheader⟩ | ⟨other, he⟩
    · omega
    · obtain ⟨-, -, -, m, inside, hnm, hm, hinside, hreaches⟩ := mem_fullRows_iff.mp he
      exact hline (mem_fullRows_iff.mpr
        ⟨hrow, hblank, hfirst, m, inside, hkn.trans hnm, hm, hinside, hreaches⟩)
  · by_contra hle
    rcases reachesTo_of_mem_takenRows hspan hn k row hlast (Nat.le_of_not_lt hle) hrow with h | h
    · exact Bool.false_ne_true (hblank.symm.trans h)
    · exact Bool.false_ne_true (hnot.symm.trans h)

/-- A body that starts on the row of its header and ends before the first character of the row after
it. The deeper comment below belongs to it, the other one and the next function do not. -/
theorem bodyLines_keep_to_body_inline :
    let rs := ["\tfunc fire(): shoot()", "", "\t\t# once", "\t# twice", "\tfunc rest():"].map
      String.toList
    let body : Span := ⟨⟨14, 0, 14⟩, ⟨22, 1, 0⟩⟩
    body.start.row ≤ body.stop.row ∧
      bodyLines rs 4 body = [⟨"        shoot()", some 1⟩, ⟨"\t\t# once", some 3⟩] ∧
      ∃ taken : List ℕ,
        (bodyLines rs 4 body).map (·.number) = taken.map (fun n ↦ some ((n + 1 : ℕ) : ℤ)) ∧
        taken.Pairwise (· < ·) ∧ ∀ n ∈ taken, n < 3 := by
  intro rs body
  have hspan : body.start.row ≤ body.stop.row := by decide
  obtain ⟨-, -, taken, hnumbers, hordered, -, -, -, -, -, hnext⟩ :=
    bodyLines_keep_to_body hspan rs 4
  exact ⟨hspan, by decide +kernel, taken, hnumbers, hordered,
    hnext 3 "\t# twice".toList (by decide) rfl (by decide) (by decide)⟩

end CodeSmells.Script
